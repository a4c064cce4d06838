import Detour.Addon

/-!
# Scripted addons

An addon whose handlers note that they are called and then do what their script says, for
rehearsing a chain. The notes are the world of such addons, the latest first.
-/
namespace Detour

/-- A note of a call, or of the beginning of one that is suspended. -/
structure ScriptNote where
  addon : String
  event : Event
  begun : Bool
  deriving DecidableEq, Repr

inductive Script where
  | note
  | fail (f : Failure)
  /-- Suspended after its beginning has been noted. -/
  | suspend
  | suspendAndFail (f : Failure)
  | awaitable
  | notCallable
  | absent

namespace Script

def write (addon : String) (event : Event) (begun : Bool) : Handling (List ScriptNote) Unit :=
  fun _ => modify fun s => { s with world := ⟨addon, event, begun⟩ :: s.world }

def noteAndFail (addon : String) (event : Event) (f : Failure) : Handling (List ScriptNote) Unit :=
  fun table => do
    write addon event false table
    throw f

def suspendThen (addon : String) (event : Event) (work : Handling (List ScriptNote) Unit) :
    Handler (List ScriptNote) :=
  .suspending fun table => do
    write addon event true table
    return some work

def handler (addon : String) (event : Event) : Script → Handler (List ScriptNote)
  | note => .plain (write addon event false)
  | fail f => .plain (noteAndFail addon event f)
  | suspend => suspendThen addon event (write addon event false)
  | suspendAndFail f => suspendThen addon event (noteAndFail addon event f)
  | awaitable => .awaitable (write addon event false)
  | notCallable => .notCallable
  | absent => .absent

end Script
end Detour
