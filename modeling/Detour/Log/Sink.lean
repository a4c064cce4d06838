import Detour.Log

/-!
# Sinks of log records

A sink takes the records from its level on, and of those only the ones that contain some words if
it is so limited. A sink made during a test run belongs to that run: it takes nothing in other
runs, and when it is installed it replaces the sinks that do not belong to its run.
-/
namespace Detour

structure Sink where
  serial : Nat
  id : String
  level : Nat
  only : Option String
  /-- The test run it was made in. -/
  run : Option String
  deriving DecidableEq, Repr

namespace Sink

/-- Whether the sink takes a message of some level during a test run. -/
def takes (s : Sink) (run : Option String) (level : Nat) (message : String) : Bool :=
  s.level ≤ level && (s.run.isNone || s.run = run) &&
    match s.only with
    | none => true
    | some words => Text.isInfix words.toList message.toList

/-- Install a sink behind those that are installed. -/
def install (s : Sink) (installed : List Sink) : List Sink :=
  let kept := if s.run.isSome then installed.filter (·.run = s.run) else installed
  if kept.contains s then kept else kept ++ [s]

def uninstall (s : Sink) (installed : List Sink) : List Sink := installed.filter (· != s)

/-- Records below this level are not made at all. -/
def leastLevel : Nat := Level.debug

/-- The sinks that take a message, in order. -/
def takers (installed : List Sink) (run : Option String) (level : Nat) (message : String) : List Sink :=
  if level < leastLevel then [] else installed.filter (·.takes run level message)

end Sink

/-- The sinks made so far, the latest first, and those installed, in a test run. -/
structure SinkRoom where
  run : Option String
  made : List Sink
  installed : List Sink
  deriving Repr

namespace SinkRoom

def empty : SinkRoom := ⟨none, [], []⟩

def find? (r : SinkRoom) (id : String) : Option Sink := r.made.find? (·.id = id)

/-- A test run without a name is none. -/
def make (r : SinkRoom) (id : String) (level : Nat) (only : Option String) : SinkRoom :=
  { r with made := ⟨r.made.length, id, level, only, r.run.filter (· != "")⟩ :: r.made }

def install (r : SinkRoom) (id : String) : SinkRoom :=
  { r with installed := (r.find? id).elim r.installed fun s => s.install r.installed }

def uninstall (r : SinkRoom) (id : String) : SinkRoom :=
  { r with installed := (r.find? id).elim r.installed fun s => s.uninstall r.installed }

/-- The names of the sinks that take a message, in order. -/
def takers (r : SinkRoom) (level : Nat) (message : String) : List String :=
  (Sink.takers r.installed r.run level message).map (·.id)

end SinkRoom
end Detour
