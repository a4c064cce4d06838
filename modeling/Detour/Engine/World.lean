import Detour.Addon
import Detour.Engine.Replay
import Detour.Guard
import Detour.Store
import Detour.Tabs
import Detour.Terminal

/-!
# The world of the engine

Everything that the engine's addons keep between events, together with the files and the tasks
that wait to be run. The rules are kept in memory unless they are read from a file; a reading of
the memory is counted, may be made to fail and may be held back.
-/
namespace Detour

structure RuleMemory where
  entries : Entries
  reads : Nat
  failure : Option Failure
  held : Bool
  deriving Repr

namespace RuleMemory

def ofEntries (entries : Entries) : RuleMemory := ⟨entries, 0, none, false⟩

end RuleMemory

/-- For whom a record is read: for a caller that waits for the number of events, or in the
background, from a file. -/
inductive Reader where
  | caller
  | background (serial : Nat) (path : String)
  deriving DecidableEq, Repr

inductive Task where
  | alarm (t : AlarmTask)
  | navigate (tab : Id) (url : String)
  /-- Open a file of events in the background. -/
  | openRecord (serial : Nat) (path : String)
  | read (who : Reader) (r : Reading)
  | exit
  deriving Repr

structure World where
  files : FileTree
  input : String
  memory : RuleMemory
  /-- The file that rules are read from instead of the memory. -/
  rulesPath : Option Path
  /-- How often the store in use has been read. -/
  lookups : Nat
  guard : Guard
  /-- The redirects recorded so far, the latest first. -/
  redirects : List GuardEntry
  alarms : Alarms
  /-- The alarms that have gone off, the latest first. -/
  fired : List Alarm
  cleanupScheduled : Bool
  tabs : Tabs
  agenda : Agenda Task
  /-- The reading under way that was started last in the background. -/
  reading : Option Nat
  nextReading : Nat
  /-- How the reading for a caller has ended. -/
  answer : Option (Except Failure Nat)
  exiting : Bool
  terminal : Terminal

namespace World

def fresh (files : FileTree) (input : String) (memory : RuleMemory) (tabs : Tabs) : World :=
  { files, input, memory, rulesPath := none, lookups := 0, guard := .fresh, redirects := []
    alarms := .fresh, fired := [], cleanupScheduled := false, tabs, agenda := .empty
    reading := none, nextReading := 0, answer := none, exiting := false, terminal := .fresh }

/-- The store in use. -/
def store (w : World) : Store :=
  match w.rulesPath with
  | some p => .file p
  | none => .memory w.memory.entries

def spawn (w : World) (t : Task) : World := { w with agenda := w.agenda.spawn t }

def mapGuard (w : World) (f : Guard → Guard) : World := { w with guard := f w.guard }

/-- Count a reading of the store in use; the memory counts its own. -/
def countLookup (w : World) : World :=
  let memory :=
    if w.rulesPath.isNone then { w.memory with reads := w.memory.reads + 1 } else w.memory
  { w with lookups := w.lookups + 1, memory }

end World

namespace Scene

/-- Milliseconds since the epoch. -/
def millis {W : Type} (s : Scene W) : Rat := s.clock * 1000

end Scene

abbrev WorldHandling (α : Type) := Handling World α

namespace World

def change (f : World → World) : EStateM Failure (Scene World) Unit :=
  modify fun s => { s with world := f s.world }

def log (rs : List LogRecord) : EStateM Failure (Scene World) Unit := modify fun s => s.noteAll rs

/-- The current value of a setting. -/
def valueIn (table : List Setting) (name : String) : Value :=
  ((table.find? (·.name = name)).map (·.current)).getD .null

def textIn (table : List Setting) (name : String) : String :=
  match valueIn table name with
  | .str s => s
  | _ => ""

def wholeIn (table : List Setting) (name : String) : Int := (valueIn table name).toInt?.getD 0

end World
end Detour
