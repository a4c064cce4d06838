import Detour.Agenda
import Detour.Value

/-!
# Periodic alarms

An alarm goes off every period from the moment it is started, by a task of its own; alarms run
only while the engine does. Creating an alarm replaces the one of its name and starts its schedule
anew. Times and periods are in seconds.
-/
namespace Detour

/-- A length of time as it was given. -/
inductive Period where
  | whole (seconds : Int)
  | measured (x : Binary64)
  | flag (b : Bool)
  deriving DecidableEq, Repr, Inhabited

namespace Period

def toValue : Period → Value
  | whole n => .int n
  | measured x => .float x
  | flag b => .bool b

def ofValue? : Value → Option Period
  | .int n => some (whole n)
  | .bool b => some (flag b)
  | .float x => some (measured x)
  | _ => none

/-- The length in seconds; none for a period without an end. -/
def seconds? (p : Period) : Option Rat := p.toValue.toRat?

/-- Whether a period is not zero or less. -/
def isPositive (p : Period) : Bool :=
  match p with
  | measured (.infinite negative) => !negative
  | p => match p.seconds? with
    | some s => 0 < s
    | none => true

def shown (p : Period) : String := p.toValue.shown

end Period

/-- One going off of an alarm. -/
structure Alarm where
  name : String
  period : Period
  scheduled : Rat
  deriving DecidableEq, Repr

/-- The task of an alarm; `due` is unknown until it first runs. -/
structure AlarmTask where
  serial : Nat
  name : String
  period : Period
  due : Option Rat
  deriving DecidableEq, Repr

structure Alarms where
  periods : List (String × Period)
  /-- The serial numbers of the tasks of the alarms that have been started. -/
  tasks : List (String × Nat)
  running : Bool
  nextSerial : Nat
  deriving DecidableEq, Repr

namespace Alarms

def fresh : Alarms := ⟨[], [], false, 0⟩

def hasTask (a : Alarms) (name : String) : Bool := a.tasks.any (·.1 = name)

/-- Whether a task is still the one of its alarm. -/
def isCurrent (a : Alarms) (t : AlarmTask) : Bool := a.tasks.contains (t.name, t.serial)

/-- The alarms with a task for the given one, and the task. -/
def begin (a : Alarms) (name : String) (period : Period) : Alarms × AlarmTask :=
  ({ a with tasks := a.tasks ++ [(name, a.nextSerial)], nextSerial := a.nextSerial + 1 },
    ⟨a.nextSerial, name, period, none⟩)

/-- Remove an alarm and its task. -/
def clear (a : Alarms) (name : String) : Bool × Alarms :=
  (a.periods.any (·.1 = name),
    { a with periods := a.periods.filter (·.1 != name), tasks := a.tasks.filter (·.1 != name) })

/-- Create an alarm with a positive period, in place of the one of its name, with its task if
alarms are running. Nothing happens if the period is not positive. -/
def create (a : Alarms) (name : String) (period : Period) : Option (Alarms × Option AlarmTask) :=
  if !period.isPositive then none
  else
    let a := (a.clear name).2
    let a := { a with periods := a.periods ++ [(name, period)] }
    if a.running then
      let (a, t) := a.begin name period
      some (a, some t)
    else some (a, none)

def startAll (a : Alarms) : List (String × Period) → Alarms × List AlarmTask
  | [] => (a, [])
  | (name, period) :: rest =>
    if a.hasTask name then startAll a rest
    else
      let (a, t) := a.begin name period
      let (a, ts) := startAll a rest
      (a, t :: ts)

/-- Start every alarm that has no task. -/
def run (a : Alarms) : Alarms × List AlarmTask := { a with running := true }.startAll a.periods

/-- Stop all tasks; the alarms stay. -/
def stop (a : Alarms) : Alarms := { a with running := false, tasks := [] }

end Alarms

namespace AlarmTask

/-- When the task is due next after some time, if it ever is. -/
def dueAfter? (t : AlarmTask) (time : Rat) : Option Rat := t.period.seconds?.map (time + ·)

/-- The alarm that a task due at some time sets off. -/
def firing (t : AlarmTask) (due : Rat) : Alarm := ⟨t.name, t.period, due⟩

end AlarmTask
end Detour
