/-!
# An agenda of tasks

Tasks that are ready wait in the order in which they became so; tasks that sleep are woken in the
order of their times, and of falling asleep where times are equal. Times are in seconds.
-/
namespace Detour

structure Agenda (T : Type) where
  ready : List T
  /-- Ascending by time. -/
  sleeping : List (Rat × T)
  deriving Repr

namespace Agenda

variable {T : Type}

def empty : Agenda T := ⟨[], []⟩

def spawn (a : Agenda T) (t : T) : Agenda T := { a with ready := a.ready ++ [t] }

def insertSleeper (due : Rat) (t : T) : List (Rat × T) → List (Rat × T)
  | [] => [(due, t)]
  | e :: rest => if due < e.1 then (due, t) :: e :: rest else e :: insertSleeper due t rest

def sleepUntil (a : Agenda T) (due : Rat) (t : T) : Agenda T :=
  { a with sleeping := insertSleeper due t a.sleeping }

/-- Forget the tasks that a test picks. -/
def cancel (a : Agenda T) (p : T → Bool) : Agenda T :=
  { a with ready := a.ready.filter (!p ·), sleeping := a.sleeping.filter (!p ·.2) }

/-- The first task that is ready, and the agenda without it. -/
def next? (a : Agenda T) : Option (T × Agenda T) :=
  match a.ready with
  | [] => none
  | t :: rest => some (t, { a with ready := rest })

/-- When the first sleeper is due. -/
def nextDue? (a : Agenda T) : Option Rat := a.sleeping.head?.map (·.1)

/-- Everything that is due by some time becomes ready. -/
def wakeAt (a : Agenda T) (time : Rat) : Agenda T :=
  let (due, later) := a.sleeping.span fun e => decide (e.1 ≤ time)
  { ready := a.ready ++ due.map (·.2), sleeping := later }

def tasks (a : Agenda T) : List T := a.ready ++ a.sleeping.map (·.2)

end Agenda
end Detour
