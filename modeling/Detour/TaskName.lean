import Detour.Decimal.Shortest

/-!
# Names of tasks

A task is shown with its age if its birth is known, and with the test run that made it.
-/
namespace Detour

/-- When a task was made, in seconds, and in which test run. -/
structure TaskBirth where
  time : Rat
  test : Option String
  deriving DecidableEq, Repr

structure TaskName where
  name : String
  birth : Option TaskBirth
  deriving DecidableEq, Repr

namespace TaskName

def full (t : TaskName) : String :=
  match t.birth.bind (·.test) with
  | some "" | none => t.name
  | some test => s!"{t.name} [created in {test}]"

def shown (t : TaskName) (now : Rat) : String :=
  match t.birth with
  | none => t.full
  | some b =>
    let age := Binary64.wholeText (now - b.time)
    s!"{t.full} (age: {age}s)"

end TaskName
end Detour
