import Detour.Log
import Detour.TaskName

/-!
# Errors that nobody has dealt with

What is logged of an error outside of all handlers: the failure and the task it ended, or only
what is known of its circumstances.
-/
namespace Detour

def LogRecord.unhandled (message : String) (cause : Option Failure) (task : Option TaskName)
    (now : Rat) : LogRecord :=
  match cause with
  | none =>
    let circumstances := (Value.map [(.str "message", .str message)]).shown
    .plain Level.error ("Unhandled asyncio error: " ++ circumstances)
  | some f =>
    let place := match task with
      | none => "task"
      | some t => "task " ++ t.shown now
    ⟨Level.error, s!"Unhandled error in {place}.", none, some f⟩

end Detour
