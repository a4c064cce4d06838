import Detour.Alarm
import Detour.Navigation

/-!
# Events

What addons are told, under the name of its kind.
-/
namespace Detour

inductive Event where
  | load
  | configure (updated : List String)
  | running
  | done
  | tabRemoved (tab : Id)
  | navigationCompleted (n : Navigation)
  | alarm (a : Alarm)
  deriving DecidableEq, Repr

def Event.name : Event → String
  | load => "load"
  | configure _ => "configure"
  | running => "running"
  | done => "done"
  | tabRemoved _ => "tab_removed"
  | navigationCompleted _ => "navigation_completed"
  | alarm _ => "alarm"

end Detour
