import Detour.Settings

/-!
# A watcher of settings

A listener that keeps what it is told, with the values at that time, and refuses values that it
was told to refuse.
-/
namespace Detour

inductive SettingEvent where
  | changed (names : List String) (values : List Value)
  | refused (f : Failure)
  deriving Repr

structure Watcher where
  /-- In order. -/
  events : List SettingEvent
  refusals : List (String × Value × Failure)
  deriving Repr

namespace Watcher

def empty : Watcher := ⟨[], []⟩

def valueOf (table : List Setting) (name : String) : Value :=
  ((table.find? (·.name = name)).map (·.current)).getD .null

def listener : Listener Watcher where
  changed table names := fun w =>
    let event := SettingEvent.changed names (names.map (valueOf table))
    let w := { w with events := w.events ++ [event] }
    match w.refusals.find? fun (n, v, _) => names.contains n && (valueOf table n).same v with
    | some (_, _, f) => .error f w
    | none => .ok () w
  refused _ f := fun w => .ok () { w with events := w.events ++ [.refused f] }

end Watcher
end Detour
