import Detour.Failure
import Detour.Hook

/-!
# A catalog of kinds of events

The kinds defined so far by the names of their classes, beside the table in which they are found
by the names of their events, and the events made of them.
-/
namespace Detour

structure HookCatalog where
  /-- The module that new kinds are said to be defined in. -/
  home : String
  table : HookTable
  /-- The latest first. -/
  classes : List (String × EventKind)
  events : List (String × KindEvent)

namespace HookCatalog

def standard (home : String) : HookCatalog :=
  ⟨home, .standard, (EventKind.root :: EventKind.standard).map fun k => (k.className, k), []⟩

def kind (c : HookCatalog) (className : String) : Except Failure EventKind :=
  match c.classes.lookup className with
  | some k => .ok k
  | none => .error (.noSetting className)

def event (c : HookCatalog) (label : String) : Except Failure KindEvent :=
  match c.events.lookup label with
  | some e => .ok e
  | none => .error (.noSetting label)

/-- Define a kind that refines another one; the kind, a warning, and the catalog with it. -/
def define (c : HookCatalog) (base className : String) (fields : List String)
    (name? : Option String) (isRecord : Bool) :
    Except Failure (EventKind × Option String × HookCatalog) := do
  let k := HookTable.refine (← c.kind base) className c.home fields name? isRecord
  let (table, warning) := c.table.define k
  return (k, warning, { c with table, classes := (className, k) :: c.classes })

def failureOf (f : KindEvent.Fault) : Failure := .foreign "TypeError" f.message

/-- Make an event and keep it under a label. -/
def make (c : HookCatalog) (className label : String) (values : List Int) :
    Except Failure (KindEvent × HookCatalog) := do
  let k ← c.kind className
  match KindEvent.make k c.events.length values with
  | .ok e => return (e, { c with events := (label, e) :: c.events })
  | .error f => throw (failureOf f)

def same (c : HookCatalog) (a b : String) : Except Failure Bool := do
  return (← c.event a).same (← c.event b)

def sameHash (c : HookCatalog) (a b : String) : Except Failure Bool := do
  match (← c.event a).sameHash (← c.event b) with
  | .ok answer => return answer
  | .error f => throw (failureOf f)

/-- The names of events that are not of the engine's own kinds. -/
def newNames (c : HookCatalog) : List String :=
  c.table.names.filter fun n => (HookTable.standard.find? n).isNone

end HookCatalog
end Detour
