import Detour.Text.Case

/-!
# Kinds of events

An event has the name of its kind, and addons handle it under that name. The name comes from the
name of the kind: the word `Hook` is left out, runs of capitals begin a word, and words are joined by
underscores. A kind may also be given a name of its own; of two kinds of one name the later one
is found (`HookTable.define`).
-/
namespace Detour

namespace Hook
open Text

/-- The text without the word `Hook`, wherever it stands. -/
def withoutMark : List Char → List Char
  | 'H' :: 'o' :: 'o' :: 'k' :: cs => withoutMark cs
  | c :: cs => c :: withoutMark cs
  | [] => []

def isCapital (c : Char) : Bool := 'A' ≤ c && c ≤ 'Z'

/-- An underscore before each run of capitals; `inRun` tells whether the last one was a capital. -/
def joinWords (inRun : Bool) : List Char → List Char
  | [] => []
  | c :: cs =>
    if isCapital c then (if inRun then [c] else ['_', c]) ++ joinWords true cs
    else c :: joinWords false cs

/-- The name of a kind of event. A capital at the start joins no word. -/
def nameOf (kind : String) : String :=
  match withoutMark kind.toList with
  | [] => ""
  | c :: cs => String.ofList (lowerChars (c :: joinWords false cs))

end Hook

/-- A kind of event. -/
structure EventKind where
  className : String
  /-- The module it is defined in. -/
  home : String
  name : String
  /-- What its events carry, in the order in which handlers get it. -/
  fields : List String
  /-- Whether it says itself, or inherits, what its events carry. -/
  isRecord : Bool
  /-- Whether two of its events are equal if they carry the same. -/
  comparesFields : Bool
  /-- The class that says how its events are made. -/
  maker : String
  deriving DecidableEq, Repr, Inhabited

namespace EventKind

def shown (k : EventKind) : String := s!"<class '{k.home}.{k.className}'>"

/-- The kind that all others refine. -/
def root : EventKind := ⟨"Hook", "navredirect.hooks", "", [], false, false, "Hook"⟩

def record (className home name : String) (fields : List String) : EventKind :=
  ⟨className, home, name, fields, true, false, className⟩

/-- The kinds of events that the engine knows. -/
def standard : List EventKind :=
  [record "ConfigureHook" "navredirect.hooks" "configure" ["updated"],
   record "DoneHook" "navredirect.hooks" "done" [],
   record "RunningHook" "navredirect.hooks" "running" [],
   record "NavigationCompletedHook" "navredirect.navigation" "navigation_completed" ["event"],
   record "TabRemovedHook" "navredirect.navigation" "tab_removed" ["tab_id"],
   record "LoadHook" "navredirect.addonmanager" "load" ["loader"],
   record "AlarmHook" "navredirect.addons.alarms" "alarm" ["alarm"]]

end EventKind

/-- The kinds of events by name. -/
structure HookTable where
  kinds : List (String × EventKind)
  deriving Repr

namespace HookTable

def standard : HookTable := ⟨EventKind.standard.map fun k => (k.name, k)⟩

def find? (t : HookTable) (name : String) : Option EventKind := t.kinds.lookup name

def names (t : HookTable) : List String := t.kinds.map (·.1)

def put (t : HookTable) (k : EventKind) : HookTable :=
  if (t.find? k.name).isSome then
    ⟨t.kinds.map fun e => if e.1 = k.name then (k.name, k) else e⟩
  else ⟨t.kinds ++ [(k.name, k)]⟩

/-- The kind that refines another one. A kind without a name is not found by name, and only such a
kind compares its events by what they carry. -/
def refine (base : EventKind) (className home : String) (fields : List String)
    (name? : Option String) (isRecord : Bool) : EventKind :=
  let name := name?.getD (Hook.nameOf className)
  { className, home, name
    fields := if isRecord then base.fields ++ fields.filter (!base.fields.contains ·) else base.fields
    isRecord := isRecord || base.isRecord
    comparesFields := name = "" && (isRecord || base.comparesFields)
    maker := if isRecord then className else base.maker }

/-- Add a kind, with a warning if there is one of its name already. -/
def define (t : HookTable) (k : EventKind) : HookTable × Option String :=
  if k.name = "" then (t, none)
  else
    let warning := (t.find? k.name).map fun other =>
      s!"Two conflicting event classes for {k.name}: {k.shown} and {other.shown}"
    (t.put k, warning)

end HookTable

/-- An event of some kind, known by a number of its own. -/
structure KindEvent where
  kind : EventKind
  serial : Nat
  values : List Int
  deriving DecidableEq, Repr

namespace KindEvent

inductive Fault where
  | abstract
  | noRecord
  | missing (maker : String) (fields : List String)
  | tooMany (maker : String) (expected given : Nat)
  | unhashable (className : String)
  deriving DecidableEq, Repr

/-- Names in quotes, the last one after `and`. -/
def enumeration : List String → String
  | [] => ""
  | [a] => s!"'{a}'"
  | [a, b] => s!"'{a}' and '{b}'"
  | names =>
    let quotedNames := names.map fun n => s!"'{n}'"
    ", ".intercalate quotedNames.dropLast ++ ", and " ++ quotedNames.getLast?.getD ""

def plural (n : Nat) (word : String) : String := if n = 1 then word else word ++ "s"

def Fault.message : Fault → String
  | abstract => "Hook may not be instantiated directly."
  | noRecord => "Subclass is not a dataclass."
  | missing maker fields =>
    let arguments := plural fields.length "argument"
    s!"{maker}.__init__() missing {fields.length} required positional {arguments}: " ++
      enumeration fields
  | tooMany maker expected given =>
    let arguments := plural expected "argument"
    s!"{maker}.__init__() takes {expected} positional {arguments} but {given} were given"
  | unhashable className => s!"unhashable type: '{className}'"

def make (k : EventKind) (serial : Nat) (values : List Int) : Except Fault KindEvent :=
  if k.className = "Hook" && k.home = EventKind.root.home then .error .abstract
  else if !k.isRecord then .error .noRecord
  else if values.length < k.fields.length then
    .error (.missing k.maker (k.fields.drop values.length))
  else if k.fields.length < values.length then
    .error (.tooMany k.maker (k.fields.length + 1) (values.length + 1))
  else .ok ⟨k, serial, values⟩

/-- Two events are equal only if they are the same one, unless their kind has no name. -/
def same (a b : KindEvent) : Bool :=
  a.serial = b.serial ||
    (a.kind.comparesFields && a.kind = b.kind && a.values = b.values)

/-- Whether two events have the same hash; events compared by what they carry have none. -/
def sameHash (a b : KindEvent) : Except Fault Bool :=
  if a.kind.comparesFields then .error (.unhashable a.kind.className)
  else if b.kind.comparesFields then .error (.unhashable b.kind.className)
  else .ok (a.serial = b.serial)

end KindEvent
end Detour
