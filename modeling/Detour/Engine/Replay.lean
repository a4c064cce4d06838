import Detour.Failure
import Detour.Json

/-!
# Recorded events

A line of a record is an object with the kind of its event and what belongs to it: a navigation,
the removal of a tab, or a wait. Empty lines and comments are skipped.
-/
namespace Detour

inductive Command where
  | navigation (n : Navigation)
  | removed (tab : Id)
  | wait (ms : Value)
  deriving Repr, BEq

namespace Command

/-- Whether a value is a length of time in milliseconds: a number that is not negative. -/
def isWait : Value → Bool
  | .float (.infinite negative) => !negative
  | .float .nan => true
  | v => match v.toRat? with
    | some ms => 0 ≤ ms
    | none => false

def ofState (entries : List (Value × Value)) : Except EventFault Command :=
  match (Value.field? "event" entries).getD .null with
  | .str "navigation" =>
    match Navigation.ofState entries with
    | .ok n => .ok (navigation n)
    | .error f => .error (.navigation f)
  | .str "removed" =>
    match (Value.field? "tabId" entries).bind Id.ofValue? with
    | some tab => .ok (removed tab)
    | none => .error .tabNotNumber
  | .str "wait" =>
    let ms := (Value.field? "ms" entries).getD (.int 0)
    if isWait ms then .ok (wait ms) else .error (.badWait ms)
  | kind => .error (.unknownKind kind)

/-- What a line says; nothing if it is empty or a comment. -/
def ofLine (line : String) : Except EventFault (Option Command) :=
  match Text.trim line.toList with
  | [] | '#' :: _ => .ok none
  | cs =>
    match Json.read (String.ofList cs) with
    | .error message => .error (.syntaxError message)
    | .ok (.map entries) => (ofState entries).map some
    | .ok _ => .error .notObject

end Command

/-- How long a wait is. -/
inductive Pause where
  | seconds (s : Rat)
  /-- Longer than any clock can tell. -/
  | endless
  | tooLong
  deriving Repr, DecidableEq

def Pause.ofMillis (ms : Value) : Pause :=
  match ms with
  | .float (.infinite _) => endless
  | .int n =>
    match Binary64.ofRat ((n : Rat) / 1000) with
    | .infinite _ => tooLong
    | x => seconds (x.toRat?.getD 0)
  | v => seconds ((v.toRat?.getD 0) / 1000)

/-- A record that is being read: the number of the next line, the lines still to be read, what
breaks off the reading behind them, and how many events there were. -/
structure Reading where
  number : Nat
  lines : List String
  ending : Option Text.Utf8.Fault
  events : Nat
  deriving Repr, DecidableEq

namespace Reading

def ofLines (lines : List String) (ending : Option Text.Utf8.Fault) : Reading :=
  ⟨1, lines, ending, 0⟩

def ofText (text : String) : Reading := ofLines (Detour.lines text) none

/-- Open a file of events; a dash stands for the standard input. -/
def ofFile (files : FileTree) (input : String) (path : String) : Except Failure Reading :=
  if path = "-" then .ok (ofText input)
  else
    let path := Path.expandText files.homes path
    match files.readLines path with
    | .ok (lines, ending) => .ok (ofLines lines ending)
    | .error .nulByte => .error (.file path .nulByte)
    | .error f => .error (.replay (.file (f.message path)))

end Reading
end Detour
