import Detour.Failure

/-!
# Log records

A record has a level, a message, the tab it is about if there is one, and the failure it reports
if there is one. `LogRecord.line` is its form on the terminal.
-/
namespace Detour

structure LogRecord where
  level : Nat
  message : String
  tab : Option Value
  cause : Option Failure
  deriving Repr

namespace Level

def debug : Nat := 10

def info : Nat := 20

/-- As urgent as `info`, and meant to catch the eye. -/
def alert : Nat := 21

def warning : Nat := 30

def error : Nat := 40

/-- The levels that a verbosity can be set to, and the least level that is shown then. -/
def verbosities : List (String × Nat) :=
  [("error", error), ("warn", warning), ("info", info), ("alert", alert), ("debug", debug)]

def names : List String := verbosities.map (·.1)

def ofName? (name : String) : Option Nat := verbosities.lookup name

end Level

namespace LogRecord

def plain (level : Nat) (message : String) : LogRecord := ⟨level, message, none, none⟩

def about (level : Nat) (tab : Id) (message : String) : LogRecord :=
  ⟨level, message, some tab.toValue, none⟩

/-- A message with its places filled; without arguments it is as it stands. -/
def fillMessage (template : String) (args : List Value) : Except Failure String :=
  let filled : Except Template.Fault String := match args with
    | [] => .ok template
    | [.map (e :: es)] => Template.format template (.named (e :: es))
    | args => Template.format template (.inOrder args)
  match filled with
  | .ok s => .ok s
  | .error f => .error (.template f)

end LogRecord

/-- Milliseconds since the epoch as seconds and what is left over, as a clock that keeps seconds
in a binary number tells them. -/
def clockParts (now : Rat) : Nat × Nat :=
  let seconds := (Binary64.ofRat (now / 1000)).toRat?.getD 0
  let whole := seconds.floor
  let fraction := (Binary64.ofRat ((seconds - whole) * 1000)).toRat?.getD 0
  (whole.toNat, fraction.floor.toNat)

/-- Hours, minutes, seconds and milliseconds of the day. -/
def timeOfDay (now : Rat) : String :=
  let (seconds, millis) := clockParts now
  Text.padded 2 (seconds / 3600 % 24) ++ ":" ++ Text.padded 2 (seconds / 60 % 60) ++ ":" ++
    Text.padded 2 (seconds % 60) ++ "." ++ Text.padded 3 millis

def LogRecord.line (now : Rat) (r : LogRecord) : String :=
  let tab := match r.tab with
    | none | some .null => ""
    | some v => s!"[tab {v.display}]"
  let cause := match r.cause with
    | none => ""
    | some f => "\n" ++ f.report
  s!"[{timeOfDay now}]{tab} {r.message}{cause}"

end Detour
