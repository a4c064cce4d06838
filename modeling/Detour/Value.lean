import Detour.Decimal.Shortest
import Detour.Text.Quoted

/-!
# Values

What a stored document, an event or an option can hold. `Value.same` is equality as the settings
see it: numbers are equal by value whatever their kind, and mappings whatever their order.
-/
namespace Detour

structure Date where
  year : Nat
  month : Nat
  day : Nat
  deriving DecidableEq, Repr, Inhabited

structure Moment where
  date : Date
  hour : Nat
  minute : Nat
  second : Nat
  micros : Nat
  /-- How many minutes the clock is ahead of universal time, if that is known. -/
  offset : Option Int
  deriving DecidableEq, Repr, Inhabited

inductive Value where
  | null
  | bool (b : Bool)
  | int (n : Int)
  | float (x : Binary64)
  | str (s : String)
  | bytes (bs : List UInt8)
  | list (xs : List Value)
  | tuple (xs : List Value)
  | map (entries : List (Value × Value))
  | set (xs : List Value)
  | date (d : Date)
  | moment (t : Moment)
  deriving Repr, BEq, Inhabited

def Date.iso (d : Date) : String :=
  Text.padded 4 d.year ++ "-" ++ Text.padded 2 d.month ++ "-" ++ Text.padded 2 d.day

/-- The number of days since the beginning of the year 1. -/
def Date.ordinal (d : Date) : Nat :=
  let y := d.year - 1
  let leap := (d.year % 4 = 0 && d.year % 100 != 0) || d.year % 400 = 0
  let before := [0, 31, 59, 90, 120, 151, 181, 212, 243, 273, 304, 334].getD (d.month - 1) 0
  y * 365 + y / 4 - y / 100 + y / 400 + before + (if leap && 2 < d.month then 1 else 0) + d.day - 1

def offsetText (minutes : Int) : String :=
  (if minutes < 0 then "-" else "+") ++ Text.padded 2 (minutes.natAbs / 60) ++ ":" ++
    Text.padded 2 (minutes.natAbs % 60)

def Moment.iso (t : Moment) : String :=
  t.date.iso ++ "T" ++ Text.padded 2 t.hour ++ ":" ++ Text.padded 2 t.minute ++ ":" ++
    Text.padded 2 t.second ++ (if t.micros = 0 then "" else "." ++ Text.padded 6 t.micros) ++
    (t.offset.map offsetText).getD ""

/-- The microseconds since the beginning of the year 1 by the moment's own clock. -/
def Moment.ticks (t : Moment) : Int :=
  (((t.date.ordinal * 24 + t.hour) * 60 + t.minute) * 60 + t.second) * 1000000 + t.micros

/-- The same point in time; a known offset and an unknown one never agree. -/
def Moment.same (t u : Moment) : Bool :=
  match t.offset, u.offset with
  | none, none => t.ticks == u.ticks
  | some a, some b => t.ticks - a * 60000000 == u.ticks - b * 60000000
  | _, _ => false

/-- A length of time in days and seconds, the seconds never negative. -/
def spanText (minutes : Int) : String :=
  let days := Int.fdiv minutes 1440
  let seconds := Int.fmod minutes 1440 * 60
  let dayPart := if days = 0 then [] else [s!"days={days}"]
  let secondPart := if seconds = 0 then [] else [s!"seconds={seconds}"]
  let parts := ", ".intercalate (dayPart ++ secondPart)
  "datetime.timedelta(" ++ (if parts.isEmpty then "0" else parts) ++ ")"

def zoneText (minutes : Int) : String :=
  if minutes = 0 then "datetime.timezone.utc" else "datetime.timezone(" ++ spanText minutes ++ ")"

namespace Value

/-- The name of a value's kind, as messages give it. -/
def kind : Value → String
  | null => "NoneType"
  | bool _ => "bool"
  | int _ => "int"
  | float _ => "float"
  | str _ => "str"
  | bytes _ => "bytes"
  | list _ => "list"
  | tuple _ => "tuple"
  | map _ => "dict"
  | set _ => "set"
  | date _ => "date"
  | moment _ => "datetime"

/-- The kind with the place it is defined in, in angle brackets. -/
def className (v : Value) : String :=
  match v with
  | date _ | moment _ => "<class 'datetime." ++ v.kind ++ "'>"
  | _ => "<class '" ++ v.kind ++ "'>"

def isTrue : Value → Bool
  | null => false
  | bool b => b
  | int n => n != 0
  | float x => !x.isZero
  | str s => !s.isEmpty
  | bytes bs => !bs.isEmpty
  | list xs | tuple xs | set xs => !xs.isEmpty
  | map es => !es.isEmpty
  | date _ | moment _ => true

/-- The number a value stands for; a flag counts as zero or one. -/
def toInt? : Value → Option Int
  | int n => some n
  | bool b => some (if b then 1 else 0)
  | _ => none

/-- The exact number of a flag, an integer or a finite float. -/
def toRat? : Value → Option Rat
  | float x => x.toRat?
  | v => v.toInt?.map fun n => (n : Rat)

def numbersAgree (a b : Value) : Bool :=
  match a, b with
  | float (.infinite s), float (.infinite t) => s == t
  | _, _ => match a.toRat?, b.toRat? with
    | some x, some y => x == y
    | _, _ => false

mutual
/-- Equality by content: `1`, `1.0` and `true` agree, no number agrees with a text. -/
def same (a b : Value) : Bool :=
  match a, b with
  | null, null => true
  | str s, str t => s == t
  | bytes s, bytes t => s == t
  | list xs, list ys => sameList xs ys
  | tuple xs, tuple ys => sameList xs ys
  | set xs, set ys => xs.length == ys.length && sameMembers xs ys
  | map xs, map ys => xs.length == ys.length && sameEntries xs ys
  | date d, date e => d == e
  | moment t, moment u => t.same u
  | a, b => numbersAgree a b
termination_by structural a
def sameList (xs ys : List Value) : Bool :=
  match xs, ys with
  | [], [] => true
  | x :: xs, y :: ys => same x y && sameList xs ys
  | _, _ => false
termination_by structural xs
def sameMembers (xs ys : List Value) : Bool :=
  match xs with
  | [] => true
  | x :: xs => ys.any (same x) && sameMembers xs ys
termination_by structural xs
def sameEntries (xs ys : List (Value × Value)) : Bool :=
  match xs with
  | [] => true
  | (k, v) :: xs => ys.any (fun e => same k e.1 && same v e.2) && sameEntries xs ys
termination_by structural xs
end

mutual
/-- The value written out, texts in quotes. -/
def shown : Value → String
  | null => "None"
  | bool b => if b then "True" else "False"
  | int n => toString n
  | float x => x.text
  | str s => Text.quoted s
  | bytes bs => Text.quotedBytes bs
  | list xs => "[" ++ shownItems xs ++ "]"
  | tuple [x] => "(" ++ shown x ++ ",)"
  | tuple xs => "(" ++ shownItems xs ++ ")"
  | map es => "\x7b" ++ shownEntries es ++ "\x7d"
  | set [] => "set()"
  | set xs => "\x7b" ++ shownItems xs ++ "\x7d"
  | date d => s!"datetime.date({d.year}, {d.month}, {d.day})"
  | moment t =>
    let d := t.date
    let day := s!"{d.year}, {d.month}, {d.day}, {t.hour}, {t.minute}"
    let second := if t.second = 0 && t.micros = 0 then "" else s!", {t.second}"
    let micros := if t.micros = 0 then "" else s!", {t.micros}"
    let zone := (t.offset.map fun o => ", tzinfo=" ++ zoneText o).getD ""
    "datetime.datetime(" ++ day ++ second ++ micros ++ zone ++ ")"
def shownItems : List Value → String
  | [] => ""
  | [x] => shown x
  | x :: xs => shown x ++ ", " ++ shownItems xs
def shownEntries : List (Value × Value) → String
  | [] => ""
  | [(k, v)] => shown k ++ ": " ++ shown v
  | (k, v) :: es => shown k ++ ": " ++ shown v ++ ", " ++ shownEntries es
end

/-- The value as part of a sentence: a text as it is, anything else written out. -/
def display : Value → String
  | str s => s
  | date d => d.iso
  | moment t => t.iso.map fun c => if c = 'T' then ' ' else c
  | v => v.shown

def lookup? (key : Value) (entries : List (Value × Value)) : Option Value :=
  (entries.find? fun e => e.1.same key).map (·.2)

/-- Replace the value of an equal key, which keeps its place and its form, or append the entry. -/
def insert (key value : Value) : List (Value × Value) → List (Value × Value)
  | [] => [(key, value)]
  | (k, v) :: rest => if k.same key then (k, value) :: rest else (k, v) :: insert key value rest

def ofEntries (entries : List (Value × Value)) : List (Value × Value) :=
  entries.foldl (fun m e => insert e.1 e.2 m) []

def field? (name : String) (entries : List (Value × Value)) : Option Value :=
  lookup? (str name) entries

end Value
end Detour
