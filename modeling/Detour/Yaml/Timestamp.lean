import Detour.Decimal.Whole
import Detour.Value

/-!
# Timestamps

A date, or a date with a time of day and perhaps an offset from universal time. `Stamp.ofText?`
reads the form, `Stamp.value` checks the ranges.
-/
namespace Detour.Yaml
open Text

structure TimeOfDay where
  hour : Nat
  minute : Nat
  second : Nat
  /-- The digits behind the point. -/
  fraction : List Char
  /-- Minutes ahead of universal time. -/
  offset : Option Int
  deriving DecidableEq, Repr

structure Stamp where
  year : Nat
  month : Nat
  day : Nat
  /-- Whether month and day have two digits. -/
  padded : Bool
  time : Option TimeOfDay
  deriving DecidableEq, Repr

def numberOf (cs : List Char) : Nat := cs.foldl (fun n c => 10 * n + (c.toNat - 48)) 0

/-- One to `most` digits, and what follows them. -/
def digitsUpTo (least most : Nat) (cs : List Char) : Option (List Char × List Char) :=
  let ds := (cs.take most).takeWhile isAsciiDigit
  if ds.length < least then none else some (ds, cs.drop ds.length)

def expectChar (c : Char) (cs : List Char) : Option (List Char) :=
  if cs.head? = some c then some (cs.drop 1) else none

/-- The zone at the end of a time, or nothing. -/
def zone? (cs : List Char) : Option (Option Int) :=
  match cs with
  | [] => some none
  | _ => match cs.dropWhile (fun c => c = ' ' || c = '\t') with
    | ['Z'] => some (some 0)
    | s :: rest =>
      if s != '+' && s != '-' then none else do
        let (h, rest) ← digitsUpTo 1 2 rest
        let minutes ← match rest with
          | [] => some 0
          | _ => do
            let (m, rest) ← digitsUpTo 2 2 (← expectChar ':' rest)
            if rest.isEmpty then some (numberOf m) else none
        let total : Int := numberOf h * 60 + minutes
        return some (if s = '-' then -total else total)
    | [] => none

def time? (cs : List Char) : Option TimeOfDay := do
  let (h, cs) ← digitsUpTo 1 2 cs
  let (m, cs) ← digitsUpTo 2 2 (← expectChar ':' cs)
  let (s, cs) ← digitsUpTo 2 2 (← expectChar ':' cs)
  let (f, cs) := match cs with
    | '.' :: rest => (rest.takeWhile isAsciiDigit, rest.dropWhile isAsciiDigit)
    | _ => ([], cs)
  return ⟨numberOf h, numberOf m, numberOf s, f, ← zone? cs⟩

/-- What stands between a date and a time of day. -/
def afterDate? (cs : List Char) : Option (List Char) :=
  match cs with
  | c :: rest =>
    if c = 'T' || c = 't' then some rest
    else if c = ' ' || c = '\t' then some (rest.dropWhile fun c => c = ' ' || c = '\t')
    else none
  | [] => none

def Stamp.ofText? (cs : List Char) : Option Stamp := do
  let (y, cs) ← digitsUpTo 4 4 cs
  let (m, cs) ← digitsUpTo 1 2 (← expectChar '-' cs)
  let (d, cs) ← digitsUpTo 1 2 (← expectChar '-' cs)
  let padded := m.length = 2 && d.length = 2
  if cs.isEmpty then return ⟨numberOf y, numberOf m, numberOf d, padded, none⟩
  return ⟨numberOf y, numberOf m, numberOf d, padded, some (← time? (← afterDate? cs))⟩

def isLeap (year : Nat) : Bool := (year % 4 = 0 && year % 100 != 0) || year % 400 = 0

def daysIn (year month : Nat) : Nat :=
  if month = 2 then (if isLeap year then 29 else 28)
  else if month = 4 || month = 6 || month = 9 || month = 11 then 30
  else 31

/-- What is out of range in a date. -/
def dateProblem? (y m d : Nat) : Option String :=
  if y = 0 then some "year 0 is out of range"
  else if m = 0 || 12 < m then some "month must be in 1..12"
  else if d = 0 || daysIn y m < d then some "day is out of range for month"
  else none

def timeProblem? (t : TimeOfDay) : Option String :=
  if 23 < t.hour then some "hour must be in 0..23"
  else if 59 < t.minute then some "minute must be in 0..59"
  else if 59 < t.second then some "second must be in 0..59"
  else none

/-- The fraction in microseconds, a half rounded up; a whole second is cut off. -/
def microsOf (fraction : List Char) : Nat :=
  let six := (fraction ++ List.replicate 6 '0').take 6
  let up := match fraction.drop 6 with
    | c :: _ => if '5' ≤ c then 1 else 0
    | [] => 0
  numberOf six + up

def nextDay (d : Date) : Date :=
  if d.day < daysIn d.year d.month then { d with day := d.day + 1 }
  else if d.month < 12 then ⟨d.year, d.month + 1, 1⟩
  else ⟨d.year + 1, 1, 1⟩

/-- One second later. -/
def nextSecond (t : Moment) : Moment :=
  if t.second < 59 then { t with second := t.second + 1 }
  else if t.minute < 59 then { t with second := 0, minute := t.minute + 1 }
  else if t.hour < 23 then { t with second := 0, minute := 0, hour := t.hour + 1 }
  else { t with second := 0, minute := 0, hour := 0, date := nextDay t.date }

def Stamp.value (s : Stamp) : Except String Value :=
  match s.time with
  | none =>
    match dateProblem? s.year s.month s.day with
    | some p => .error p
    | none => .ok (.date ⟨s.year, s.month, s.day⟩)
  | some t =>
    if (t.offset.getD 0).natAbs ≥ 1440 then
      let limit := "-timedelta(hours=24) and timedelta(hours=24), not "
      .error ("offset must be a timedelta strictly between " ++ limit ++ spanText (t.offset.getD 0))
    else match dateProblem? s.year s.month s.day, timeProblem? t with
    | some p, _ => .error p
    | none, some p => .error p
    | none, none =>
      let micros := microsOf t.fraction
      let m : Moment := ⟨⟨s.year, s.month, s.day⟩, t.hour, t.minute, t.second, micros % 1000000, t.offset⟩
      .ok (.moment (if micros < 1000000 then m else nextSecond m))

end Detour.Yaml
