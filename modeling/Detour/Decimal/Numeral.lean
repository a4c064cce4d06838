import Detour.Decimal.Binary64
import Detour.Decimal.Whole

/-!
# Numerals to other bases, and with a point

`Whole.readBase` reads whole numbers to any base up to sixteen, `Binary64.read?` decimal numbers with
a point and an exponent. Both accept surrounding blanks and a sign.
-/
namespace Detour

namespace Whole
open Text

def digitIn? (base : Nat) (c : Char) : Option Nat :=
  let value := if isHexDigit c then some (hexValue c) else digitValue? c
  value.filter (· < base)

/-- The letter that marks a base. -/
def baseLetter (base : Nat) : List Char :=
  match base with
  | 2 => ['b', 'B']
  | 8 => ['o', 'O']
  | 16 => ['x', 'X']
  | _ => []

/-- The digits behind the mark of the base, which may be missing. -/
def withoutBase (base : Nat) (cs : List Char) : List Char :=
  match cs with
  | '0' :: c :: rest => if (baseLetter base).contains c then rest else cs
  | _ => cs

def readNatIn? (base : Nat) (cs : List Char) : Option Nat := do
  let ds ← (withoutBase base cs).mapM (digitIn? base)
  if ds.isEmpty then none else some (ofDigits base ds)

/-- A whole number to a base other than ten, written without joining underscores. -/
def readBase? (base : Nat) (cs : List Char) : Option Int :=
  match trimNumeral cs with
  | '-' :: cs => (readNatIn? base cs).map fun n => -(n : Int)
  | '+' :: cs => (readNatIn? base cs).map fun n => (n : Int)
  | cs => (readNatIn? base cs).map fun n => (n : Int)

end Whole

namespace Binary64
open Text

/-- The digits at the beginning, and what follows them. -/
def leadingDigits (cs : List Char) : List Nat × List Char :=
  match cs with
  | [] => ([], [])
  | c :: rest => match digitValue? c with
    | some d =>
      let (ds, rest) := leadingDigits rest
      (d :: ds, rest)
    | none => ([], cs)

/-- The exponent at the end of a numeral, zero if there is none. -/
def exponent? (cs : List Char) : Option Int :=
  match cs with
  | [] => some 0
  | c :: rest =>
    if c != 'e' && c != 'E' then none
    else
      let (negative, rest) := match rest with
        | '-' :: r => (true, r)
        | '+' :: r => (false, r)
        | r => (false, r)
      match leadingDigits rest with
      | ([], _) => none
      | (ds, []) =>
        let n : Int := Whole.ofDigits 10 ds
        some (if negative then -n else n)
      | _ => none

def unsigned? (negative : Bool) (cs : List Char) : Option Binary64 :=
  let word := cs.map Char.toLower
  if word = "inf".toList || word = "infinity".toList then some (infinite negative)
  else if word = "nan".toList then some nan
  else do
    let (whole, rest) := leadingDigits cs
    let (part, rest) := match rest with
      | '.' :: r => leadingDigits r
      | r => ([], r)
    if whole.isEmpty && part.isEmpty then none
    let e ← exponent? rest
    return ofDecimal negative (Whole.ofDigits 10 (whole ++ part)) (e - part.length)

/-- The number nearest to a decimal numeral written without joining underscores. -/
def read? (cs : List Char) : Option Binary64 :=
  match trimNumeral cs with
  | '-' :: cs => unsigned? true cs
  | '+' :: cs => unsigned? false cs
  | cs => unsigned? false cs

def neg : Binary64 → Binary64
  | nan => nan
  | infinite s => infinite !s
  | finite s m e => finite (!s) m e

end Binary64
end Detour
