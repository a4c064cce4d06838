import Detour.Text.Words

/-!
# Whole numbers in decimal

`readInt` accepts surrounding blanks, a sign, and digits of any script with single underscores
between them. Numerals beyond `digitLimit` digits are refused apart from malformed ones.
-/
namespace Detour

inductive NumeralFault where
  | malformed
  | tooLong (digits : Nat)
  deriving DecidableEq, Repr

def digitLimit : Nat := 4300

def NumeralFault.tooLongMessage (digits : Nat) : String :=
  "Exceeds the limit (4300 digits) for integer string conversion: value has " ++ toString digits ++
    " digits; use sys.set_int_max_str_digits() to increase the limit"

namespace Whole
open Text

/-- The digits of a numeral, single underscores between them dropped. -/
def digits? : List Char → Option (List Nat)
  | [] => none
  | [c] => (digitValue? c).map fun d => [d]
  | c :: '_' :: rest => do return (← digitValue? c) :: (← digits? rest)
  | c :: rest => do return (← digitValue? c) :: (← digits? rest)

def ofDigits (base : Nat) (ds : List Nat) : Nat := ds.foldl (fun n d => base * n + d) 0

def readNat (cs : List Char) : Except NumeralFault Nat :=
  match digits? cs with
  | none => .error .malformed
  | some ds => if digitLimit < ds.length then .error (.tooLong ds.length) else .ok (ofDigits 10 ds)

def readInt (s : String) : Except NumeralFault Int :=
  match trimNumeral s.toList with
  | '-' :: cs => (readNat cs).map fun n => -(n : Int)
  | '+' :: cs => (readNat cs).map fun n => (n : Int)
  | cs => (readNat cs).map fun n => (n : Int)

end Whole
end Detour
