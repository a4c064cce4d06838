import Detour.Decimal.Binary64

/-!
# Decimal text with given places

A non-negative number as text with a fixed number of places, in scientific notation, or in the
shorter of the two with a number of significant digits. A half goes to the even neighbour.
-/
namespace Detour.Places

def digitsOf (n : Nat) : List Char := Nat.toDigits 10 n

/-- The number with `places` digits behind the point. -/
def fixed (places : Nat) (x : Rat) : String :=
  let n := Binary64.roundDiv (x.num.natAbs * Nat.pow 10 places) x.den
  let ds := digitsOf n
  let ds := List.replicate (places + 1 - ds.length) '0' ++ ds
  let whole := String.ofList (ds.take (ds.length - places))
  if places = 0 then whole else whole ++ "." ++ String.ofList (ds.drop (ds.length - places))

/-- `num / den` times a power of ten, rounded. -/
def scaled (x : Rat) (e : Int) : Nat :=
  Binary64.roundDiv (x.num.natAbs * Nat.pow 10 e.toNat) (x.den * Nat.pow 10 (-e).toNat)

/-- Digits and exponent of ten of the first one, for a positive number. -/
def significant (count : Nat) (x : Rat) : List Char × Int :=
  let size : Int := (digitsOf x.num.natAbs).length - (digitsOf x.den).length
  let power := if 0 ≤ size then mkRat (Nat.pow 10 size.toNat) 1 else mkRat 1 (Nat.pow 10 (-size).toNat)
  let exponent := if x < power then size - 1 else size
  let ds := digitsOf (scaled x (count - 1 - exponent))
  if count < ds.length then (ds.take count, exponent + 1) else (ds, exponent)

def significantOrZero (count : Nat) (x : Rat) : List Char × Int :=
  if x = 0 then (List.replicate count '0', 0) else significant count x

def withPoint (ds : List Char) : String :=
  match ds with
  | [] => ""
  | [c] => String.ofList [c]
  | c :: rest => String.ofList (c :: '.' :: rest)

def exponentText (e : Int) : String :=
  let size := toString e.natAbs
  (if e < 0 then "e-" else "e+") ++ (if size.length < 2 then "0" ++ size else size)

def scientific (places : Nat) (x : Rat) : String :=
  let (ds, e) := significantOrZero (places + 1) x
  withPoint ds ++ exponentText e

def trimZeros (ds : List Char) : List Char := (ds.reverse.dropWhile (· = '0')).reverse

/-- `count` significant digits, positional unless the exponent is below -4 or too large; zeros at
the end are dropped unless they are to be kept. -/
def general (count : Nat) (keep : Bool) (x : Rat) : String :=
  let count := max count 1
  let (ds, e) := significantOrZero count x
  if -4 ≤ e && e < count then
    let (whole, rest) :=
      if 0 ≤ e then (ds.take (e.toNat + 1), ds.drop (e.toNat + 1))
      else (['0'], List.replicate ((-e).toNat - 1) '0' ++ ds)
    let rest := if keep then rest else trimZeros rest
    String.ofList whole ++ (if rest.isEmpty then "" else "." ++ String.ofList rest)
  else
    let ds := if keep then ds else
      match ds with
      | [] => []
      | c :: rest => c :: trimZeros rest
    withPoint ds ++ exponentText e

end Detour.Places
