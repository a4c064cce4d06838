/-!
# Binary floating-point numbers of 64 bits

A number is kept by its parts, so that equality is equality of representations. `ofRatio` rounds
a quotient to the nearest number, a tie to the even one.
-/
namespace Detour

inductive Binary64 where
  | nan
  | infinite (negative : Bool)
  | finite (negative : Bool) (mantissa : Nat) (exponent : Int)
  deriving DecidableEq, Repr

namespace Binary64

/-- The quotient rounded to a whole number, a half to the even neighbour. -/
def roundDiv (num den : Nat) : Nat :=
  let q := num / den
  let r := 2 * (num % den)
  if den < r || (r = den && q % 2 = 1) then q + 1 else q

def minExponent : Int := -1074

def maxExponent : Int := 971

/-- `num / den * 2 ^ (-e)` as a fraction. -/
def scaled (num den : Nat) (e : Int) : Nat × Nat :=
  if 0 ≤ e then (num, den * Nat.pow 2 e.toNat) else (num * Nat.pow 2 (-e).toNat, den)

/-- The exponent at which the quotient has 53 binary digits, or the least exponent. -/
def exponentOf (num den : Nat) : Int :=
  let guess : Int := (num.log2 : Int) - den.log2 - 52
  let (n, d) := scaled num den guess
  max minExponent (if n / d < Nat.pow 2 52 then guess - 1 else guess)

/-- The number nearest to `num / den`. -/
def ofRatio (negative : Bool) (num den : Nat) : Binary64 :=
  if num = 0 then finite negative 0 minExponent else
    let e := exponentOf num den
    let (n, d) := scaled num den e
    let m := roundDiv n d
    let (m, e) := if m = Nat.pow 2 53 then (Nat.pow 2 52, e + 1) else (m, e)
    if maxExponent < e then infinite negative else finite negative m e

/-- The number nearest to `digits * 10 ^ e`; exponents far out of range are not computed. -/
def ofDecimal (negative : Bool) (digits : Nat) (e : Int) : Binary64 :=
  if digits = 0 then finite negative 0 minExponent
  else
    let size : Int := (digits.log2 : Int) / 3 + e
    if 400 < size - (digits.log2 : Int) / 12 then infinite negative
    else if size < -400 then finite negative 0 minExponent
    else if 0 ≤ e then ofRatio negative (digits * Nat.pow 10 e.toNat) 1
    else ofRatio negative digits (Nat.pow 10 (-e).toNat)

def ofInt (n : Int) : Binary64 := ofRatio (n < 0) n.natAbs 1

def isNegative : Binary64 → Bool
  | nan => false
  | infinite s | finite s _ _ => s

/-- The exact value of a finite number. -/
def toRat? : Binary64 → Option Rat
  | finite s m e =>
    let magnitude : Rat := if 0 ≤ e then (m * Nat.pow 2 e.toNat : Nat) else mkRat m (Nat.pow 2 (-e).toNat)
    some (if s then -magnitude else magnitude)
  | _ => none

def isZero : Binary64 → Bool
  | finite _ 0 _ => true
  | _ => false

def ofRat (x : Rat) : Binary64 := ofRatio (x < 0) x.num.natAbs x.den

end Binary64
end Detour
