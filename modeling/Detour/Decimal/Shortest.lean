import Detour.Decimal.Binary64

/-!
# The fewest digits that read back

`shortest` finds, for a positive binary number, the least count of decimal digits that lies
within the interval of reals rounding to it, and of those digits the nearest to the number.
`Binary64.text` lays the digits out.
-/
namespace Detour.Binary64

/-- The reals that round to `m * 2 ^ e`, in quarters of `2 ^ e`: bounds and whether they belong. -/
structure Interval where
  low : Nat
  mid : Nat
  high : Nat
  closed : Bool

def interval (m : Nat) (e : Int) : Interval :=
  { low := if m = Nat.pow 2 52 && minExponent < e then 4 * m - 1 else 4 * m - 2
    mid := 4 * m
    high := 4 * m + 2
    closed := m % 2 = 0 }

/-- A comparison of `d * 10 ^ k` with `x` quarters of `2 ^ e`, as the two sides of a fraction. -/
def sides (d x : Nat) (k e : Int) : Nat × Nat :=
  (4 * d * Nat.pow 10 k.toNat * Nat.pow 2 (-e).toNat, x * Nat.pow 10 (-k).toNat * Nat.pow 2 e.toNat)

def Interval.holds (i : Interval) (d : Nat) (k e : Int) : Bool :=
  let (a, low) := sides d i.low k e
  let (_, high) := sides d i.high k e
  if i.closed then low ≤ a && a ≤ high else low < a && a < high

/-- Of the two grid neighbours of the number the one that reads back, the nearer if both do. -/
def gridPoint? (i : Interval) (k e : Int) : Option Nat :=
  let (unit, x) := sides 1 i.mid k e
  let d := x / unit
  let below := i.holds d k e
  let above := i.holds (d + 1) k e
  if below && above then
    let r := 2 * (x % unit)
    some (if unit < r || (r = unit && d % 2 = 1) then d + 1 else d)
  else if below then some d
  else if above then some (d + 1)
  else none

/-- The exponent of ten that leaves `count` digits before the point. -/
def gridExponent (m : Nat) (e : Int) (count : Nat) : Int :=
  let bits : Int := m.log2 + e
  -- a decimal digit is worth a little over 3.32 bits
  let guess : Int := bits * 30103 / 100000 - count + 1
  let (unit, x) := sides 1 (4 * m) guess e
  let d := x / unit
  if d < Nat.pow 10 (count - 1) then guess - 1 else if Nat.pow 10 count ≤ d then guess + 1 else guess

/-- Digits `d` and exponent `k` with `d * 10 ^ k` reading back as `m * 2 ^ e`, as few as can be. -/
def shortest (m : Nat) (e : Int) : Nat × Int :=
  let i := interval m e
  let found := (List.range 17).findSome? fun n =>
    let k := gridExponent m e (n + 1)
    (gridPoint? i k e).map fun d => (d, k)
  found.getD (m, e)

/-- Positional notation from `10 ^ (-4)` up to `10 ^ 16`, otherwise one digit before the point. -/
def layout (d : Nat) (k : Int) : String :=
  let digits := Nat.toDigits 10 d
  let trimmed := (digits.reverse.dropWhile (· = '0')).reverse
  let point : Int := digits.length + k
  if -4 < point && point ≤ 16 then
    if point ≤ 0 then "0." ++ String.ofList (List.replicate (-point).toNat '0' ++ trimmed)
    else
      let whole := point.toNat
      let padded := trimmed ++ List.replicate (whole - trimmed.length) '0'
      let fraction := padded.drop whole
      String.ofList (padded.take whole) ++ "." ++
        (if fraction.isEmpty then "0" else String.ofList fraction)
  else
    let e := point - 1
    let mark := if e < 0 then "e-" else "e+"
    let size := toString e.natAbs
    let width := if size.length < 2 then "0" ++ size else size
    match trimmed with
    | [] => "0.0"
    | [c] => String.ofList [c] ++ mark ++ width
    | c :: rest => String.ofList (c :: '.' :: rest) ++ mark ++ width

def text : Binary64 → String
  | nan => "nan"
  | infinite s => if s then "-inf" else "inf"
  | finite s m e =>
    let sign := if s then "-" else ""
    if m = 0 then sign ++ "0.0" else
      let (d, k) := shortest m e
      sign ++ layout d k

/-- A number rounded to whole units, a half to the even one; the sign is kept on zero. -/
def wholeText (x : Rat) : String :=
  let n := roundDiv x.num.natAbs x.den
  (if x < 0 then "-" else "") ++ toString n

end Detour.Binary64
