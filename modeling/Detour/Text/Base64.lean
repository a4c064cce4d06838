import Detour.Text.CharClass

/-!
# Bytes written in base 64

Four letters stand for three bytes. Other characters are passed over; padding ends the data.
-/
namespace Detour.Text.Base64

inductive Fault where
  /-- One letter is left over, which is less than a byte. -/
  | letterLeft (letters : Nat)
  | padding
  deriving DecidableEq, Repr

def Fault.message : Fault → String
  | letterLeft n =>
    s!"Invalid base64-encoded string: number of data characters ({n}) cannot be 1 more than a multiple of 4"
  | padding => "Incorrect padding"

def sextet? (c : Char) : Option Nat :=
  if 'A' ≤ c && c ≤ 'Z' then some (c.toNat - 65)
  else if 'a' ≤ c && c ≤ 'z' then some (c.toNat - 71)
  else if '0' ≤ c && c ≤ '9' then some (c.toNat + 4)
  else if c = '+' then some 62
  else if c = '/' then some 63
  else none

/-- The letters before the padding that completes a group of four, and whether there is one. -/
def letters : Nat → Nat → List Char → List Nat × Bool
  | _, _, [] => ([], false)
  | count, pads, c :: rest =>
    if c = '=' then
      let place := count % 4
      if 2 ≤ place && 4 ≤ place + pads + 1 then ([], true)
      else letters count (if 2 ≤ place then pads + 1 else pads) rest
    else match sextet? c with
      | none => letters count pads rest
      | some n =>
        let (ns, padded) := letters (count + 1) 0 rest
        (n :: ns, padded)

def bytes : List Nat → List UInt8
  | a :: b :: c :: d :: rest =>
    UInt8.ofNat (4 * a + b / 16) :: UInt8.ofNat (16 * (b % 16) + c / 4) ::
      UInt8.ofNat (64 * (c % 4) + d) :: bytes rest
  | [a, b, c] => [UInt8.ofNat (4 * a + b / 16), UInt8.ofNat (16 * (b % 16) + c / 4)]
  | [a, b] => [UInt8.ofNat (4 * a + b / 16)]
  | _ => []

def decode (cs : List Char) : Except Fault (List UInt8) :=
  let (ns, padded) := letters 0 0 cs
  if padded || ns.length % 4 = 0 then .ok (bytes ns)
  else if ns.length % 4 = 1 then .error (.letterLeft ns.length)
  else .error .padding

/-- The letter of a number below 64. -/
def letter (n : Nat) : Char :=
  if n < 26 then Char.ofNat (65 + n)
  else if n < 52 then Char.ofNat (71 + n)
  else if n < 62 then Char.ofNat (n - 4)
  else if n = 62 then '+'
  else '/'

def encode : List UInt8 → List Char
  | a :: b :: c :: rest =>
    let (a, b, c) := (a.toNat, b.toNat, c.toNat)
    letter (a / 4) :: letter (16 * (a % 4) + b / 16) :: letter (4 * (b % 16) + c / 64) ::
      letter (c % 64) :: encode rest
  | [a, b] =>
    let (a, b) := (a.toNat, b.toNat)
    [letter (a / 4), letter (16 * (a % 4) + b / 16), letter (4 * (b % 16)), '=']
  | [a] => [letter (a.toNat / 4), letter (16 * (a.toNat % 4)), '=', '=']
  | [] => []

end Detour.Text.Base64
