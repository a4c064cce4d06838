import Detour.Text.CharClass

/-!
# UTF-8

`decode` reads bytes as characters. A fault gives the place of the first byte that starts no
character, the number of bytes that belong together there, and what is wrong with them.
-/
namespace Detour.Text.Utf8

inductive Reason where
  | start
  | continuation
  | ending
  deriving DecidableEq, Repr

structure Fault where
  position : Nat
  /-- The faulty byte if it stands alone. -/
  first : UInt8
  count : Nat
  reason : Reason
  deriving DecidableEq, Repr

def Reason.message : Reason → String
  | start => "invalid start byte"
  | continuation => "invalid continuation byte"
  | ending => "unexpected end of data"

def Fault.message (f : Fault) : String :=
  let what :=
    if f.count = 1 then
      s!"byte 0x{String.ofList (hexDigits 2 f.first.toNat)} in position {f.position}"
    else s!"bytes in position {f.position}-{f.position + f.count - 1}"
  s!"'utf-8' codec can't decode {what}: {f.reason.message}"

/-- The range of the byte after a first byte, and the number of bytes after the first. -/
def tailOf? (b : Nat) : Option (Nat × Nat × Nat) :=
  if b < 0xC2 then none
  else if b < 0xE0 then some (0x80, 0xBF, 1)
  else if b = 0xE0 then some (0xA0, 0xBF, 2)
  else if b = 0xED then some (0x80, 0x9F, 2)
  else if b < 0xF0 then some (0x80, 0xBF, 2)
  else if b = 0xF0 then some (0x90, 0xBF, 3)
  else if b < 0xF4 then some (0x80, 0xBF, 3)
  else if b = 0xF4 then some (0x80, 0x8F, 3)
  else none

/-- The payload of a first byte that `n` bytes follow. -/
def payload (b n : Nat) : Nat :=
  match n with
  | 1 => b % 32
  | 2 => b % 16
  | _ => b % 8

/-- The bytes after the first one: the code point, or how many bytes were right and what was not. -/
def tail (low high : Nat) : Nat → Nat → Nat → List UInt8 → Except (Nat × Reason) Nat
  | 0, _, acc, _ => .ok acc
  | _ + 1, taken, _, [] => .error (taken, .ending)
  | n + 1, taken, acc, b :: bs =>
    if low ≤ b.toNat && b.toNat ≤ high then
      tail 0x80 0xBF n (taken + 1) (64 * acc + b.toNat % 64) bs
    else .error (taken, .continuation)

/-- The first character and the number of its bytes. -/
def first (position : Nat) (b : UInt8) (bs : List UInt8) : Except Fault (Char × Nat) :=
  if b.toNat < 0x80 then .ok (Char.ofNat b.toNat, 1)
  else match tailOf? b.toNat with
    | none => .error ⟨position, b, 1, .start⟩
    | some (low, high, n) =>
      match tail low high n 1 (payload b.toNat n) bs with
      | .ok code => .ok (Char.ofNat code, n + 1)
      | .error (count, reason) => .error ⟨position, b, count, reason⟩

/-- The characters read so far, the latest first, and the fault that ended the reading. -/
def read (position : Nat) (acc : List Char) : Nat → List UInt8 → List Char × Option (Fault × List UInt8)
  | 0, _ => (acc, none)
  | _ + 1, [] => (acc, none)
  | fuel + 1, b :: bs =>
    match first position b bs with
    | .ok (c, n) => read (position + n) (c :: acc) fuel (bs.drop (n - 1))
    | .error f => (acc, some (f, b :: bs))

def decode (bs : List UInt8) : Except Fault (List Char) :=
  match read 0 [] bs.length bs with
  | (cs, none) => .ok cs.reverse
  | (_, some (f, _)) => .error f

def encode (s : String) : List UInt8 := s.toUTF8.toList

end Detour.Text.Utf8
