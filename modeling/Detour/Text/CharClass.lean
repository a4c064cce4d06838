import Detour.Text.CharTable

/-!
# Character classes

White space, letters, digits, printable characters and identifiers, over all of Unicode. Each
class decides an ASCII character without its table.
-/
namespace Detour.Text

/-- Membership in a set given by the ascending points where it changes. -/
def within : List Nat → Nat → Bool
  | [], _ => false
  | bound :: rest, n => decide (bound ≤ n) && !within rest n

def isAsciiDigit (c : Char) : Bool := '0' ≤ c && c ≤ '9'

def isAsciiLetter (c : Char) : Bool := ('a' ≤ c && c ≤ 'z') || ('A' ≤ c && c ≤ 'Z')

def isHexDigit (c : Char) : Bool := isAsciiDigit c || ('a' ≤ c && c ≤ 'f') || ('A' ≤ c && c ≤ 'F')

def isOctalDigit (c : Char) : Bool := '0' ≤ c && c ≤ '7'

def isAscii (c : Char) : Bool := c.toNat < 128

/-- White space in the widest sense: the separators 28 to 31 count, the byte order mark does not. -/
def isBlank (c : Char) : Bool :=
  if isAscii c then c = ' ' || (9 ≤ c.toNat && c.toNat ≤ 13) || (28 ≤ c.toNat && c.toNat ≤ 31)
  else within blankBounds c.toNat

def isLetter (c : Char) : Bool :=
  if isAscii c then isAsciiLetter c else within alphabeticBounds c.toNat

/-- A letter or a character with a numeric value. -/
def isAlphanumeric (c : Char) : Bool :=
  if isAscii c then isAsciiLetter c || isAsciiDigit c
  else within alphabeticBounds c.toNat || within numericBounds c.toNat

def isWordChar (c : Char) : Bool := c = '_' || isAlphanumeric c

def isAsciiWordChar (c : Char) : Bool := c = '_' || isAsciiLetter c || isAsciiDigit c

def isAsciiBlank (c : Char) : Bool := c = ' ' || (9 ≤ c.toNat && c.toNat ≤ 13)

/-- The value of a decimal digit of any script. -/
def digitValue? (c : Char) : Option Nat :=
  if isAscii c then if isAsciiDigit c then some (c.toNat - '0'.toNat) else none
  else (zeroDigits.find? fun start => start ≤ c.toNat && c.toNat < start + 10).map (c.toNat - ·)

def isDigit (c : Char) : Bool := (digitValue? c).isSome

def isPrintable (c : Char) : Bool :=
  if isAscii c then 32 ≤ c.toNat && c.toNat < 127 else !within unprintableBounds c.toNat

def startsIdentifier (c : Char) : Bool :=
  if isAscii c then c = '_' || isAsciiLetter c
  else within startOnlyBounds c.toNat ||
    (within alphabeticBounds c.toNat && !within neverStartBounds c.toNat)

def continuesIdentifier (c : Char) : Bool :=
  if isAscii c then isAsciiWordChar c else startsIdentifier c || within partOnlyBounds c.toNat

def isIdentifier : List Char → Bool
  | [] => false
  | c :: cs => startsIdentifier c && cs.all continuesIdentifier

def hexValue (c : Char) : Nat :=
  if c ≤ '9' then c.toNat - 48 else if c ≤ 'F' then c.toNat - 55 else c.toNat - 87

/-- The number written by hexadecimal digits, the most significant first. -/
def hexNumber (cs : List Char) : Nat := cs.foldl (fun n c => 16 * n + hexValue c) 0

def hexDigit (n : Nat) : Char := if n < 10 then Char.ofNat (48 + n) else Char.ofNat (87 + n)

/-- The last `width` hexadecimal digits of `n`. -/
def hexDigits : Nat → Nat → List Char
  | 0, _ => []
  | width + 1, n => hexDigits width (n / 16) ++ [hexDigit (n % 16)]

end Detour.Text
