import Detour.Yaml.Fault

/-!
# Reading a document character by character

A `Cursor` is the rest of a text and its place. The functions that read a part of a document move
the cursor over it or fail at a place.
-/
namespace Detour.Yaml

structure Cursor where
  rest : List Char
  mark : Mark
  deriving Repr

namespace Cursor

def start (text : List Char) : Cursor := ⟨text, ⟨0, 0, 0⟩⟩

/-- The character `k` places ahead; a null character stands behind the end. -/
def peek (c : Cursor) (k : Nat) : Char := c.rest.getD k '\x00'

/-- A line ends with a line feed, or with a carriage return that no line feed follows; a byte
order mark takes no column. -/
def next (c : Cursor) : Cursor :=
  match c.rest with
  | [] => c
  | ch :: rest =>
    let m := c.mark
    if ch = '\n' || (ch = '\r' && rest.head? != some '\n') then ⟨rest, ⟨m.index + 1, m.line + 1, 0⟩⟩
    else ⟨rest, ⟨m.index + 1, m.line, if ch = '\uFEFF' then m.column else m.column + 1⟩⟩

def skip : Nat → Cursor → Cursor
  | 0, c => c
  | n + 1, c => skip n c.next

/-- Three characters that begin a line, with nothing but a blank behind them. -/
def hasSeparator (c : Cursor) (ch : Char) : Bool :=
  c.mark.column = 0 && c.rest.take 3 = [ch, ch, ch] &&
    (c.rest.drop 3).head?.all fun e => e = ' ' || e = '\t' || e = '\n' || e = '\r' || e = '\x85'

end Cursor

/-- The characters that a document may hold. -/
def isAllowed (c : Char) : Bool :=
  let n := c.toNat
  c = '\t' || c = '\n' || c = '\r' || (0x20 ≤ n && n ≤ 0x7E) || n = 0x85 || (0xA0 ≤ n && n ≤ 0xD7FF) ||
    (0xE000 ≤ n && n ≤ 0xFFFD) || 0x10000 ≤ n

def isBreak (c : Char) : Bool :=
  c = '\r' || c = '\n' || c = '\x85' || c = '\u2028' || c = '\u2029'

/-- The end of the text or of a line, the separators of lines and paragraphs not counted. -/
def isEnd (c : Char) : Bool := c = '\x00' || c = '\r' || c = '\n' || c = '\x85'

def isGap (c : Char) : Bool := c = ' ' || c = '\t'

def isGapOrEnd (c : Char) : Bool := isGap c || isEnd c

/-- What has to follow a directive, a tag or the head of a block text. -/
def closesHead (c : Char) : Bool := c = '\x00' || c = ' ' || isBreak c

abbrev Scan := StateT Cursor (Except Fault)

namespace Scan

def peek (k : Nat) : Scan Char := return (← get).peek k

def here : Scan Mark := return (← get).mark

def skip (n : Nat) : Scan Unit := modify (·.skip n)

def fail {α : Type} (p : Problem) : Scan α := do throw (.at (← here) p)

/-- Move over the longest run of such characters. -/
def span (p : Char → Bool) : Scan (List Char) := do
  let word := (← get).rest.takeWhile p
  skip word.length
  return word

def skipRun (p : Char → Bool) : Scan Unit := do
  let _ ← span p

/-- Move over a line break if there is one; all but two of them read as a line feed. -/
def lineBreak : Scan (List Char) := do
  let c ← peek 0
  if c = '\r' && (← peek 1) = '\n' then
    skip 2
    return ['\n']
  else if c = '\r' || c = '\n' || c = '\x85' then
    skip 1
    return ['\n']
  else if isBreak c then
    skip 1
    return [c]
  else return []

/-- Move over the blanks of a line and a comment behind them. -/
def comment (isBlank : Char → Bool) : Scan Unit := do
  skipRun isBlank
  if (← peek 0) = '#' then skipRun (!isEnd ·)

/-- The rest of a line that may hold nothing but a comment. -/
def restOfLine : Scan Unit := do
  comment (· = ' ')
  let c ← peek 0
  if c = '\x00' || isBreak c then
    let _ ← lineBreak
  else fail (.commentOrBreak c)

/-- The number written with exactly this many hexadecimal digits. -/
def hexNumber (count : Nat) (problem : Char → Problem) : Scan Nat := do
  let digits := (← get).rest.take count
  match (digits.find? (!Text.isHexDigit ·)), decide (digits.length < count) with
  | some c, _ => fail (problem c)
  | none, true => fail (problem '\x00')
  | none, false =>
    skip count
    return Text.hexNumber digits

end Scan
end Detour.Yaml
