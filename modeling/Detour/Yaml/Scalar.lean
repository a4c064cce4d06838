import Detour.Yaml.Cursor
import Detour.Yaml.Token

/-!
# Scalars: plain, quoted and block texts

Line breaks inside a plain or a quoted text are folded: one stands for a space, and of several all
but the first are kept. A block text keeps or folds its lines and ends where the indentation does.
-/
namespace Detour.Yaml.Scan

/-- The breaks of empty lines after one line break; alone, the first reads as a space. -/
def foldBreaks (first rest : List Char) : List Char :=
  if first != ['\n'] then first ++ rest else if rest.isEmpty then [' '] else rest

/-- Whether a document ends here, seen from the beginning of a line. -/
def atSeparator : Scan Bool := do
  let c ← get
  let line : Cursor := ⟨c.rest, ⟨0, 0, 0⟩⟩
  return line.hasSeparator '-' || line.hasSeparator '.'

/-- Where a plain text has to stop, given the character after this one. -/
def stopsPlain (flow old : Bool) (c next : Char) : Bool :=
  if c = ':' && !isGapOrEnd next then false
  else if c = '?' && !old then false
  else isGapOrEnd c || (!flow && c = ':') || (flow && ",:?[]\x7b\x7d".toList.contains c)

def plainWord (flow old : Bool) : List Char → List Char
  | [] => []
  | c :: rest =>
    if stopsPlain flow old c (rest.headD '\x00') then [] else c :: plainWord flow old rest

/-- Breaks and the spaces around them; `none` if a document ends there. -/
def plainBreaks : Nat → List Char → Scan (Option (List Char))
  | 0, acc => return some acc
  | fuel + 1, acc => do
    let c ← peek 0
    if c = ' ' then
      skip 1
      plainBreaks fuel acc
    else if isBreak c then
      let b ← lineBreak
      if ← atSeparator then return none else plainBreaks fuel (acc ++ b)
    else return some acc

/-- What stands between two words of a plain text, nothing if the text ends here, and whether a
line ended. -/
def plainSpaces : Scan (List Char × Bool) := do
  let blanks ← span (· = ' ')
  if isBreak (← peek 0) then
    let first ← lineBreak
    if ← atSeparator then return ([], true)
    match ← plainBreaks ((← get).rest.length + 1) [] with
    | none => return ([], true)
    | some rest => return (foldBreaks first rest, true)
  else return (blanks, false)

structure Plain where
  text : List Char
  finish : Mark
  /-- Whether the last blanks held a line break. -/
  broke : Bool

def plainRest (flow old : Bool) (indent : Int) : Nat → List Char → Plain → Scan Plain
  | 0, _, p => return p
  | fuel + 1, spaces, p => do
    let word := plainWord flow old (← get).rest
    if (← peek 0) = '#' || word.isEmpty then return p
    skip word.length
    let finish ← here
    let (blanks, broke) ← plainSpaces
    let p : Plain := ⟨p.text ++ spaces ++ word, finish, broke⟩
    if blanks.isEmpty || (← peek 0) = '#' || (!flow && ((← here).column : Int) < indent) then return p
    else plainRest flow old indent fuel blanks p

/-- A plain text; in a block its lines are indented at least so far. -/
def plain (flow old : Bool) (indent : Int) : Scan Plain := do
  plainRest flow old indent ((← get).rest.length + 1) [] ⟨[], ← here, false⟩

def escapeOf? : Char → Option Char
  | '0' => some '\x00'
  | 'a' => some '\x07'
  | 'b' => some '\x08'
  | 't' => some '\t'
  | '\t' => some '\t'
  | 'n' => some '\n'
  | 'v' => some '\x0b'
  | 'f' => some '\x0c'
  | 'r' => some '\r'
  | 'e' => some '\x1b'
  | ' ' => some ' '
  | '"' => some '"'
  | '/' => some '/'
  | '\\' => some '\\'
  | 'N' => some '\x85'
  | '_' => some '\u00a0'
  | 'L' => some '\u2028'
  | 'P' => some '\u2029'
  | _ => none

def escapeWidth? : Char → Option Nat
  | 'x' => some 2
  | 'u' => some 4
  | 'U' => some 8
  | _ => none

/-- The breaks of empty lines inside a quoted text. -/
def quotedBreaks : Nat → List Char → Scan (List Char)
  | 0, acc => return acc
  | fuel + 1, acc => do
    if ← atSeparator then fail .documentSeparator
    skipRun isGap
    if isBreak (← peek 0) then quotedBreaks fuel (acc ++ (← lineBreak)) else return acc

def quotedSpaces : Scan (List Char) := do
  let blanks ← span isGap
  let c ← peek 0
  if c = '\x00' then fail .endOfStream
  else if isBreak c then
    let first ← lineBreak
    let rest ← quotedBreaks ((← get).rest.length + 1) []
    return foldBreaks first rest
  else return blanks

/-- The character with a code point; the second half of a pair of surrogates may follow as a
second escape. -/
def codePoint (code : Nat) : Scan Char := do
  let rest := (← get).rest
  if 0xD800 ≤ code && code < 0xDC00 && rest.take 2 = ['\\', 'u'] then
    let digits := (rest.drop 2).take 4
    let low := Text.hexNumber digits
    if digits.length = 4 && digits.all Text.isHexDigit && 0xDC00 ≤ low && low < 0xE000 then
      skip 6
      return Char.ofNat (0x10000 + 0x400 * (code - 0xD800) + (low - 0xDC00))
    else return '\uFFFD'
  else if 0xD800 ≤ code && code < 0xE000 then return '\uFFFD'
  else if 0x7FFFFFFF < code then
    throw (.scalar "OverflowError" "Python int too large to convert to C int")
  else if 0x10FFFF < code then throw (.scalar "ValueError" "chr() arg not in range(0x110000)")
  else return Char.ofNat code

def escaped : Scan (List Char) := do
  let c ← peek 0
  match escapeOf? c, escapeWidth? c with
  | some e, _ =>
    skip 1
    return [e]
  | none, some width =>
    skip 1
    let code ← hexNumber width (.escapeDigits width)
    return [← codePoint code]
  | none, none =>
    if isBreak c then
      let _ ← lineBreak
      quotedBreaks ((← get).rest.length + 1) []
    else fail (.unknownEscape c)

/-- The characters of a quoted text that are no spaces, up to its end or the next space. -/
def quotedWord (double : Bool) : Nat → List Char → Scan (List Char)
  | 0, acc => return acc
  | fuel + 1, acc => do
    let word ← span fun c => !(isGap c || isBreak c || c = '\'' || c = '"' || c = '\\')
    let acc := acc ++ word
    let c ← peek 0
    if !double && c = '\'' && (← peek 1) = '\'' then
      skip 2
      quotedWord double fuel (acc ++ ['\''])
    else if (double && c = '\'') || (!double && (c = '"' || c = '\\')) then
      skip 1
      quotedWord double fuel (acc ++ [c])
    else if double && c = '\\' then
      skip 1
      let e ← escaped
      quotedWord double fuel (acc ++ e)
    else return acc

def quotedRest (double : Bool) (quote : Char) : Nat → List Char → Scan (List Char)
  | 0, acc => return acc
  | fuel + 1, acc => do
    let word ← quotedWord double ((← get).rest.length + 1) []
    if (← peek 0) = quote then
      skip 1
      return acc ++ word
    let spaces ← quotedSpaces
    quotedRest double quote fuel (acc ++ word ++ spaces)

/-- A quoted text with its quotes. -/
def quoted (double : Bool) : Scan (List Char) := do
  let quote ← peek 0
  skip 1
  quotedRest double quote ((← get).rest.length + 2) []

/-- What happens to the line breaks at the end of a block text. -/
inductive Chomping where
  | clip
  | strip
  | keep
  deriving DecidableEq, Repr

def chomping? : Scan (Option Chomping) := do
  let c ← peek 0
  if c = '+' then
    skip 1
    return some .keep
  else if c = '-' then
    skip 1
    return some .strip
  else return none

def increment? : Scan (Option Nat) := do
  let c ← peek 0
  if !Text.isAsciiDigit c then return none
  if c = '0' then fail .zeroIndent
  skip 1
  return some (c.toNat - 48)

/-- The marks at the head of a block text, in either order. -/
def blockHead : Scan (Chomping × Option Nat) := do
  let head ← match ← chomping? with
    | some chomping => pure (chomping, ← increment?)
    | none => match ← increment? with
      | some n => pure ((← chomping?).getD .clip, some n)
      | none => pure (.clip, none)
  let c ← peek 0
  if closesHead c then return head else fail (.chomping c)

/-- Empty lines before a block text without an explicit indentation: their breaks, the longest of
them, and the first of them. -/
def blockIndentation : Nat → List Char → Option Nat → Nat → Scan (List Char × Option Nat × Nat)
  | 0, acc, first, longest => return (acc, first, longest)
  | fuel + 1, acc, first, longest => do
    let c ← peek 0
    if c = ' ' then
      skip 1
      blockIndentation fuel acc first (max longest (← here).column)
    else if isBreak c then
      let column := (← here).column
      let b ← lineBreak
      blockIndentation fuel (acc ++ b) (some (first.getD column)) longest
    else return (acc, first, longest)

/-- Empty lines inside a block text of this indentation. -/
def blockBreaks (indent : Nat) : Nat → List Char → Scan (List Char)
  | 0, acc => return acc
  | fuel + 1, acc => do
    let column := (← here).column
    let blanks := ((← get).rest.takeWhile (· = ' ')).length
    skip (min blanks (indent - column))
    if isBreak (← peek 0) then blockBreaks indent fuel (acc ++ (← lineBreak)) else return acc

structure Block where
  folded : Bool
  indent : Nat
  /-- Whether the text may begin at the margin, where a separator ends it. -/
  atMargin : Bool

/-- The lines of a block text: the text so far, the last line break and the breaks after it. -/
def blockLines (b : Block) :
    Nat → List Char → List Char → List Char → Scan (List Char × List Char × List Char)
  | 0, acc, last, breaks => return (acc, last, breaks)
  | fuel + 1, acc, last, breaks => do
    if (← here).column != b.indent || (← peek 0) = '\x00' then return (acc, last, breaks)
    let indented := isGap (← peek 0)
    let line ← span (!isEnd ·)
    let acc := acc ++ breaks ++ line
    let last ← lineBreak
    let breaks ← blockBreaks b.indent ((← get).rest.length + 1) []
    let cursor ← get
    if b.atMargin && (cursor.hasSeparator '-' || cursor.hasSeparator '.') then
      return (acc, last, breaks)
    if cursor.mark.column != b.indent || cursor.peek 0 = '\x00' then return (acc, last, breaks)
    if b.folded && last = ['\n'] && !indented && !isGap (cursor.peek 0) then
      blockLines b fuel (if breaks.isEmpty then acc ++ [' '] else acc) last breaks
    else blockLines b fuel (acc ++ last) last breaks

/-- A block text below lines of this indentation. -/
def block (folded : Bool) (outer : Int) : Scan (List Char) := do
  skip 1
  let (chomping, increment) ← blockHead
  restOfLine
  let least := (outer + 1).toNat
  let fuel := (← get).rest.length + 1
  let (breaks, indent, atMargin) ← match increment with
    | none =>
      let (breaks, first, longest) ← blockIndentation fuel [] none 0
      if first.any fun n => 0 < n && n < longest then throw .indentedBefore
      pure (breaks, max least longest, decide (least = 0))
    | some n => do
      let indent := max least 1 + n - 1
      pure (← blockBreaks indent fuel [], indent, false)
  let (text, last, breaks) ← blockLines ⟨folded, indent, atMargin⟩ fuel [] [] breaks
  return match chomping with
    | .strip => text
    | .clip => text ++ last
    | .keep => text ++ last ++ breaks

end Detour.Yaml.Scan
