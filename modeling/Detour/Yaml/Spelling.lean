import Detour.Decimal.Shortest
import Detour.Text.Base64
import Detour.Yaml.Cursor
import Detour.Yaml.Resolve

/-!
# How a scalar may be written

A text is written plain if it would be read as the same text, and otherwise in quotes: double ones
if it holds a single quote, a line feed or something that has to be escaped.
-/
namespace Detour.Yaml

/-- A scalar with its text and its tag. -/
structure Leaf where
  text : String
  tag : String
  /-- Whether it is written line by line. -/
  lines : Bool

inductive Spelling where
  | plain
  | single
  | double
  | literal
  deriving DecidableEq, Repr

/-- Base 64 in lines of 76 letters. -/
def base64Lines : Nat → List Char → List Char
  | 0, _ => []
  | fuel + 1, cs => if cs.isEmpty then [] else cs.take 76 ++ '\n' :: base64Lines fuel (cs.drop 76)

def floatText : Binary64 → String
  | .nan => ".nan"
  | .infinite s => if s then "-.inf" else ".inf"
  | x => x.text

def Leaf.ofValue : Value → Leaf
  | .null => ⟨"", Tag.null, false⟩
  | .bool b => ⟨if b then "true" else "false", Tag.bool, false⟩
  | .int n => ⟨toString n, Tag.int, false⟩
  | .float x => ⟨floatText x, Tag.float, false⟩
  | .bytes bs =>
    let cs := Text.Base64.encode bs
    ⟨String.ofList (base64Lines (cs.length + 1) cs), Tag.binary, true⟩
  | .date d => ⟨d.iso, Tag.timestamp, false⟩
  | .moment t => ⟨t.iso.map fun c => if c = 'T' then ' ' else c, Tag.timestamp, false⟩
  | .str s => ⟨s, Tag.str, false⟩
  | v => ⟨v.shown, Tag.str, false⟩

/-- The short form of a standard tag. -/
def shortTag (tag : String) : String :=
  let schema := Tag.standard ""
  if tag.startsWith schema then "!!" ++ String.ofList (tag.toList.drop schema.length) else tag

/-- Characters that have to be escaped. -/
def needsEscape (c : Char) : Bool := !(isAllowed c) || c = '\t' || c = '\r' || c = '\uFEFF'

/-- The breaks that count inside a text that is written. -/
def isWrittenBreak (c : Char) : Bool := isBreak c && c != '\r'

def isGapOrBreak (c : Char) : Bool := c = '\x00' || isGap c || isBreak c

/-- Whether one character has this property and the next one that. -/
def anyPair (p q : Char → Bool) : List Char → Bool
  | a :: b :: cs => (p a && q b) || anyPair p q (b :: cs)
  | _ => false

/-- Whether a colon or a number sign inside the text, or its beginning, would be taken for a mark. -/
def looksMarked (cs : List Char) : Bool :=
  let startsMarked := match cs with
    | [] => false
    | c :: rest =>
      let followed := rest.head?.all isGapOrBreak
      "#,[]\x7b\x7d&*!|>'\"%@".toList.contains c || c.toNat = 0x60 ||
        ((c = '?' || c = ':' || c = '-') && followed)
  let separates := cs.take 3 = ['-', '-', '-'] || cs.take 3 = ['.', '.', '.']
  startsMarked || separates || anyPair (· = ':') isGapOrBreak cs ||
    (1 < cs.length && cs.getLast? = some ':') || anyPair isGapOrBreak (· = '#') cs

structure Allowance where
  plain : Bool
  single : Bool
  literal : Bool
  multiline : Bool

def allowance (cs : List Char) : Allowance :=
  if cs.isEmpty then ⟨true, true, false, false⟩
  else
    let special := cs.any needsEscape
    let multiline := cs.any isWrittenBreak
    let isSpaceOrBreak c := c = ' ' || isWrittenBreak c
    let edged := (cs.head?.map isSpaceOrBreak).getD false || (cs.getLast?.map isSpaceOrBreak).getD false
    let breakSpace := anyPair isWrittenBreak (· = ' ') cs
    let spaceBreak := anyPair (· = ' ') isWrittenBreak cs
    { plain := !(special || multiline || edged || breakSpace || spaceBreak || looksMarked cs)
      single := !(special || breakSpace || spaceBreak)
      literal := !(special || cs.getLast? = some ' ')
      multiline }

/-- The spelling of a leaf, as the key of a mapping in front of a colon or elsewhere. -/
def Leaf.spelling (l : Leaf) (isKey : Bool) : Spelling :=
  let cs := l.text.toList
  let a := allowance cs
  if !l.lines && implicitTag false l.text = l.tag && a.plain && !(isKey && (cs.isEmpty || a.multiline))
  then .plain
  else if l.lines && !isKey && a.literal then .literal
  else if l.lines || cs.contains '\'' || cs.contains '\n' then .double
  else if a.single && !(isKey && a.multiline) then .single
  else .double

/-- The longest key, with its tag, that can stand in front of a colon. -/
def longestKey : Nat := 127

def Leaf.isShortKey (l : Leaf) (anchor : Nat) : Bool :=
  anchor + (shortTag l.tag).length + l.text.length ≤ longestKey && !(allowance l.text.toList).multiline

end Detour.Yaml
