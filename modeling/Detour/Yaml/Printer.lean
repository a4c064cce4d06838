import Detour.Decimal.Whole
import Detour.Yaml.Shared
import Detour.Yaml.Spelling

/-!
# Writing documents

Mappings are indented by two columns, sequences inside them not at all. A part that occurs again
gets an anchor, and its later occurrences are aliases. Lines are broken at spaces behind column 80.
Whole numbers of more than `digitLimit` digits cannot be written.
-/
namespace Detour.Yaml

structure Pen where
  text : String
  column : Nat
  /-- Whether a blank or nothing stands before the pen. -/
  afterBlank : Bool
  /-- Whether the line holds nothing but marks of collections so far. -/
  leading : Bool
  /-- Whether the next item stays on the line of its tag. -/
  staysOnLine : Bool
  /-- The labels that have been written. -/
  written : List Nat

abbrev Write := StateM Pen

namespace Pen

def blank : Pen := ⟨"", 0, true, true, false, []⟩

def bestWidth : Nat := 80

def put (s : String) : Write Unit := modify fun p =>
  { p with text := p.text ++ s, column := p.column + s.length }

def putChars (cs : List Char) : Write Unit := put (String.ofList cs)

def mark (s : String) (separated : Bool) (blankAfter leads : Bool) : Write Unit := do
  let p ← get
  put (if p.afterBlank || !separated then s else " " ++ s)
  modify fun q => { q with afterBlank := blankAfter, leading := q.leading && leads }

def lineBreak (s : String) : Write Unit := modify fun p =>
  { p with text := p.text ++ s, column := 0, afterBlank := true, leading := true }

/-- Go to a column, on a new line unless the pen is still before it. -/
def indentTo (column : Nat) : Write Unit := do
  let p ← get
  if !p.leading || column < p.column || (p.column = column && !p.afterBlank) then
    if p.staysOnLine then set { p with staysOnLine := false } else lineBreak "\n"
  let p ← get
  if p.column < column then
    put (String.ofList (List.replicate (column - p.column) ' '))
    modify fun p => { p with afterBlank := true }

def inText : Write Unit := modify fun p => { p with afterBlank := false, leading := false }

end Pen

inductive Piece where
  | word (cs : List Char)
  | spaces (count : Nat)
  | breaks (cs : List Char)

def pieceOf (c : Char) : Piece :=
  if c = ' ' then .spaces 1 else if isWrittenBreak c then .breaks [c] else .word [c]

/-- Words, runs of spaces and runs of line breaks. -/
def piecesOf : List Char → List Piece
  | [] => []
  | c :: cs =>
    match pieceOf c, piecesOf cs with
    | .word _, .word w :: rest => .word (c :: w) :: rest
    | .spaces _, .spaces n :: rest => .spaces (n + 1) :: rest
    | .breaks _, .breaks b :: rest => .breaks (c :: b) :: rest
    | p, rest => p :: rest

namespace Pen

def writePlain (indent : Nat) (split : Bool) (cs : List Char) : Write Unit := do
  if cs.isEmpty then return
  if !(← get).afterBlank then put " "
  inText
  (piecesOf cs).forM fun
    | .word w => do
      if bestWidth < w.length && indent < (← get).column then indentTo indent
      putChars w
    | .spaces n => do
      if n = 1 && bestWidth < (← get).column && split then
        indentTo indent
        inText
      else putChars (List.replicate n ' ')
    | .breaks b => putChars b

def writeBreaks (indent : Nat) (cs : List Char) : Write Unit := do
  if cs.head? = some '\n' then lineBreak "\n"
  cs.forM fun c => lineBreak (String.singleton c)
  indentTo indent

def doubledQuotes (cs : List Char) : List Char :=
  cs.flatMap fun c => if c = '\'' then ['\'', '\''] else [c]

/-- The pieces of a text in single quotes; spaces at its ends are kept on their line. -/
def writeSinglePieces (indent : Nat) (split : Bool) (first : Bool) : List Piece → Write Unit
  | [] => pure ()
  | .word w :: rest => do
    putChars (doubledQuotes w)
    writeSinglePieces indent split false rest
  | .spaces n :: rest => do
    if n = 1 && bestWidth < (← get).column && split && !first && !rest.isEmpty then indentTo indent
    else putChars (List.replicate n ' ')
    writeSinglePieces indent split false rest
  | .breaks b :: rest => do
    writeBreaks indent b
    writeSinglePieces indent split false rest

def writeSingle (indent : Nat) (split : Bool) (cs : List Char) : Write Unit := do
  mark "'" true false false
  writeSinglePieces indent split true (piecesOf cs)
  mark "'" false false false

def escapeLetter? : Char → Option Char
  | '\x00' => some '0'
  | '\x07' => some 'a'
  | '\x08' => some 'b'
  | '\t' => some 't'
  | '\n' => some 'n'
  | '\x0b' => some 'v'
  | '\x0c' => some 'f'
  | '\r' => some 'r'
  | '\x1b' => some 'e'
  | '"' => some '"'
  | '\\' => some '\\'
  | '\x85' => some 'N'
  | '\u2028' => some 'L'
  | '\u2029' => some 'P'
  | _ => none

def upperHex (width n : Nat) : List Char := (Text.hexDigits width n).map Char.toUpper

def escapeText (c : Char) : List Char :=
  match escapeLetter? c with
  | some e => ['\\', e]
  | none =>
    let n := c.toNat
    if n < 0x100 then '\\' :: 'x' :: upperHex 2 n
    else if n < 0x10000 then '\\' :: 'u' :: upperHex 4 n
    else '\\' :: 'U' :: upperHex 8 n

def isEscaped (c : Char) : Bool := c = '"' || c = '\\' || isBreak c || needsEscape c

/-- Whether a line of a text in double quotes can end at a place without a backslash. -/
def breaksFreely (text : Array Char) (place : Nat) : Bool :=
  let rest := text.toList.drop place
  let word := rest.takeWhile (· != ' ')
  word.length < rest.length && !word.contains '"' && !word.contains '\'' &&
    (text[place + 1]?).any (· != ' ') && !(text[place - 1]? == some ' ' && text[place]? == some ' ')

/-- Write the characters from `place` on; those from `start` to `place` are still to be written. -/
def writeDoubleFrom (indent : Nat) (split : Bool) (text : Array Char) : Nat → Nat → Nat → Write Unit
  | 0, _, _ => pure ()
  | fuel + 1, start, place => do
    let pending := text.toList.drop start |>.take (place - start)
    let c? := text[place]?
    let flushes := c?.all isEscaped
    if flushes then
      putChars pending
      match c? with
      | some c => putChars (escapeText c)
      | none => pure ()
    let start := if flushes then (if c?.isSome then place + 1 else max start place) else start
    let pending := if flushes then [] else pending
    let room := (← get).column + pending.length
    let past := if place < start then 1 else 0
    let tooLong := bestWidth + past < room
    if 0 < place && place + 1 < text.size && (c? == some ' ' || place ≤ start) && tooLong && split then
      let free := breaksFreely text place
      putChars (pending ++ if free then [] else ['\\'])
      let start := max start place
      indentTo indent
      inText
      if text[start]? == some ' ' then
        if free then writeDoubleFrom indent split text fuel (start + 1) (place + 1)
        else
          put "\\"
          writeDoubleFrom indent split text fuel start (place + 1)
      else writeDoubleFrom indent split text fuel start (place + 1)
    else if c?.isSome then writeDoubleFrom indent split text fuel start (place + 1)

def writeDouble (indent : Nat) (split : Bool) (cs : List Char) : Write Unit := do
  mark "\"" true false false
  writeDoubleFrom indent split cs.toArray (cs.length + 1) 0 0
  mark "\"" false false false

/-- A text line by line, which ends with a single line feed. -/
def writeLiteral (indent : Nat) (cs : List Char) : Write Unit := do
  mark "|" true false false
  lineBreak "\n"
  (piecesOf cs).forM fun
    | .word w => do
      indentTo indent
      putChars w
    | .spaces n => putChars (List.replicate n ' ')
    | .breaks b => b.forM fun _ => lineBreak "\n"

end Pen

namespace Shared

def label? : Shared → Option Nat
  | stamp l _ | list l _ | map l _ | ordered l _ | set l _ => some l
  | plain _ | tuple _ => none

/-- The labels met so far, and the labels met twice, in the order of their second occurrence. -/
structure Occurrences where
  seen : List Nat
  again : List Nat

def Occurrences.isSeen (o : Occurrences) (label : Option Nat) : Bool :=
  label.any o.seen.contains

def Occurrences.meet (o : Occurrences) (label : Option Nat) : Occurrences :=
  match label with
  | none => o
  | some l =>
    if !o.seen.contains l then { o with seen := l :: o.seen }
    else if o.again.contains l then o
    else { o with again := o.again ++ [l] }

mutual
def occurrences (o : Occurrences) : Shared → Occurrences
  | plain _ => o
  | stamp l _ => o.meet (some l)
  | list l xs => if o.isSeen (some l) then o.meet (some l) else itemOccurrences (o.meet (some l)) xs
  | tuple xs => itemOccurrences o xs
  | map l es => if o.isSeen (some l) then o.meet (some l) else entryOccurrences (o.meet (some l)) es
  | ordered l es =>
    if o.isSeen (some l) then o.meet (some l) else entryOccurrences (o.meet (some l)) es
  | set l xs => if o.isSeen (some l) then o.meet (some l) else itemOccurrences (o.meet (some l)) xs
def itemOccurrences (o : Occurrences) : List Shared → Occurrences
  | [] => o
  | x :: xs => itemOccurrences (occurrences o x) xs
def entryOccurrences (o : Occurrences) : List (Shared × Shared) → Occurrences
  | [] => o
  | (k, v) :: es => entryOccurrences (occurrences (occurrences o k) v) es
end

end Shared

def anchorText (n : Nat) : String := "id" ++ Text.padded 3 n

/-- Where a node is written. -/
structure Spot where
  indent : Option Nat
  inSequence : Bool
  inMapping : Bool
  /-- Whether the node is a key in front of a colon. -/
  isKey : Bool

namespace Spot

def column (s : Spot) : Nat := s.indent.getD 0

/-- The column of the contents of a collection that is written here. -/
def deeper (s : Spot) : Option Nat :=
  match s.indent with
  | none => some 0
  | some n => some (n + 2)

end Spot

namespace Pen

def writeLeaf (s : Spot) (anchored : Bool) (l : Leaf) : Write Unit := do
  -- a missing value has no spelling in front of a colon but its name
  let l := if s.isKey && l.tag = Tag.null then { l with text := "null" } else l
  let spelling := l.spelling s.isKey
  let detected := implicitTag false l.text
  let clear := if spelling = .plain then detected = l.tag else l.tag = Tag.str
  if !clear then mark (shortTag l.tag) true false false
  let indent := (s.indent.map (· + 2)).getD 0
  if s.inSequence && !anchored then indentTo indent
  let cs := l.text.toList
  match spelling with
  | .plain => writePlain indent (!s.isKey) cs
  | .single => writeSingle indent (!s.isKey) cs
  | .double => writeDouble indent (!s.isKey) cs
  | .literal => writeLiteral indent cs

/-- A tag that the form of a collection does not tell. -/
def writeTag (s : Spot) (tag : String) : Write Unit := do
  mark (shortTag tag) true false false
  if s.inSequence && tag = Tag.set then modify fun p => { p with staysOnLine := true }

/-- The name of a node that occurs again: an alias if it has been written, else its anchor. -/
def writeName (again : List Nat) (label : Option Nat) : Write Bool := do
  match label with
  | none => return false
  | some l =>
    if !again.contains l then return false
    let name := anchorText (again.idxOf l + 1)
    if (← get).written.contains l then
      mark ("*" ++ name) true false false
      return true
    modify fun p => { p with written := l :: p.written }
    mark ("&" ++ name) true false false
    return false

def isAnchored (again : List Nat) (label : Option Nat) : Bool := label.any again.contains

/-- The length of an anchor, if the node has one. -/
def anchorLength (again : List Nat) (x : Shared) : Nat :=
  match x.label? with
  | some l => if again.contains l then (anchorText (again.idxOf l + 1)).length else 0
  | none => 0

/-- Whether a key can stand in front of a colon; an alias always can. -/
def isShort (again written : List Nat) (x : Shared) : Bool :=
  let isAlias := x.label?.any fun l => again.contains l && written.contains l
  isAlias || match x with
    | .plain v => (Leaf.ofValue v).isShortKey 0
    | .stamp _ v => (Leaf.ofValue v).isShortKey (anchorLength again x)
    | .list _ xs | .tuple xs | .set _ xs => xs.isEmpty
    | .map _ es | .ordered _ es => es.isEmpty

def emptyBrackets (opening closing : String) : Write Unit := do
  mark opening true true false
  mark closing false false false

/-- Where the items of a sequence are written; inside a mapping they need no indentation. -/
def itemsColumn (s : Spot) : Write Nat := do
  if s.inMapping && !(← get).leading then return s.column else return s.deeper.getD 0

mutual

def writeNode (again : List Nat) (s : Spot) (x : Shared) : Write Unit :=
  match x with
  | .plain v => writeLeaf s false (Leaf.ofValue v)
  | .stamp l v => do
    if !(← writeName again (some l)) then
      writeLeaf s (isAnchored again (some l)) (Leaf.ofValue v)
  | .list l xs => do
    if !(← writeName again (some l)) then
      if xs.isEmpty then emptyBrackets "[" "]" else writeItems again (← itemsColumn s) xs
  | .tuple xs => do
    if xs.isEmpty then emptyBrackets "[" "]" else writeItems again (← itemsColumn s) xs
  | .map l es => do
    if !(← writeName again (some l)) then
      if es.isEmpty then emptyBrackets "\x7b" "\x7d" else writeEntries again (s.deeper.getD 0) es
  | .ordered l es => do
    if !(← writeName again (some l)) then
      writeTag s Tag.omap
      if es.isEmpty then emptyBrackets "[" "]" else writePairs again (← itemsColumn s) es
  | .set l xs => do
    if !(← writeName again (some l)) then
      writeTag s Tag.set
      if xs.isEmpty then emptyBrackets "\x7b" "\x7d" else writeMembers again (s.deeper.getD 0) xs
termination_by structural x

def writeItems (again : List Nat) (column : Nat) (xs : List Shared) : Write Unit :=
  match xs with
  | [] => pure ()
  | x :: xs => do
    indentTo column
    mark "-" true false true
    writeNode again ⟨some column, true, false, false⟩ x
    writeItems again column xs
termination_by structural xs

def writeEntries (again : List Nat) (column : Nat) (es : List (Shared × Shared)) : Write Unit :=
  match es with
  | [] => pure ()
  | (k, v) :: es => do
    indentTo column
    let written := (← get).written
    if isShort again written k then
      writeNode again ⟨some column, false, true, true⟩ k
      if k.label?.any fun l => again.contains l && written.contains l then
        modify fun p => { p with text := p.text ++ " " }
      mark ":" false false false
    else
      mark "?" true false true
      writeNode again ⟨some column, false, true, false⟩ k
      indentTo column
      mark ":" true false true
    writeNode again ⟨some column, false, true, false⟩ v
    writeEntries again column es
termination_by structural es

/-- The entries of an ordered mapping, each a mapping of its own. -/
def writePairs (again : List Nat) (column : Nat) (es : List (Shared × Shared)) : Write Unit :=
  match es with
  | [] => pure ()
  | (k, v) :: es => do
    indentTo column
    mark "-" true false true
    indentTo (column + 2)
    if isShort again (← get).written k then
      writeNode again ⟨some (column + 2), false, true, true⟩ k
      mark ":" false false false
    else
      mark "?" true false true
      writeNode again ⟨some (column + 2), false, true, false⟩ k
      indentTo (column + 2)
      mark ":" true false true
    writeNode again ⟨some (column + 2), false, true, false⟩ v
    writePairs again column es
termination_by structural es

/-- The members of a set, as keys without values. -/
def writeMembers (again : List Nat) (column : Nat) (xs : List Shared) : Write Unit :=
  match xs with
  | [] => pure ()
  | x :: xs => do
    indentTo column
    if isShort again (← get).written x then
      writeNode again ⟨some column, false, true, true⟩ x
      mark ":" false false false
    else
      mark "?" true false true
      writeNode again ⟨some column, false, true, false⟩ x
      indentTo column
      mark ":" true false true
    writeMembers again column xs
termination_by structural xs

end

end Pen

/-- The text of a document. -/
def Shared.print (x : Shared) : String :=
  let again := (Shared.occurrences ⟨[], []⟩ x).again
  let body : Write Unit := do
    Pen.writeNode again ⟨none, false, false, false⟩ x
    Pen.indentTo 0
  (body.run .blank).2.text

def tooManyDigits : String :=
  "Exceeds the limit (4300 digits) for integer string conversion; use " ++
    "sys.set_int_max_str_digits() to increase the limit"

mutual

/-- Whether each whole number has few enough digits to be written. -/
def isWritable (v : Value) : Bool :=
  match v with
  | .int n => n.natAbs < Nat.pow 10 digitLimit
  | .list xs | .tuple xs | .set xs => areWritable xs
  | .map es => entriesAreWritable es
  | _ => true
termination_by structural v

def areWritable (xs : List Value) : Bool :=
  match xs with
  | [] => true
  | x :: xs => isWritable x && areWritable xs
termination_by structural xs

def entriesAreWritable (es : List (Value × Value)) : Bool :=
  match es with
  | [] => true
  | (k, v) :: es => isWritable k && isWritable v && entriesAreWritable es
termination_by structural es

end

end Detour.Yaml
