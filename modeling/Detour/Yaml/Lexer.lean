import Detour.Yaml.Mention
import Detour.Yaml.Scalar

/-!
# The tokens of a document

Tokens are read one after another as they are asked for. A token that may turn out to be a mapping
key waits until the colon behind it is seen or can no longer come; the tokens that open a mapping
are then put in front of it.
-/
namespace Detour.Yaml

inductive Bracket where
  | square
  | curly
  deriving DecidableEq, Repr

/-- A token that a colon may turn into a key. -/
structure SimpleKey where
  /-- How many tokens come before it in the whole document. -/
  number : Nat
  /-- Whether nothing but a key can stand there. -/
  required : Bool
  mark : Mark
  deriving Repr

structure Lexer where
  cursor : Cursor
  /-- The column of the current block collection, -1 outside all. -/
  indent : Int
  outer : List Int
  flow : List Bracket
  allowsKey : Bool
  /-- The possible keys by depth of brackets. -/
  keys : List (Nat × SimpleKey)
  queue : List Token
  taken : Nat
  done : Bool
  version : Option (Nat × Nat)

abbrev Lex := StateT Lexer (Except Fault)

namespace Lexer

def start (text : List Char) : Lexer :=
  { cursor := .start text, indent := -1, outer := [], flow := [], allowsKey := true, keys := [],
    queue := [], taken := 0, done := false, version := none }

def inFlow (l : Lexer) : Bool := !l.flow.isEmpty

/-- Whether the rules of version 1.1 are in force. -/
def isOld (l : Lexer) : Bool := l.version == some (1, 1)

def depth (l : Lexer) : Nat := l.flow.length

def key? (l : Lexer) : Option SimpleKey := (l.keys.find? (·.1 = l.depth)).map (·.2)

def withoutKey (l : Lexer) : Lexer := { l with keys := l.keys.filter (·.1 != l.depth) }

/-- The farthest that a key may be from its colon. -/
def keyReach : Nat := 1024

def isStale (l : Lexer) (k : SimpleKey) : Bool :=
  k.mark.line != l.cursor.mark.line || keyReach < l.cursor.mark.index - k.mark.index

def scan {α : Type} (s : Scan α) : Lex α := do
  let l ← get
  let (x, c) ← s.run l.cursor
  set { l with cursor := c }
  return x

def here : Lex Mark := return (← get).cursor.mark

def fail {α : Type} (p : Problem) : Lex α := do throw (.at (← here) p)

def peekChar (k : Nat) : Lex Char := return (← get).cursor.peek k

def allowKey (b : Bool) : Lex Unit := modify fun l => { l with allowsKey := b }

def push (t : Token) : Lex Unit := modify fun l => { l with queue := l.queue ++ [t] }

def pushHere (s : Sign) : Lex Unit := do
  let m ← here
  push ⟨s, m, m⟩

/-- Read a token of so many characters. -/
def pushChars (s : Sign) (count : Nat) : Lex Unit := do
  let m ← here
  scan (Scan.skip count)
  push ⟨s, m, ← here⟩

def pushScanned (s : Scan Sign) : Lex Unit := do
  let m ← here
  let sign ← scan s
  push ⟨sign, m, ← here⟩

/-- Forget the keys whose colon can no longer come. -/
def dropStale : Lex Unit := do
  let l ← get
  if l.keys.any fun k => l.isStale k.2 && k.2.required then fail .noColon
  set { l with keys := l.keys.filter fun k => !l.isStale k.2 }

def dropKey : Lex Unit := do
  let l ← get
  if l.key?.any (·.required) then fail .noColon
  set l.withoutKey

/-- Note that the next token may be a key. -/
def saveKey : Lex Unit := do
  let l ← get
  let required := !l.inFlow && l.indent = l.cursor.mark.column
  if l.allowsKey then
    dropKey
    modify fun l =>
      { l with keys := l.keys ++ [(l.depth, ⟨l.taken + l.queue.length, required, l.cursor.mark⟩)] }

def unwindFrom (column : Int) (mark : Mark) : List Int → Lexer → Lexer
  | [], l => l
  | i :: outer, l =>
    if column < l.indent then
      unwindFrom column mark outer
        { l with indent := i, outer := outer, queue := l.queue ++ [⟨.blockEnd, mark, mark⟩] }
    else l

/-- Close the block collections that are indented more than this. -/
def unwind (column : Int) : Lex Unit :=
  modify fun l => if l.inFlow then l else unwindFrom column l.cursor.mark l.outer l

/-- Open a block collection at this column unless it is open; whether it was opened. -/
def addIndent (column : Nat) : Lex Bool := do
  let l ← get
  if l.indent < column then
    set { l with indent := column, outer := l.indent :: l.outer }
    return true
  else return false

def openBlock (s : Sign) : Lex Unit := do
  if ← addIndent (← here).column then pushHere s

def takeDirective : Lex Unit := do
  unwind (-1)
  dropKey
  allowKey false
  let old := (← get).isOld
  pushScanned (.directive <$> Scan.directive old)
  match (← get).queue.getLast? with
  | some ⟨.directive (.version major minor), _, _⟩ =>
    modify fun l => { l with version := some (major, minor) }
  | _ => pure ()

def takeStreamEnd : Lex Unit := do
  unwind (-1)
  dropKey
  modify fun l => { l with allowsKey := false, keys := [], done := true }
  pushHere .streamEnd

def takeSeparator (s : Sign) : Lex Unit := do
  unwind (-1)
  dropKey
  allowKey false
  pushChars s 3

def takeOpening (s : Sign) (b : Bracket) : Lex Unit := do
  saveKey
  modify fun l => { l with flow := b :: l.flow, allowsKey := true }
  pushChars s 1

def takeClosing (s : Sign) : Lex Unit := do
  dropKey
  modify fun l => { l with flow := l.flow.drop 1, allowsKey := false }
  pushChars s 1

def takeFlowEntry : Lex Unit := do
  allowKey true
  dropKey
  pushChars .flowEntry 1

def takeBlockEntry : Lex Unit := do
  let l ← get
  if !l.inFlow then
    if !l.allowsKey then fail .noEntryHere
    openBlock .blockSequenceStart
  allowKey true
  dropKey
  pushChars .blockEntry 1

def takeKey : Lex Unit := do
  let l ← get
  if !l.inFlow then
    if !l.allowsKey then fail .noKeyHere
    openBlock .blockMappingStart
  allowKey !l.inFlow
  dropKey
  pushChars .key 1

/-- Put tokens in front of the token that turned out to be a key. -/
def insertAt (k : SimpleKey) (signs : List Sign) : Lex Unit :=
  modify fun l =>
    let (before, after) := l.queue.splitAt (k.number - l.taken)
    { l with queue := before ++ signs.map (fun s => ⟨s, k.mark, k.mark⟩) ++ after }

def takeValue : Lex Unit := do
  let l ← get
  match l.key? with
  | some k =>
    set l.withoutKey
    let opened ← if l.inFlow then pure false else addIndent k.mark.column
    insertAt k (if opened then [.blockMappingStart, .key] else [.key])
    allowKey false
  | none =>
    if !l.inFlow then
      if !l.allowsKey then fail .noValueHere
      openBlock .blockMappingStart
    allowKey !l.inFlow
    dropKey
  pushChars .value 1

def takeNamed (s : Scan Sign) : Lex Unit := do
  saveKey
  allowKey false
  pushScanned s

def takeBlock (folded : Bool) : Lex Unit := do
  allowKey true
  dropKey
  let outer := (← get).indent
  let style := if folded then .folded else .literal
  pushScanned ((fun text => .scalar (String.ofList text) style) <$> Scan.block folded outer)

def takeQuoted (double : Bool) : Lex Unit :=
  let style := if double then .double else .single
  takeNamed ((fun text => .scalar (String.ofList text) style) <$> Scan.quoted double)

def takePlain : Lex Unit := do
  saveKey
  allowKey false
  let l ← get
  let m ← here
  let p ← scan (Scan.plain l.inFlow l.isOld (l.indent + 1))
  if p.broke then allowKey true
  push ⟨.scalar (String.ofList p.text) .plain, m, p.finish⟩

/-- Move over blanks, comments and line breaks. -/
def skipGap : Nat → Lex Unit
  | 0 => pure ()
  | fuel + 1 => do
    let flow := (← get).inFlow
    scan (Scan.comment fun c => c = ' ' || (flow && c = '\t'))
    let b ← scan Scan.lineBreak
    if b.isEmpty then pure () else do
      if !flow then allowKey true
      skipGap fuel

/-- Whether a colon here ends a key. -/
def isValue (l : Lexer) : Bool :=
  let spaced := isGapOrEnd (l.cursor.peek 1)
  match l.flow with
  | [] => spaced
  | b :: _ =>
    if l.isOld then true
    else if b = .square then spaced
    else match l.queue.getLast? with
      | some ⟨.value, _, _⟩ => spaced
      | _ => true

/-- Whether a plain text can begin here. -/
def isPlain (l : Lexer) : Bool :=
  let c := l.cursor.peek 0
  let next := l.cursor.peek 1
  let marks := "-?:,[]\x7b\x7d#&*!|>'\"%@".toList
  if !(c = '\x00' || isGap c || isBreak c || marks.contains c || c.toNat = 0x60) then true
  else if c = ':' && l.inFlow && !l.isOld && !isGap next then true
  else !isGapOrEnd next && (c = '-' || (!l.inFlow && (c = '?' || c = ':')))

def skipStart : Lex Unit := do
  if (← here).index = 0 && (← peekChar 0) = '\uFEFF' then scan (Scan.skip 1)

/-- Read at least one token more. -/
def fetch : Lex Unit := do
  skipStart
  skipGap ((← get).cursor.rest.length + 1)
  dropStale
  unwind (← here).column
  let l ← get
  let c := l.cursor.peek 0
  let spaced := isGapOrEnd (l.cursor.peek 1)
  if c = '\x00' then takeStreamEnd
  else if c = '%' && l.cursor.mark.column = 0 then takeDirective
  else if l.cursor.hasSeparator '-' then takeSeparator .documentStart
  else if l.cursor.hasSeparator '.' then takeSeparator .documentEnd
  else if c = '[' then takeOpening .flowSequenceStart .square
  else if c = '\x7b' then takeOpening .flowMappingStart .curly
  else if c = ']' then takeClosing .flowSequenceEnd
  else if c = '\x7d' then takeClosing .flowMappingEnd
  else if c = ',' then takeFlowEntry
  else if c = '-' && spaced then takeBlockEntry
  else if c = '?' && (l.inFlow || spaced) then takeKey
  else if c = ':' && l.isValue then takeValue
  else if c = '*' then takeNamed ((fun name => .reference (String.ofList name)) <$> Scan.anchorName)
  else if c = '&' then takeNamed ((fun name => .anchor (String.ofList name)) <$> Scan.anchorName)
  else if c = '!' then takeNamed (.tag <$> Scan.tag l.isOld)
  else if c = '|' && !l.inFlow then takeBlock false
  else if c = '>' && !l.inFlow then takeBlock true
  else if c = '\'' then takeQuoted false
  else if c = '"' then takeQuoted true
  else if l.isPlain then takePlain
  else fail (.cannotStart c)

/-- Whether the first token of the queue may still become a key. -/
def needsMore : Lex Bool := do
  if (← get).done then return false
  if (← get).queue.isEmpty then return true
  dropStale
  let l ← get
  return (l.keys.map fun k => k.2.number).min? == some l.taken

def fill : Nat → Lex Unit
  | 0 => pure ()
  | fuel + 1 => do
    if ← needsMore then
      fetch
      fill fuel

/-- The next token; behind the last one it stays the end of the stream. -/
def peek : Lex Token := do
  fill ((← get).cursor.rest.length + 3)
  let l ← get
  return l.queue.headD ⟨.streamEnd, l.cursor.mark, l.cursor.mark⟩

def take : Lex Token := do
  let t ← peek
  modify fun l => { l with queue := l.queue.drop 1, taken := l.taken + 1 }
  return t

end Lexer
end Detour.Yaml
