import Detour.Yaml.Lexer
import Detour.Yaml.Resolve

/-!
# Documents as trees

A document is a tree of nodes with their tags. Every node has a number of its own; an alias stands
for a copy of the node it names, number included, so that equal numbers tell what is shared. Inside
the node it names an alias is a copy without contents.
-/
namespace Detour.Yaml

inductive Node where
  | scalar (id : Nat) (tag text : String) (start : Mark)
  | sequence (id : Nat) (tag : String) (items : List Node) (start : Mark)
  | mapping (id : Nat) (tag : String) (entries : List (Node × Node)) (start : Mark)
  deriving Repr, Inhabited

namespace Node

def id : Node → Nat
  | scalar i .. | sequence i .. | mapping i .. => i

def tag : Node → String
  | scalar _ t .. | sequence _ t .. | mapping _ t .. => t

def start : Node → Mark
  | scalar _ _ _ m | sequence _ _ _ m | mapping _ _ _ m => m

/-- What a node is, as messages name it. -/
def kind : Node → String
  | scalar .. => "scalar"
  | sequence .. => "sequence"
  | mapping .. => "mapping"

end Node

/-- A document that is being read. -/
structure Draft where
  lexer : Lexer
  handles : List (String × String)
  /-- The number of the node that each anchor names, the latest first. -/
  anchors : List (String × Nat)
  finished : List (Nat × Node)
  count : Nat

abbrev Compose := StateT Draft (Except Fault)

namespace Compose

def lex {α : Type} (l : Lex α) : Compose α := do
  let d ← get
  let (x, lexer) ← l.run d.lexer
  set { d with lexer }
  return x

def peek : Compose Token := lex Lexer.peek

def take : Compose Token := lex Lexer.take

def isAt (signs : List Sign) : Compose Bool := return signs.contains (← peek).sign

def fresh : Compose Nat := do
  let d ← get
  set { d with count := d.count + 1 }
  return d.count

def resolved (text : String) : Compose String := do
  match resolve (← get).lexer.version text with
  | .ok tag => return tag
  | .error f => throw f

def isOld : Compose Bool := return (← get).lexer.isOld

/-- A node that is not written at all. -/
def emptyNode (mark : Mark) : Compose Node := do
  return .scalar (← fresh) (← resolved "") "" mark

structure Properties where
  anchor : Option String
  tag : Option String
  start : Option Mark

def fullTag (mark : Mark) (t : TagText) : Compose String := do
  match t.handle with
  | none => return t.suffix
  | some h => match (← get).handles.find? (·.1 = h) with
    | some (_, replacement) => return replacement ++ t.suffix
    | none => throw (.at mark (.undefinedHandle h))

def properties : Compose Properties := do
  let first ← peek
  match first.sign with
  | .anchor name =>
    let _ ← take
    let second ← peek
    match second.sign with
    | .tag t =>
      let _ ← take
      return ⟨some name, some (← fullTag second.start t), some first.start⟩
    | _ => return ⟨some name, none, some first.start⟩
  | .tag t =>
    let _ ← take
    let second ← peek
    match second.sign with
    | .anchor name =>
      let _ ← take
      return ⟨some name, some (← fullTag second.start t), some second.start⟩
    | _ => return ⟨none, some (← fullTag first.start t), some first.start⟩
  | _ => return ⟨none, none, none⟩

/-- Whether a tag leaves open what the node is. -/
def isOpen (tag : Option String) : Bool := tag.all (· = "!")

def bind (anchor : Option String) (id : Nat) : Compose Unit :=
  match anchor with
  | some name => modify fun d => { d with anchors := (name, id) :: d.anchors }
  | none => pure ()

def finish (node : Node) : Compose Node := do
  modify fun d => { d with finished := (node.id, node) :: d.finished }
  return node

def aliased (mark : Mark) (name : String) : Compose Node := do
  let d ← get
  match d.anchors.find? (·.1 = name) with
  | none => throw (.at mark (.undefinedAlias name))
  | some (_, id) => match d.finished.find? (·.1 = id) with
    | some (_, node) => return node
    | none => return .scalar id Tag.null "" mark

/-- Where a node stands: what may be written there. -/
inductive Place where
  | flow
  | block
  /-- The value or the key of a block mapping, where a sequence needs no indentation. -/
  | entry
  deriving DecidableEq, Repr

mutual

/-- The next node. -/
def node (place : Place) : Nat → Compose Node
  | 0 => emptyNode ⟨0, 0, 0⟩
  | fuel + 1 => do
    let t ← peek
    match t.sign with
    | .reference name =>
      let _ ← take
      aliased t.start name
    | _ =>
      let p ← properties
      let t ← peek
      let start := p.start.getD t.start
      let collection (tag : String) : Compose (Nat × String) := do
        let id ← fresh
        bind p.anchor id
        return (id, if isOpen p.tag then tag else p.tag.getD tag)
      match t.sign with
      | .scalar text style =>
        let _ ← take
        let tag ← if p.tag = some "!" || (p.tag.isNone && style = .plain) then resolved text
          else pure (p.tag.getD Tag.str)
        let id ← fresh
        bind p.anchor id
        finish (.scalar id tag text start)
      | .flowSequenceStart =>
        let (id, tag) ← collection Tag.seq
        let _ ← take
        finish (.sequence id tag (← flowItems true fuel) start)
      | .flowMappingStart =>
        let (id, tag) ← collection Tag.map
        let _ ← take
        finish (.mapping id tag (← flowEntries true fuel) start)
      | sign =>
        if sign = .blockEntry && place = .entry then
          let (id, tag) ← collection Tag.seq
          finish (.sequence id tag (← looseItems fuel) start)
        else if sign = .blockSequenceStart && place != .flow then
          let (id, tag) ← collection Tag.seq
          let _ ← take
          finish (.sequence id tag (← blockItems fuel) start)
        else if sign = .blockMappingStart && place != .flow then
          let (id, tag) ← collection Tag.map
          let _ ← take
          finish (.mapping id tag (← blockEntries fuel) start)
        else if p.start.isSome then
          let tag ← if isOpen p.tag then resolved "" else pure (p.tag.getD Tag.null)
          let id ← fresh
          bind p.anchor id
          finish (.scalar id tag "" start)
        else throw (.at t.start (.expectedContent sign.shown))

/-- A node, or an empty one if one of these tokens comes at once. -/
def nodeUnless (place : Place) (signs : List Sign) (mark : Mark) : Nat → Compose Node
  | 0 => emptyNode mark
  | fuel + 1 => do if ← isAt signs then emptyNode mark else node place fuel

/-- The items of a block sequence up to its end. -/
def blockItems : Nat → Compose (List Node)
  | 0 => return []
  | fuel + 1 => do
    let t ← take
    match t.sign with
    | .blockEntry =>
      let item ← nodeUnless .block [.blockEntry, .blockEnd] t.finish fuel
      return item :: (← blockItems fuel)
    | .blockEnd => return []
    | s => throw (.at t.start (.expectedBlockEnd s.shown))

/-- The items of a sequence that is not indented. -/
def looseItems : Nat → Compose (List Node)
  | 0 => return []
  | fuel + 1 => do
    if !(← isAt [.blockEntry]) then return []
    let t ← take
    let item ← nodeUnless .block [.blockEntry, .key, .value, .blockEnd] t.finish fuel
    return item :: (← looseItems fuel)

def blockEntries : Nat → Compose (List (Node × Node))
  | 0 => return []
  | fuel + 1 => do
    let t ← peek
    match t.sign with
    | .key =>
      let _ ← take
      let key ← nodeUnless .entry [.key, .value, .blockEnd] t.finish fuel
      let value ← blockValue fuel
      return (key, value) :: (← blockEntries fuel)
    | .blockEnd =>
      let _ ← take
      return []
    | s =>
      if s = .value && !(← isOld) then
        let key ← emptyNode t.start
        let value ← blockValue fuel
        return (key, value) :: (← blockEntries fuel)
      else throw (.at t.start (.expectedBlockEnd s.shown))

def blockValue : Nat → Compose Node
  | 0 => emptyNode ⟨0, 0, 0⟩
  | fuel + 1 => do
    let t ← peek
    if t.sign = .value then
      let _ ← take
      nodeUnless .entry [.key, .value, .blockEnd] t.finish fuel
    else emptyNode t.start

/-- The items of a sequence in brackets; a single pair there is a mapping. -/
def flowItems (first : Bool) : Nat → Compose (List Node)
  | 0 => return []
  | fuel + 1 => do
    if !first && !(← isAt [.flowSequenceEnd]) then
      let t ← peek
      if t.sign = .flowEntry then
        let _ ← take
      else throw (.at t.start (.expectedInSequence t.sign.shown))
    let t ← peek
    match t.sign with
    | .flowSequenceEnd =>
      let _ ← take
      return []
    | .key =>
      let id ← fresh
      let _ ← take
      let key ← nodeUnless .flow [.value, .flowEntry, .flowSequenceEnd] t.finish fuel
      let value ← flowValue [.flowEntry, .flowSequenceEnd] fuel
      let pair ← finish (.mapping id Tag.map [(key, value)] t.start)
      return pair :: (← flowItems false fuel)
    | _ =>
      let item ← node .flow fuel
      return item :: (← flowItems false fuel)

def flowValue (ends : List Sign) : Nat → Compose Node
  | 0 => emptyNode ⟨0, 0, 0⟩
  | fuel + 1 => do
    let t ← peek
    if t.sign = .value then
      let _ ← take
      nodeUnless .flow ends t.finish fuel
    else emptyNode t.start

def flowEntries (first : Bool) : Nat → Compose (List (Node × Node))
  | 0 => return []
  | fuel + 1 => do
    if !first && !(← isAt [.flowMappingEnd]) then
      let t ← peek
      if t.sign = .flowEntry then
        let _ ← take
      else throw (.at t.start (.expectedInMapping t.sign.shown))
    let ends := [.flowEntry, .flowMappingEnd]
    let t ← peek
    match t.sign with
    | .flowMappingEnd =>
      let _ ← take
      return []
    | .key =>
      let _ ← take
      let key ← nodeUnless .flow (.value :: ends) t.finish fuel
      let value ← flowValue ends fuel
      return (key, value) :: (← flowEntries false fuel)
    | s =>
      if s = .value && !(← isOld) then
        let key ← emptyNode t.finish
        let value ← flowValue ends fuel
        return (key, value) :: (← flowEntries false fuel)
      else
        let key ← node .flow fuel
        let value ← emptyNode (← peek).start
        return (key, value) :: (← flowEntries false fuel)

end

def defaultHandles : List (String × String) := [("!", "!"), ("!!", Tag.standard "")]

/-- The directives before a document. -/
def directives (hasVersion : Bool) : Nat → Compose Unit
  | 0 => pure ()
  | fuel + 1 => do
    let t ← peek
    match t.sign with
    | .directive d =>
      let _ ← take
      match d with
      | .version major _ =>
        if hasVersion then throw (.at t.start .duplicateVersion)
        if major != 1 then throw (.at t.start .wrongVersion)
        directives true fuel
      | .tag handle replacement =>
        if (← get).handles.any (·.1 = handle) then throw (.at t.start (.duplicateHandle handle))
        modify fun d => { d with handles := (handle, replacement) :: d.handles }
        directives hasVersion fuel
      | .other => directives hasVersion fuel
    | _ => pure ()

def skipEnds : Nat → Compose Unit
  | 0 => pure ()
  | fuel + 1 => do
    if ← isAt [.documentEnd] then
      let _ ← take
      skipEnds fuel

def isDirective : Sign → Bool
  | .directive _ => true
  | _ => false

/-- The head of a document with a separator, and where it is; `none` at the end of the text. -/
def explicitStart (fuel : Nat) : Compose (Option Mark) := do
  skipEnds fuel
  if ← isAt [.streamEnd] then return none
  modify fun d => { d with handles := [] }
  directives false fuel
  modify fun d => { d with handles := d.handles ++ defaultHandles }
  let t ← peek
  if t.sign = .documentStart then
    let _ ← take
    return some t.start
  else throw (.at t.start (.expectedDocument t.sign.shown))

/-- Whether a document begins without a separator. -/
def startsBare : Compose Bool := do
  let s := (← peek).sign
  return !(isDirective s || s = .documentStart || s = .streamEnd)

/-- The contents of a document behind its separator. -/
def contents (fuel : Nat) : Compose Node := do
  let t ← peek
  if isDirective t.sign || [.documentStart, .documentEnd, .streamEnd].contains t.sign then
    emptyNode t.start
  else node .block fuel

/-- The end of a document and whether it is marked. -/
def documentEnd : Compose Bool := do
  if ← isAt [.documentEnd] then
    let t ← take
    let next ← peek
    if next.sign != .streamEnd && t.finish.line = next.start.line then
      throw (.at next.start (.contentAfterEnd next.sign.shown))
    return true
  else return false

/-- Nothing may come after the document. -/
def onlyDocument (fuel : Nat) : Compose Unit := do
  let marked ← documentEnd
  if marked && !(← isOld) && (← startsBare) then throw (.at (← peek).start .anotherDocument)
  match ← explicitStart fuel with
  | some mark => throw (.at mark .anotherDocument)
  | none => pure ()

def document (fuel : Nat) : Compose (Option Node) := do
  if ← startsBare then
    let root ← node .block fuel
    onlyDocument fuel
    return some root
  match ← explicitStart fuel with
  | none => return none
  | some _ =>
    let root ← contents fuel
    onlyDocument fuel
    return some root

end Compose

/-- The only document of a text, the number of its nodes, and the version it declares. -/
def Node.ofText (text : List Char) : Except Fault (Option Node × Nat × Option (Nat × Nat)) := do
  if !text.all isAllowed then throw .unprintable
  let draft : Draft := ⟨.start text, Compose.defaultHandles, [], [], 0⟩
  let (root, draft) ← (Compose.document (4 * text.length + 16)).run draft
  return (root, draft.count, draft.lexer.version)

end Detour.Yaml
