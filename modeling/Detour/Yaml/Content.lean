import Detour.Decimal.Numeral
import Detour.Decimal.Shortest
import Detour.Text.Base64
import Detour.Text.Case
import Detour.Text.Words
import Detour.Yaml.Node
import Detour.Yaml.Shared

/-!
# What the nodes of a document hold

Collections are made empty first and filled later, the outer ones before the inner ones, so a fault
near the root comes before one further down. Keys are the exception: a key is made with all its
contents at once. A merge key puts the entries of other mappings before those of its own.
-/
namespace Detour.Yaml

/-- A value, or the number of the node whose contents it is. -/
inductive Ref where
  | value (v : Value)
  | object (id : Nat)
  | tuple (items : List Ref)
  deriving Repr, Inhabited

inductive Cell where
  | absent
  | scalar (v : Value)
  | stamp (v : Value)
  | list (items : List Ref)
  | map (entries : List (Ref × Ref))
  | ordered (entries : List (Ref × Ref))
  | set (items : List Ref)
  deriving Repr, Inhabited

structure Contents where
  cells : Array Cell
  /-- The collections still to be filled. -/
  pending : List Node
  version : Option (Nat × Nat)

abbrev Fill := StateT Contents (Except Fault)

namespace Contents

def cell (c : Contents) (id : Nat) : Cell := c.cells.getD id .absent

def put (id : Nat) (cell : Cell) : Fill Unit := modify fun c =>
  { c with cells := c.cells.setIfInBounds id cell }

/-- What a reference stands for at this moment; `trail` holds the collections around it. -/
def shared (c : Contents) : Nat → List Nat → Ref → Shared
  | _, _, .value v => .plain v
  | 0, _, _ => .plain .null
  | fuel + 1, trail, .tuple xs => .tuple (xs.map (shared c fuel trail))
  | fuel + 1, trail, .object id =>
    if trail.contains id then .plain .null
    else
      let part := shared c fuel (id :: trail)
      let entry (e : Ref × Ref) := (part e.1, part e.2)
      match c.cell id with
      | .absent => .plain .null
      | .scalar v => .plain v
      | .stamp v => .stamp id v
      | .list xs => .list id (xs.map part)
      | .map es => .map id (es.map entry)
      | .ordered es => .ordered id (es.map entry)
      | .set xs => .set id (xs.map part)

/-- More than the longest way from a collection to a part of it. -/
def reach (c : Contents) : Nat := 2 * c.cells.size + 2

def toShared (c : Contents) (r : Ref) : Shared := shared c c.reach [] r

def toValue (c : Contents) (r : Ref) : Value := (c.toShared r).value

def display (c : Contents) (r : Ref) : String :=
  match r with
  | .object id => match c.cell id with
    | .ordered [] => "ordereddict()"
    | _ => (c.toValue r).display
  | _ => (c.toValue r).display

def bad {α : Type} (family message : String) : Fill α := throw (.scalar family message)

def noChars {α : Type} : Fill α := bad "IndexError" "string index out of range"

def negate (negative : Bool) (n : Int) : Int := if negative then -n else n

/-- A sign at the beginning, and what follows it. -/
def splitSign : List Char → Bool × List Char
  | '-' :: cs => (true, cs)
  | '+' :: cs => (false, cs)
  | cs => (false, cs)

def invalidInt {α : Type} (base : Nat) (cs : List Char) : Fill α :=
  bad "ValueError"
    (s!"invalid literal for int() with base {base}: " ++ Text.quoted (String.ofList cs))

def wholeIn (base : Nat) (cs : List Char) : Fill Int :=
  match Whole.readBase? base cs with
  | some n => return n
  | none => invalidInt base cs

def decimal (cs : List Char) : Fill Int :=
  match Whole.readInt (String.ofList cs) with
  | .ok n => return n
  | .error .malformed => invalidInt 10 cs
  | .error (.tooLong n) => bad "ValueError" (NumeralFault.tooLongMessage n)

def isOld : Fill Bool := return (← get).version == some (1, 1)

/-- Digit groups to the base sixty. -/
def sixties (groups : List Int) : Int := groups.foldl (fun n g => 60 * n + g) 0

/-- A whole number with the marks of its base; joining underscores do not count. -/
def int (text : String) : Fill Int := do
  let cs := text.toList.filter (· != '_')
  if cs.isEmpty then noChars
  let (negative, body) := splitSign cs
  let old ← isOld
  let n ← match body with
    | ['0'] => pure 0
    | '0' :: 'b' :: ds => wholeIn 2 ds
    | '0' :: 'x' :: ds => wholeIn 16 ds
    | '0' :: 'o' :: ds => wholeIn 8 ds
    | [] => if old then noChars else decimal body
    | c :: _ =>
      if old && c = '0' then wholeIn 8 body
      else if old && body.contains ':' then
        return negate negative (sixties (← (Text.pieces (· = ':') body).mapM decimal))
      else decimal body
  return negate negative n

def real (cs : List Char) : Fill Binary64 :=
  match Binary64.read? cs with
  | some x => return x
  | none => bad "ValueError" ("could not convert string to float: " ++ Text.quoted (String.ofList cs))

/-- The sum of digit groups to the base sixty, the last first, rounded at each step. -/
def realSixties (base : Nat) (sum : Binary64) : List Binary64 → Binary64
  | [] => sum
  | x :: xs =>
    let product := ((x.toRat?.map fun r => Binary64.ofRat (r * base)).getD x)
    let sum := match sum.toRat?, product.toRat? with
      | some a, some b => Binary64.ofRat (a + b)
      | _, _ => product
    realSixties (60 * base) sum xs

def float (text : String) : Fill Binary64 := do
  let cs := Text.lowerChars (text.toList.filter (· != '_'))
  if cs.isEmpty then noChars
  let (negative, body) := splitSign cs
  let signed (x : Binary64) : Binary64 := if negative then x.neg else x
  if body = ".inf".toList then return .infinite negative
  else if body = ".nan".toList then return .nan
  else if (← isOld) && body.contains ':' then
    let groups ← (Text.pieces (· = ':') body).mapM real
    return signed (realSixties 1 (.finite false 0 Binary64.minExponent) groups.reverse)
  else return signed (← real body)

def bool (text : String) : Fill Bool :=
  let word := Text.lower text
  if ["yes", "y", "true", "on"].contains word then return true
  else if ["no", "n", "false", "off"].contains word then return false
  else bad "KeyError" word

/-- What characters beyond ASCII are called in a message. -/
def nonAsciiMessage (cs : List Char) : Option String :=
  let before := cs.takeWhile Text.isAscii
  let others := (cs.drop before.length).takeWhile (!Text.isAscii ·)
  match others with
  | [] => none
  | [c] =>
    let shown := String.ofList (Text.escapeCode c.toNat)
    some s!"'ascii' codec can't encode character '{shown}' in position {before.length}: ordinal not in range(128)"
  | _ =>
    let last := before.length + others.length - 1
    some s!"'ascii' codec can't encode characters in position {before.length}-{last}: ordinal not in range(128)"

def binary (start : Mark) (text : String) : Fill (List UInt8) :=
  match nonAsciiMessage text.toList with
  | some message => throw (.at start (.notAsciiData message))
  | none => match Text.Base64.decode text.toList with
    | .ok bytes => return bytes
    | .error f => throw (.at start (.badData f.message))

def timestamp (start : Mark) (text : String) : Fill Value :=
  match Stamp.ofText? (withoutLastBreak text.toList) with
  | none => throw (.at start (.badTimestamp text))
  | some s => match s.value with
    | .ok v => return v
    | .error message => bad "ValueError" message

/-- The text of a scalar; a mapping with a value key stands for the text of that. -/
def textOf : Nat → Node → Fill String
  | _, .scalar _ _ text _ => return text
  | fuel + 1, .mapping _ _ entries start =>
    match entries.find? fun e => e.1.tag = Tag.value with
    | some (_, v) => textOf fuel v
    | none => throw (.at start (.expectedNode "scalar" "mapping"))
  | _, n => throw (.at n.start (.expectedNode "scalar" n.kind))

/-- The entries of a mapping without its merge keys, and the entries they bring, if any. -/
structure Merged where
  merge : List (Node × Node)
  own : List (Node × Node)

/-- All entries, the merged ones first. -/
def Merged.all (m : Merged) : List (Node × Node) := m.merge ++ m.own

/-- What a merge key brings from the node behind it. -/
def mergeSource (merged : List (Node × Node) → Fill Merged) (v : Node) : Fill (List (Node × Node)) := do
  match v with
  | .mapping _ _ entries _ => return (← merged entries).all
  | .sequence _ _ items _ =>
    let parts ← items.mapM fun n => match n with
      | .mapping _ _ entries _ => Merged.all <$> merged entries
      | _ => throw (.at n.start (.notMergeableItem n.kind))
    return parts.reverse.flatten
  | _ => throw (.at v.start (.notMergeable v.kind))

def keyText : Node → String
  | .scalar _ _ text _ => text
  | _ => ""

/-- A value key read as a text. -/
def plainKey : Node → Node
  | .scalar id tag text start => .scalar id (if tag = Tag.value then Tag.str else tag) text start
  | n => n

def merged : Nat → List (Node × Node) → Fill Merged
  | 0, entries => return ⟨[], entries⟩
  | fuel + 1, entries =>
    entries.foldlM (fun (m : Merged) (k, v) => do
      if k.tag = Tag.merge then
        if !m.merge.isEmpty then throw (.at k.start (.duplicateMerge (keyText k)))
        return { m with merge := ← mergeSource (merged fuel) v }
      else return { m with own := m.own ++ [(plainKey k, v)] }) ⟨[], []⟩

def entriesOf (n : Node) : Fill Merged := do
  match n with
  | .mapping _ _ entries _ => merged (← get).reach entries
  | _ => throw (.at n.start (.expectedNode "mapping" n.kind))

/-- What keeps an item of a key from being compared. -/
def unhashable? (c : Contents) : Nat → Ref → Option String
  | 0, _ => none
  | _, .value _ => none
  | fuel + 1, .tuple xs => xs.findSome? (unhashable? c fuel)
  | _, .object id => match c.cell id with
    | .list _ => some "list"
    | .map _ => some "dict"
    | .ordered _ => some "ordereddict"
    | .set _ => some "set"
    | _ => none

/-- A key for use: a list as a key is a tuple; mappings and sets are refused. -/
def keyOf (start : Mark) (r : Ref) : Fill Ref := do
  match r with
  | .object id => match (← get).cell id with
    | .list xs => return .tuple xs
    | .map _ => throw (.at start .unhashableKey)
    | .ordered _ => throw (.at start .unhashableKey)
    | .set _ => throw (.at start .unhashableKey)
    | _ => return r
  | _ => return r

def ensureComparable (r : Ref) : Fill Unit := do
  let c ← get
  match unhashable? c c.reach r with
  | some kind => bad "TypeError" s!"unhashable type: '{kind}'"
  | none => pure ()

def valueOf? (c : Contents) (key : Ref) (entries : List (Ref × Ref)) : Option Ref :=
  let k := c.toValue key
  (entries.find? fun e => (c.toValue e.1).same k).map (·.2)

/-- Replace the value of an equal key, or append the entry. -/
def insertEntry (c : Contents) (key value : Ref) : List (Ref × Ref) → List (Ref × Ref)
  | [] => [(key, value)]
  | (k, v) :: rest =>
    if (c.toValue k).same (c.toValue key) then (k, value) :: rest
    else (k, v) :: insertEntry c key value rest

inductive Form where
  | list
  | map
  | ordered
  | pairs
  | set

def formOf? (tag : String) : Option Form :=
  if tag = Tag.seq then some .list
  else if tag = Tag.map then some .map
  else if tag = Tag.omap then some .ordered
  else if tag = Tag.pairs then some .pairs
  else if tag = Tag.set then some .set
  else none

def Form.empty : Form → Cell
  | list | pairs => .list []
  | map => .map []
  | ordered => .ordered []
  | set => .set []

/-- The value of a node that is no collection. -/
def scalarCell (n : Node) : Fill Cell := do
  let text := textOf (← get).reach n
  let tag := n.tag
  if tag = Tag.null then
    let _ ← text
    return .scalar .null
  else if tag = Tag.bool then return .scalar (.bool (← bool (← text)))
  else if tag = Tag.int then return .scalar (.int (← int (← text)))
  else if tag = Tag.float then return .scalar (.float (← float (← text)))
  else if tag = Tag.binary then return .scalar (.bytes (← binary n.start (← text)))
  else if tag = Tag.timestamp then
    match n with
    | .scalar _ _ text start => return .stamp (← timestamp start text)
    | _ => throw (.at n.start (.badTimestamp ""))
  else if tag = Tag.str then return .scalar (.str (← text))
  else throw (.at n.start (.noConstructor tag))

/-- Add the entries of a mapping, the keys made at once. -/
def addEntries (make : Bool → Node → Fill Ref) (deep checks : Bool) (entries : List (Node × Node))
    (done : List (Ref × Ref)) : Fill (List (Ref × Ref)) :=
  entries.foldlM (fun done (k, v) => do
    let key ← keyOf k.start (← make true k)
    let value ← make deep v
    ensureComparable key
    let c ← get
    match checks, valueOf? c key done with
    | true, some original =>
      throw (.at k.start (.duplicateKey (c.display key) (c.display value) (c.display original)))
    | _, _ => return insertEntry c key value done) done

/-- The entries of a mapping. A repeated key is a fault unless there are merged entries. -/
def makeEntries (make : Bool → Node → Fill Ref) (deep : Bool) (n : Node) : Fill (List (Ref × Ref)) := do
  let m ← entriesOf n
  if m.merge.isEmpty then addEntries make deep true m.own []
  else
    let first ← addEntries make deep false m.merge []
    let second ← addEntries make deep false m.all []
    let c ← get
    return second.foldl (fun es e => insertEntry c e.1 e.2 es) first

/-- The only entry of a mapping that stands for a pair. -/
def makePair (make : Bool → Node → Fill Ref) (deep : Bool) (n : Node) : Fill (Ref × Ref) := do
  match n with
  | .mapping _ _ [(k, v)] _ =>
    let key ← make deep k
    let value ← make deep v
    return (key, value)
  | .mapping _ _ entries start => throw (.at start (.notSingle entries.length))
  | _ => throw (.at n.start (.notPair n.kind))

def makeOrdered (make : Bool → Node → Fill Ref) (deep : Bool) (items : List Node) :
    Fill (List (Ref × Ref)) :=
  items.foldlM (fun done n => do
    let (k, v) ← makePair make deep n
    ensureComparable k
    let c ← get
    if (valueOf? c k done).isSome then bad "AssertionError" ""
    return insertEntry c k v done) []

/-- The items of a sequence; anything else is refused. -/
def itemsOf (n : Node) (refused : String → Problem) : Fill (List Node) :=
  match n with
  | .sequence _ _ items _ => return items
  | _ => throw (.at n.start (refused n.kind))

/-- Fill a collection, its parts made by `make`. -/
def fill (make : Bool → Node → Fill Ref) (deep : Bool) (form : Form) (n : Node) : Fill Unit := do
  let cell ← match form with
    | .list => .list <$> (← itemsOf n (.expectedNode "sequence")).mapM (make deep)
    | .map => .map <$> makeEntries make deep n
    | .set => (fun es => .set (es.map (·.1))) <$> makeEntries make deep n
    | .ordered => .ordered <$> makeOrdered make deep (← itemsOf n .notSequence)
    | .pairs => do
      let es ← (← itemsOf n .notSequence).mapM (makePair make deep)
      pure (.list (es.map fun e => .tuple [e.1, e.2]))
  put n.id cell

/-- Make a node, empty if it is a collection; with `deep` it is filled at once. -/
def make : Nat → Bool → Node → Fill Ref
  | 0, _, _ => return .value .null
  | fuel + 1, deep, n => do
    if let .absent := (← get).cell n.id then
      match formOf? n.tag with
      | some form =>
        put n.id form.empty
        if deep then fill (fun d m => make fuel (deep || d) m) true form n
        else modify fun c => { c with pending := c.pending ++ [n] }
      | none => put n.id (← scalarCell n)
    return .object n.id

/-- Fill the collections that wait, and those that come up meanwhile. -/
def fillAll : Nat → Fill Unit
  | 0 => pure ()
  | fuel + 1 => do
    match (← get).pending with
    | [] => pure ()
    | n :: rest =>
      modify fun c => { c with pending := rest }
      let depth := (← get).reach
      match formOf? n.tag with
      | some form => fill (make depth) false form n
      | none => pure ()
      fillAll fuel

end Contents

/-- What the only document of a text holds; nothing for an empty text. -/
def readShared (text : String) : Except Fault Shared := do
  let (root, count, version) ← Node.ofText text.toList
  match root with
  | none => return .plain .null
  | some root =>
    let start : Contents := ⟨Array.replicate count .absent, [], version⟩
    let build : Fill Ref := do
      let r ← Contents.make (2 * count + 2) false root
      Contents.fillAll (count + 1)
      return r
    let (r, c) ← build.run start
    return c.toShared r

end Detour.Yaml
