import Detour.Pattern
import Detour.Url

/-!
# Redirect rules

A rule sends the URLs that its pattern holds of to another URL. Rules come from stored mappings
(`Rule.ofState`); a collection is read entry by entry, and a malformed entry is passed over and
reported by its index (`Rule.readAll`). `Rule.select` takes the first enabled rule that matches:
order is the only precedence. A pattern that cannot be used never matches, whether or not the
rule has been validated.
-/
namespace Detour

structure Rule where
  name : String
  kind : MatchKind
  pattern : String
  target : String
  enabled : Bool
  deriving DecidableEq, Repr, Inhabited

namespace Rule

/-- The field of a stored mapping that a part of a rule is kept in. -/
inductive Field where
  | name
  | matchType
  | matchPattern
  | redirectUrl
  | enabled
  deriving DecidableEq, Repr

def Field.key : Field → String
  | name => "name"
  | matchType => "matchType"
  | matchPattern => "matchPattern"
  | redirectUrl => "redirectUrl"
  | enabled => "enabled"

inductive Fault where
  | notMapping (kind : String)
  | missing (field : Field)
  | unknownKind (kind : Value)
  | notText (field : Field)
  | emptyPattern
  | badExpression (pattern : String) (fault : Regex.Fault)
  | unreadableExpression (pattern : String) (fault : Regex.Fault)
  | badTarget (target : String)
  | brokenTarget (fault : Url.Fault)
  deriving Repr, BEq

def Fault.message : Fault → String
  | notMapping kind => "Rule must be a mapping, not " ++ kind
  | missing field => "Rule is missing " ++ Text.quoted field.key
  | unknownKind kind => "Unknown match type: " ++ kind.shown
  | notText field => field.key ++ " must be a string"
  | emptyPattern => "Match pattern must not be empty."
  | badExpression pattern fault =>
    s!"Invalid regular expression {Text.quoted pattern} ({fault.message pattern.toList})"
  | unreadableExpression pattern fault => fault.message pattern.toList
  | badTarget target => "Invalid redirect URL: " ++ Text.quoted target
  | brokenTarget fault => fault.message

def require (field : Field) (entries : List (Value × Value)) : Except Fault Value :=
  match Value.field? field.key entries with
  | some v => .ok v
  | none => .error (.missing field)

def text (field : Field) : Value → Except Fault String
  | .str s => .ok s
  | _ => .error (.notText field)

def ofState : Value → Except Fault Rule
  | .map entries => do
    let name ← require .name entries
    let kind ← require .matchType entries
    let pattern ← require .matchPattern entries
    let target ← require .redirectUrl entries
    match MatchKind.ofValue? kind with
    | none => .error (.unknownKind kind)
    | some kind =>
      let name ← text .name name
      let pattern ← text .matchPattern pattern
      let target ← text .redirectUrl target
      if pattern = "" then .error .emptyPattern
      else
        let enabled := ((Value.field? Field.enabled.key entries).map Value.isTrue).getD false
        return { name, kind, pattern, target, enabled }
  | v => .error (.notMapping v.kind)

def state (r : Rule) : Value :=
  .map [(.str Field.name.key, .str r.name), (.str Field.matchType.key, .str r.kind.name),
    (.str Field.matchPattern.key, .str r.pattern), (.str Field.redirectUrl.key, .str r.target),
    (.str Field.enabled.key, .bool r.enabled)]

/-- An entry that is no rule, by its index. -/
structure Skipped where
  index : Nat
  fault : Fault
  deriving Repr, BEq

def Skipped.message (s : Skipped) : String :=
  s!"Skipping malformed rule #{s.index}: {s.fault.message}"

/-- The rules of a list whose first entry has the given index, and the entries passed over. -/
def readFrom (index : Nat) : List Value → List Rule × List Skipped
  | [] => ([], [])
  | v :: vs =>
    let (rules, skipped) := readFrom (index + 1) vs
    match ofState v with
    | .ok r => (r :: rules, skipped)
    | .error f => (rules, ⟨index, f⟩ :: skipped)

def readAll (vs : List Value) : List Rule × List Skipped := readFrom 0 vs

/-- The entries of a stored collection: an empty or missing one has none, a mapping its keys and a
text its characters. A number has no entries unless it is zero. -/
def entries? : Value → Option (List Value)
  | .list xs | .tuple xs | .set xs => some xs
  | .map es => some (es.map (·.1))
  | .str s => some (s.toList.map fun c => .str (String.singleton c))
  | .bytes bs => some (bs.map fun b => .int b.toNat)
  | v => if v.isTrue then none else some []

def matches? (r : Rule) (url : Option String) : Bool × List Pattern.Notice :=
  let c := Pattern.compileKind r.kind r.pattern
  let (answer, notices) := c.test url
  (answer, c.notices ++ notices)

/-- The first enabled rule that matches, and what was noticed up to it. -/
def select (url : Option String) : List Rule → Option Rule × List Pattern.Notice
  | [] => (none, [])
  | r :: rs =>
    if r.enabled then
      let (answer, notices) := r.matches? url
      if answer then (some r, notices)
      else
        let (found, later) := select url rs
        (found, notices ++ later)
    else select url rs

def checkExpression (r : Rule) : Except Fault Unit :=
  match r.kind with
  | .regex =>
    match Regex.parse {} r.pattern.toList with
    | .ok _ => .ok ()
    | .error f =>
      if f.problem.isGrammatical then .error (.badExpression r.pattern f)
      else .error (.unreadableExpression r.pattern f)
  | _ => .ok ()

/-- The target is an absolute web address. -/
def checkTarget (r : Rule) : Except Fault Unit :=
  match Url.split r.target with
  | .error f => .error (.brokenTarget f)
  | .ok (scheme, authority) =>
    if (scheme = "http" || scheme = "https") && authority != "" then .ok ()
    else .error (.badTarget r.target)

/-- What is checked when a rule is made or changed by hand. -/
def validate (r : Rule) : Except Fault Unit := do
  if r.pattern = "" then throw .emptyPattern
  r.checkExpression
  r.checkTarget

end Rule
end Detour
