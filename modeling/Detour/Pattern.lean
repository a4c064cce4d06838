import Detour.Pattern.Regex.Parser
import Detour.Pattern.Regex.Search
import Detour.Pattern.Wildcard
import Detour.Text.Words
import Detour.Value

/-!
# Patterns over URLs

A pattern is looked for in a URL (`contains`), describes the whole URL (`wildcard`) or is a
regular expression looked for in it (`regex`); letter case is ignored by all three. `compile`
accepts anything as the name of a kind: a pattern that cannot be used becomes a predicate that
holds of no URL, and a notice says why.
-/
namespace Detour

inductive MatchKind where
  | contains
  | wildcard
  | regex
  deriving DecidableEq, Repr, Inhabited

namespace MatchKind

def name : MatchKind → String
  | contains => "contains"
  | wildcard => "wildcard"
  | regex => "regex"

def all : List MatchKind := [contains, wildcard, regex]

def ofName? (s : String) : Option MatchKind := all.find? fun k => k.name = s

def ofValue? : Value → Option MatchKind
  | .str s => ofName? s
  | _ => none

end MatchKind

/-- A test of texts. -/
inductive Matcher where
  | contains (needle : List Char)
  | wildcard (e : Regex.Expr)
  | regex (e : Regex.Expr)
  deriving DecidableEq, Repr

namespace Matcher

def wildcardFlags : Regex.Flags := { ignoreCase := true, dotAll := true }

def regexFlags : Regex.Flags := { ignoreCase := true }

def ofPattern (kind : MatchKind) (pattern : String) : Except Regex.Fault Matcher :=
  match kind with
  | .contains => .ok (.contains (Text.lowerChars pattern.toList))
  | .wildcard =>
    (Regex.parse wildcardFlags (Wildcard.regexText pattern).toList).map .wildcard
  | .regex => (Regex.parse regexFlags pattern.toList).map .regex

/-- The text in which a fault of the pattern has its place. -/
def source (kind : MatchKind) (pattern : String) : List Char :=
  match kind with
  | .wildcard => (Wildcard.regexText pattern).toList
  | _ => pattern.toList

def test : Matcher → String → Bool
  | contains needle, url => Text.isInfix needle (Text.lowerChars url.toList)
  | wildcard e, url => e.matchesAll url.toList
  | regex e, url => e.foundIn url.toList

/-- The complaint about a URL that is missing. -/
def missingUrl : MatchKind → String
  | .contains => "'NoneType' object has no attribute 'lower'"
  | _ => "expected string or bytes-like object, got 'NoneType'"

end Matcher

namespace Pattern

inductive Notice where
  | unknownKind (kind : Value) (pattern : String)
  | invalid (kind : MatchKind) (pattern : String) (fault : Regex.Fault)
  | missingUrl (kind : MatchKind) (pattern : String)
  deriving Repr, BEq

def Notice.message : Notice → String
  | unknownKind kind pattern =>
    s!"Unknown match type {kind.shown} for pattern {Text.quoted pattern}"
  | invalid kind pattern fault =>
    s!"Invalid {kind.name} pattern {Text.quoted pattern}: " ++
      fault.message (Matcher.source kind pattern)
  | missingUrl kind pattern =>
    s!"Cannot evaluate {kind.name} pattern {Text.quoted pattern} against None: " ++
      Matcher.missingUrl kind

/-- A pattern made ready, or the notice of why it holds of nothing. -/
inductive Compiled where
  | ready (kind : MatchKind) (pattern : String) (matcher : Matcher)
  | nothing (why : Notice)

def compileKind (kind : MatchKind) (pattern : String) : Compiled :=
  match Matcher.ofPattern kind pattern with
  | .ok m => .ready kind pattern m
  | .error f => .nothing (.invalid kind pattern f)

def compile (kind : Value) (pattern : String) : Compiled :=
  match MatchKind.ofValue? kind with
  | some k => compileKind k pattern
  | none => .nothing (.unknownKind kind pattern)

namespace Compiled

def isNothing : Compiled → Bool
  | ready .. => false
  | nothing _ => true

/-- What is noticed when the pattern is compiled. -/
def notices : Compiled → List Notice
  | ready .. => []
  | nothing why => [why]

/-- Whether the pattern holds of a URL, which may be missing, and what is noticed on the way. -/
def test : Compiled → Option String → Bool × List Notice
  | ready _ _ m, some url => (m.test url, [])
  | ready kind pattern _, none => (false, [.missingUrl kind pattern])
  | nothing _, _ => (false, [])

end Compiled
end Pattern
end Detour
