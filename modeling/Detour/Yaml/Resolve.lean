import Detour.Yaml.Fault
import Detour.Yaml.Timestamp

/-!
# What a plain text stands for

A plain text without a tag is a number, a truth value, a date or nothing at all if it looks like
one, and a text otherwise. Version 1.1 has more spellings of truth values, and numbers to the base
sixty.
-/
namespace Detour.Yaml
open Text

namespace Tag

/-- The full name of a tag of the standard schema. -/
def standard (name : String) : String := "tag:yaml.org,2002:" ++ name

def null : String := standard "null"
def bool : String := standard "bool"
def int : String := standard "int"
def float : String := standard "float"
def timestamp : String := standard "timestamp"
def merge : String := standard "merge"
def value : String := standard "value"
def str : String := standard "str"
def seq : String := standard "seq"
def map : String := standard "map"
def binary : String := standard "binary"
def omap : String := standard "omap"
def pairs : String := standard "pairs"
def set : String := standard "set"

end Tag

def isDigitOrJoin (c : Char) : Bool := isAsciiDigit c || c = '_'

def isOctalOrJoin (c : Char) : Bool := isOctalDigit c || c = '_'

def nonemptyAll (p : Char → Bool) (cs : List Char) : Bool := !cs.isEmpty && cs.all p

def dropSign : List Char → List Char
  | '+' :: cs => cs
  | '-' :: cs => cs
  | cs => cs

/-- An exponent that ends a number, or nothing; the sign of the exponent may be required. -/
def endsNumber (signed : Bool) : List Char → Bool
  | [] => true
  | c :: rest =>
    (c = 'e' || c = 'E') && nonemptyAll isAsciiDigit (dropSign rest) &&
      (!signed || (rest.head? == some '+' || rest.head? == some '-'))

def startsNumber (cs : List Char) : Bool :=
  match cs with
  | c :: _ => c = '-' || c = '+' || isAsciiDigit c
  | [] => false

def isSpecialFloat (cs : List Char) : Bool :=
  ["inf", "Inf", "INF"].any (fun s => dropSign cs = '.' :: s.toList) ||
    ["nan", "NaN", "NAN"].any (fun s => cs = '.' :: s.toList)

/-- Digit groups after a colon, each below sixty. -/
def isSixties : Nat → List Char → Bool
  | 0, _ => false
  | _ + 1, [] => true
  | fuel + 1, ':' :: a :: b :: rest =>
    if '0' ≤ a && a ≤ '5' && isAsciiDigit b then isSixties fuel rest
    else isAsciiDigit a && isSixties fuel (b :: rest)
  | _ + 1, [':', a] => isAsciiDigit a
  | _ + 1, _ => false

/-- A number to the base sixty: digits, then groups. -/
def isSexagesimal (cs : List Char) : Bool :=
  let rest := cs.dropWhile isDigitOrJoin
  rest.head? == some ':' && isSixties (rest.length + 1) rest

def isFloat (old : Bool) (cs : List Char) : Bool :=
  let body := dropSign cs
  let pointed (digits : List Char) (rest : List Char) : Bool :=
    match digits.head?, rest with
    | some d, '.' :: rest => isAsciiDigit d && endsNumber false (rest.dropWhile isDigitOrJoin)
    | some d, rest => isAsciiDigit d && !rest.isEmpty && endsNumber false rest
    | none, '.' :: rest =>
      !(rest.takeWhile isDigitOrJoin).isEmpty && endsNumber true (rest.dropWhile isDigitOrJoin) &&
        (!old || body == cs)
    | none, _ => false
  let startsRight := startsNumber cs || cs.head? == some '.'
  let sixty :=
    let whole := body.takeWhile (· != '.')
    old && (body.head?.map isAsciiDigit).getD false && isSexagesimal whole &&
      (match body.dropWhile (· != '.') with
        | '.' :: rest => rest.all isDigitOrJoin
        | _ => false)
  startsRight &&
    (pointed (body.takeWhile isDigitOrJoin) (body.dropWhile isDigitOrJoin) || isSpecialFloat cs || sixty)

def isInt (old : Bool) (cs : List Char) : Bool :=
  let body := dropSign cs
  startsNumber cs && match body with
    | '0' :: 'b' :: rest => nonemptyAll (fun c => c = '0' || c = '1' || c = '_') rest
    | '0' :: 'x' :: rest => nonemptyAll (fun c => isHexDigit c || c = '_') rest
    | '0' :: 'o' :: rest => !old && nonemptyAll isOctalOrJoin rest
    | _ =>
      if old then
        nonemptyAll isOctalOrJoin body ||
          match body with
          | c :: _ =>
            '1' ≤ c && c ≤ '9' && (body.all isDigitOrJoin || isSexagesimal body)
          | [] => false
      else nonemptyAll isDigitOrJoin body

def isTruth (old : Bool) (s : String) : Bool :=
  ["true", "True", "TRUE", "false", "False", "FALSE"].contains s ||
    (old && ["y", "Y", "yes", "Yes", "YES", "n", "N", "no", "No", "NO", "on", "On", "ON", "off", "Off",
      "OFF"].contains s)

def isTimestamp (cs : List Char) : Bool :=
  match Stamp.ofText? cs with
  | some s => s.time.isSome || s.padded
  | none => false

/-- A line feed at the very end does not count. -/
def withoutLastBreak (cs : List Char) : List Char :=
  if cs.getLast? = some '\n' then cs.dropLast else cs

/-- The tag of a plain text. -/
def implicitTag (old : Bool) (text : String) : String :=
  let cs := withoutLastBreak text.toList
  let s := String.ofList cs
  if isTruth old s then Tag.bool
  else if isFloat old cs then Tag.float
  else if isInt old cs then Tag.int
  else if s = "<<" then Tag.merge
  else if ["~", "null", "Null", "NULL"].contains s || text.isEmpty then Tag.null
  else if isTimestamp cs then Tag.timestamp
  else if s = "=" then Tag.value
  else Tag.str

/-- The tag of a plain text in a document of this version; only two versions have rules. -/
def resolve (version : Option (Nat × Nat)) (text : String) : Except Fault String :=
  match version with
  | none => .ok (implicitTag false text)
  | some (1, 2) => .ok (implicitTag false text)
  | some (1, 1) => .ok (implicitTag true text)
  | some (major, minor) => .error (.scalar "KeyError" s!"({major}, {minor})")

end Detour.Yaml
