import Detour.Value

/-!
# Types of settings

A setting has one of a few plain types, a union of them, or any value. A flag is no whole number
here, although it counts as one elsewhere. Two ways of writing a union denote the same type
(`TypeSpec.same`).
-/
namespace Detour

inductive PlainType where
  | bool
  | int
  | str
  | float
  | list
  | none
  deriving DecidableEq, Repr, Inhabited

namespace PlainType

def name : PlainType → String
  | bool => "bool"
  | int => "int"
  | str => "str"
  | float => "float"
  | list => "list"
  | none => "NoneType"

def holds : PlainType → Value → Bool
  | bool, .bool _ | int, .int _ | str, .str _ | float, .float _ | list, .list _ | none, .null => true
  | _, _ => false

/-- The name as a member of a union. -/
def short : PlainType → String
  | none => "None"
  | t => t.name

end PlainType

/-- How a union is written: with its name, or with bars between its members. -/
inductive UnionForm where
  | named
  | bars
  deriving DecidableEq, Repr

inductive TypeSpec where
  | any
  | plain (t : PlainType)
  | union (form : UnionForm) (members : List PlainType)
  deriving DecidableEq, Repr, Inhabited

namespace TypeSpec

abbrev bool : TypeSpec := .plain .bool

abbrev int : TypeSpec := .plain .int

abbrev str : TypeSpec := .plain .str

abbrev optionalInt : TypeSpec := .union .named [.int, .none]

abbrev optionalStr : TypeSpec := .union .named [.str, .none]

def holds : TypeSpec → Value → Bool
  | any, _ => true
  | plain t, v => t.holds v
  | union _ ts, v => ts.any (·.holds v)

/-- The same type, however it is written. -/
def same : TypeSpec → TypeSpec → Bool
  | any, any => true
  | plain s, plain t => s = t
  | union _ ss, union _ ts => ss.all ts.contains && ts.all ss.contains
  | _, _ => false

def shown : TypeSpec → String
  | any => "typing.Any"
  | plain t => "<class '" ++ t.name ++ "'>"
  | union .bars ts => " | ".intercalate (ts.map PlainType.short)
  | union .named [t, .none] => "typing.Optional[" ++ t.name ++ "]"
  | union .named ts => "typing.Union[" ++ ", ".intercalate (ts.map PlainType.name) ++ "]"

/-- The types that a setting can be given on the command line in. -/
inductive Entry where
  | flag
  | text (optional : Bool)
  | whole (optional : Bool)
  deriving DecidableEq, Repr

def entry? (t : TypeSpec) : Option Entry :=
  if t.same bool then some .flag
  else if t.same str then some (.text false)
  else if t.same optionalStr then some (.text true)
  else if t.same int then some (.whole false)
  else if t.same optionalInt then some (.whole true)
  else none

/-- The type in the words of a help text. -/
def described? (t : TypeSpec) : Option String :=
  t.entry?.map fun
    | .flag => "bool"
    | .text false => "str"
    | .text true => "optional str"
    | .whole false => "int"
    | .whole true => "optional int"

end TypeSpec
end Detour
