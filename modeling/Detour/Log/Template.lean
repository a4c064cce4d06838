import Detour.Decimal.Places
import Detour.Text.Case
import Detour.Value

/-!
# Message templates

A template holds places marked by percent signs, each with flags, a width, a precision and a
letter that says how its argument is written. Arguments are taken in order, or by name from a
mapping.
-/
namespace Detour.Template

inductive Fault where
  | tooFew
  | tooMany
  | incomplete
  | incompleteKey
  | needsMapping
  | noKey (key : String)
  | starNotNumber
  | unknownLetter (c : Char) (index : Nat)
  | needsNumber (letter : Char) (kind : String)
  | needsWhole (letter : Char) (kind : String)
  | needsReal (kind : String)
  | needsChar
  | charRange
  | notFinite (x : String)
  deriving DecidableEq, Repr

namespace Fault

def kind : Fault → String
  | incomplete | incompleteKey | unknownLetter .. => "ValueError"
  | noKey _ => "KeyError"
  | charRange | notFinite "infinity" => "OverflowError"
  | notFinite _ => "ValueError"
  | _ => "TypeError"

def message : Fault → String
  | tooFew => "not enough arguments for format string"
  | tooMany => "not all arguments converted during string formatting"
  | incomplete => "incomplete format"
  | incompleteKey => "incomplete format key"
  | needsMapping => "format requires a mapping"
  | noKey key => key
  | starNotNumber => "* wants int"
  | unknownLetter c index =>
    let seen := if Text.isAscii c && Text.isPrintable c then c else '?'
    let code := String.ofList (Nat.toDigits 16 c.toNat)
    s!"unsupported format character '{seen}' (0x{code}) at index {index}"
  | needsNumber letter kind => s!"%{letter} format: a real number is required, not {kind}"
  | needsWhole letter kind => s!"%{letter} format: an integer is required, not {kind}"
  | needsReal kind => "must be real number, not " ++ kind
  | needsChar => "%c requires int or char"
  | charRange => "%c arg not in range(0x110000)"
  | notFinite x => s!"cannot convert float {x} to integer"

end Fault

/-- What a template is filled with. -/
inductive Arguments where
  | inOrder (vs : List Value)
  | named (entries : List (Value × Value))

structure Flags where
  left : Bool := false
  sign : Bool := false
  blank : Bool := false
  alternate : Bool := false
  zero : Bool := false

def Flags.add? (f : Flags) : Char → Option Flags
  | '-' => some { f with left := true }
  | '+' => some { f with sign := true }
  | ' ' => some { f with blank := true }
  | '#' => some { f with alternate := true }
  | '0' => some { f with zero := true }
  | _ => none

def flags (f : Flags) : List Char → Flags × List Char
  | [] => (f, [])
  | c :: cs =>
    match f.add? c with
    | some f => flags f cs
    | none => (f, c :: cs)

/-- A width or a precision: digits, or a star that takes the next argument. -/
def size (args : List Value) (cs : List Char) :
    Except Fault (Option Int × List Value × List Char) :=
  match cs with
  | '*' :: cs =>
    match args with
    | [] => .error .tooFew
    | v :: args =>
      match v.toInt? with
      | some n => .ok (some n, args, cs)
      | none => .error .starNotNumber
  | cs =>
    let ds := cs.takeWhile Text.isAsciiDigit
    if ds.isEmpty then .ok (none, args, cs)
    else .ok (some (ds.foldl (fun n d => 10 * n + (d.toNat - 48)) 0 : Nat), args, cs.drop ds.length)

def pad (f : Flags) (width : Nat) (sign body : String) (numeric : Bool) : String :=
  let room := width - sign.length - body.length
  let filler (c : Char) := String.ofList (List.replicate room c)
  if f.left then sign ++ body ++ filler ' '
  else if f.zero && numeric then sign ++ filler '0' ++ body
  else filler ' ' ++ sign ++ body

def signText (f : Flags) (negative : Bool) : String :=
  if negative then "-" else if f.sign then "+" else if f.blank then " " else ""

/-- The text in ASCII, other characters escaped. -/
def asciiOnly (s : String) : String :=
  String.ofList (s.toList.flatMap fun c => if Text.isAscii c then [c] else Text.escapeCode c.toNat)

def wholeOf (letter : Char) (v : Value) : Except Fault Int :=
  match v with
  | .float .nan => .error (.notFinite "NaN")
  | .float (.infinite _) => .error (.notFinite "infinity")
  | .float x => .ok ((x.toRat?.getD 0).num.tdiv ((x.toRat?.getD 0).den : Int))
  | v => match v.toInt? with
    | some n => .ok n
    | none => .error (.needsNumber letter v.kind)

def upper (s : String) : String := s.map Text.asciiUpper

def wholeText (f : Flags) (width : Nat) (precision : Option Nat) (letter : Char) (n : Int) : String :=
  let base := if letter = 'o' then 8 else if letter = 'x' || letter = 'X' then 16 else 10
  let ds := Nat.toDigits base n.natAbs
  let ds := List.replicate (precision.getD 0 - ds.length) '0' ++ ds
  let mark := if f.alternate then
      if letter = 'o' then "0o" else if base = 16 then "0x" else "" else ""
  let body := String.ofList ds
  let (mark, body) := if letter = 'X' then (upper mark, upper body) else (mark, body)
  pad f width (signText f (n < 0) ++ mark) body true

def realText (f : Flags) (width : Nat) (precision : Option Nat) (letter : Char) (x : Binary64) : String :=
  let places := precision.getD 6
  let lower := Text.asciiLower letter
  let body :=
    match x.toRat? with
    | none => if x = .nan then "nan" else "inf"
    | some q =>
      let q := if q < 0 then -q else q
      if lower = 'f' then Places.fixed places q
      else if lower = 'e' then Places.scientific places q
      else Places.general places f.alternate q
  let body := if letter != lower then upper body else body
  pad f width (signText f x.isNegative) body true

/-- One argument written as its letter says. -/
def write (f : Flags) (width : Nat) (precision : Option Nat) (letter : Char) (index : Nat) (v : Value) :
    Except Fault String :=
  let text (s : String) : String :=
    pad f width "" (match precision with | some n => String.ofList (s.toList.take n) | none => s) false
  match letter with
  | 's' => .ok (text v.display)
  | 'r' => .ok (text v.shown)
  | 'a' => .ok (text (asciiOnly v.shown))
  | 'd' | 'i' | 'u' => (wholeOf 'd' v).map (wholeText f width precision 'd')
  | 'o' | 'x' | 'X' =>
    match v.toInt? with
    | some n => .ok (wholeText f width precision letter n)
    | none => .error (.needsWhole letter v.kind)
  | 'e' | 'E' | 'f' | 'F' | 'g' | 'G' =>
    match v with
    | .float x => .ok (realText f width precision letter x)
    | v => match v.toInt? with
      | some n => .ok (realText f width precision letter (Binary64.ofInt n))
      | none => .error (.needsReal v.kind)
  | 'c' =>
    match v with
    | .str s => if s.length = 1 then .ok (pad f width "" s false) else .error .needsChar
    | v => match v.toInt? with
      | some n =>
        if 0 ≤ n && n < 0x110000 then .ok (pad f width "" (String.singleton (Char.ofNat n.toNat)) false)
        else .error .charRange
      | none => .error .needsChar
  | c => .error (.unknownLetter c index)

/-- The name of an argument up to the bracket that closes it. -/
def keyBody : Nat → List Char → Except Fault (List Char × List Char)
  | _, [] => .error .incompleteKey
  | depth, c :: cs =>
    if c = ')' && depth = 0 then .ok ([], cs)
    else
      let depth := if c = '(' then depth + 1 else if c = ')' then depth - 1 else depth
      (keyBody depth cs).map fun (key, rest) => (c :: key, rest)

/-- Fill the places of a template of `total` characters. -/
def fill (total : Nat) (named : Option (List (Value × Value))) :
    Nat → List Value → List Char → Except Fault String
  | 0, _, _ => .error .incomplete
  | _ + 1, args, [] => if named.isNone && !args.isEmpty then .error .tooMany else .ok ""
  | fuel + 1, args, '%' :: cs => do
    let (args, cs) ← match cs with
      | '(' :: cs =>
        match named with
        | none => throw .needsMapping
        | some entries => do
          let (key, cs) ← keyBody 0 cs
          match Value.field? (String.ofList key) entries with
          | some v => pure ([v], cs)
          | none => throw (.noKey (String.ofList key))
      | cs => pure (args, cs)
    let (f, cs) := flags {} cs
    let (width, args, cs) ← size args cs
    let f := if width.any (· < 0) then { f with left := true } else f
    let (precision, args, cs) ← match cs with
      | '.' :: cs => do
        let (p, args, cs) ← size args cs
        pure (some (p.getD 0).toNat, args, cs)
      | cs => pure (none, args, cs)
    let cs := match cs with
      | c :: rest => if c = 'h' || c = 'l' || c = 'L' then rest else cs
      | [] => cs
    match cs with
    | [] => throw .incomplete
    | '%' :: rest => return "%" ++ (← fill total named fuel args rest)
    | letter :: rest =>
      match args with
      | [] => throw .tooFew
      | v :: args =>
        let piece ← write f (width.getD 0).natAbs precision letter (total - cs.length) v
        return piece ++ (← fill total named fuel args rest)
  | fuel + 1, args, c :: cs => (fill total named fuel args cs).map fun s => String.singleton c ++ s

def format (template : String) (args : Arguments) : Except Fault String :=
  let cs := template.toList
  match args with
  | .inOrder vs => fill cs.length none (cs.length + 1) vs cs
  | .named entries => fill cs.length (some entries) (cs.length + 1) [.map entries] cs

end Detour.Template
