import Detour.Decimal.Whole
import Detour.Value

/-!
# Reading JSON

`Json.read` turns a text into a value or into the first fault with its place. Beyond the format
itself it takes `NaN`, `Infinity` and `-Infinity`; the last of several equal keys wins; an
escaped surrogate without its partner becomes the replacement character.
-/
namespace Detour.Json

inductive Problem where
  | byteOrderMark
  | expectingValue
  | extraData
  | expectingName
  | expectingColon
  | expectingComma
  | unterminatedText
  | controlCharacter
  | badEscape
  | badUnicodeEscape
  | numeralTooLong (digits : Nat)
  deriving DecidableEq, Repr

/-- A problem and the number of characters from its place to the end of the text. -/
structure Fault where
  problem : Problem
  left : Nat
  deriving DecidableEq, Repr

def Problem.message : Problem → String
  | byteOrderMark => "Unexpected UTF-8 BOM (decode using utf-8-sig)"
  | expectingValue => "Expecting value"
  | extraData => "Extra data"
  | expectingName => "Expecting property name enclosed in double quotes"
  | expectingColon => "Expecting ':' delimiter"
  | expectingComma => "Expecting ',' delimiter"
  | unterminatedText => "Unterminated string starting at"
  | controlCharacter => "Invalid control character at"
  | badEscape => "Invalid \\escape"
  | badUnicodeEscape => "Invalid \\uXXXX escape"
  | numeralTooLong digits => NumeralFault.tooLongMessage digits

/-- The message with line, column and offset; a numeral that is too long has no place. -/
def Fault.message (f : Fault) (cs : List Char) : String :=
  match f.problem with
  | .numeralTooLong _ => f.problem.message
  | p =>
    let pos := cs.length - f.left
    let before := cs.take pos
    let line := before.count '\n' + 1
    let column := (before.reverse.takeWhile (· != '\n')).length + 1
    s!"{p.message}: line {line} column {column} (char {pos})"

def fail {α : Type} (p : Problem) (at_ : List Char) : Except Fault (α × List Char) := .error ⟨p, at_.length⟩

def isSpace (c : Char) : Bool := c = ' ' || c = '\t' || c = '\n' || c = '\r'

def skip (cs : List Char) : List Char := cs.dropWhile isSpace

/-- Four hexadecimal digits with at least one more character behind them. -/
def unicodeUnit (cs : List Char) : Option (Nat × List Char) :=
  match cs with
  | a :: b :: c :: d :: rest =>
    if [a, b, c, d].all Text.isHexDigit then some (Text.hexNumber [a, b, c, d], rest) else none
  | _ => none

def character (n : Nat) : Char :=
  if 0xD800 ≤ n && n ≤ 0xDFFF then '\uFFFD' else Char.ofNat n

def plainEscape? : Char → Option Char
  | '"' => some '"'
  | '\\' => some '\\'
  | '/' => some '/'
  | 'b' => some '\x08'
  | 'f' => some '\x0c'
  | 'n' => some '\n'
  | 'r' => some '\r'
  | 't' => some '\t'
  | _ => none

/-- A low surrogate escaped right here. -/
def lowSurrogate? : List Char → Option (Except Unit (Nat × List Char))
  | '\\' :: 'u' :: cs =>
    if cs.length < 5 then none else
      match unicodeUnit cs with
      | none => some (.error ())
      | some (n, rest) => if 0xDC00 ≤ n && n ≤ 0xDFFF then some (.ok (n, rest)) else none
  | _ => none

/-- The characters up to the closing quote; `opened` counts from the opening quote to the end. -/
def textBody (opened : Nat) : Nat → List Char → Except Fault (List Char × List Char)
  | 0, cs => fail .expectingValue cs
  | _ + 1, [] => .error ⟨.unterminatedText, opened⟩
  | _ + 1, '"' :: rest => .ok ([], rest)
  | fuel + 1, '\\' :: cs =>
    match cs with
    | [] => .error ⟨.unterminatedText, opened⟩
    | 'u' :: ds =>
      if ds.length < 5 then fail .badUnicodeEscape cs
      else match unicodeUnit ds with
        | none => fail .badUnicodeEscape cs
        | some (n, rest) =>
          if 0xD800 ≤ n && n ≤ 0xDBFF then
            match lowSurrogate? rest with
            | some (.error _) => fail .badUnicodeEscape (rest.drop 1)
            | some (.ok (m, rest)) => do
              let (tail, rest) ← textBody opened fuel rest
              return (character (0x10000 + (n - 0xD800) * 0x400 + (m - 0xDC00)) :: tail, rest)
            | none => do
              let (tail, rest) ← textBody opened fuel rest
              return (character n :: tail, rest)
          else do
            let (tail, rest) ← textBody opened fuel rest
            return (character n :: tail, rest)
    | c :: rest =>
      match plainEscape? c with
      | none => .error ⟨.badEscape, cs.length + 1⟩
      | some e => do
        let (tail, rest) ← textBody opened fuel rest
        return (e :: tail, rest)
  | fuel + 1, c :: rest =>
    if c.toNat < 32 then fail .controlCharacter (c :: rest)
    else do
      let (tail, rest) ← textBody opened fuel rest
      return (c :: tail, rest)

/-- The text whose opening quote has been read. -/
def text (cs : List Char) : Except Fault (String × List Char) := do
  let (body, rest) ← textBody (cs.length + 1) (cs.length + 1) cs
  return (String.ofList body, rest)

def digits (cs : List Char) : List Char × List Char :=
  (cs.takeWhile Text.isAsciiDigit, cs.dropWhile Text.isAsciiDigit)

/-- A point and the digits behind it, if there are any. -/
def fraction (cs : List Char) : List Char × List Char :=
  match cs with
  | '.' :: rest =>
    let (ds, rest) := digits rest
    if ds.isEmpty then ([], cs) else (ds, rest)
  | _ => ([], cs)

/-- An exponent with digits: its value, and what follows. -/
def exponent? (cs : List Char) : Option (Int × List Char) :=
  match cs with
  | e :: rest =>
    if e = 'e' || e = 'E' then
      let (negative, rest) := match rest with
        | '-' :: rest => (true, rest)
        | '+' :: rest => (false, rest)
        | _ => (false, rest)
      let (ds, rest) := digits rest
      if ds.isEmpty then none
      else
        let n : Int := Whole.ofDigits 10 (ds.map fun c => c.toNat - 48)
        some (if negative then -n else n, rest)
    else none
  | [] => none

def number (cs : List Char) : Except Fault (Value × List Char) :=
  let (negative, body) := match cs with
    | '-' :: rest => (true, rest)
    | _ => (false, cs)
  let (whole, rest) := match body with
    | '0' :: rest => (['0'], rest)
    | _ => digits body
  if whole.isEmpty then fail .expectingValue cs
  else
    let (part, rest) := fraction rest
    let value (ds : List Char) : Nat := Whole.ofDigits 10 (ds.map fun c => c.toNat - 48)
    match exponent? rest with
    | some (e, rest) =>
      .ok (.float (Binary64.ofDecimal negative (value (whole ++ part)) (e - part.length)), rest)
    | none =>
      if part.isEmpty then
        if digitLimit < whole.length then .error ⟨.numeralTooLong whole.length, cs.length⟩
        else .ok (.int (if negative then -(value whole : Int) else value whole), rest)
      else
        .ok (.float (Binary64.ofDecimal negative (value (whole ++ part)) (-part.length)), rest)

def word? (w : String) (cs : List Char) : Option (List Char) :=
  if w.toList.isPrefixOf cs then some (cs.drop w.length) else none

/-- The literal names. -/
def names : List (String × Value) :=
  [("null", .null), ("true", .bool true), ("false", .bool false), ("NaN", .float .nan),
   ("Infinity", .float (.infinite false)), ("-Infinity", .float (.infinite true))]

def name? (cs : List Char) : Option (Value × List Char) :=
  names.findSome? fun (w, v) => (word? w cs).map fun rest => (v, rest)

mutual
def value : Nat → List Char → Except Fault (Value × List Char)
  | 0, cs => fail .expectingValue cs
  | fuel + 1, cs =>
    match cs with
    | '"' :: rest => do
      let (s, rest) ← text rest
      return (.str s, rest)
    | '{' :: rest =>
      match skip rest with
      | '}' :: rest => .ok (.map [], rest)
      | rest => do
        let (es, rest) ← members fuel rest
        return (.map (Value.ofEntries es), rest)
    | '[' :: rest =>
      match skip rest with
      | ']' :: rest => .ok (.list [], rest)
      | rest => do
        let (xs, rest) ← items fuel rest
        return (.list xs, rest)
    | _ => match name? cs with
      | some found => .ok found
      | none => number cs

def items : Nat → List Char → Except Fault (List Value × List Char)
  | 0, cs => fail .expectingValue cs
  | fuel + 1, cs => do
    let (x, rest) ← value fuel cs
    match skip rest with
    | ']' :: rest => return ([x], rest)
    | ',' :: rest =>
      let (xs, rest) ← items fuel (skip rest)
      return (x :: xs, rest)
    | rest => fail .expectingComma rest

def members : Nat → List Char → Except Fault (List (Value × Value) × List Char)
  | 0, cs => fail .expectingName cs
  | fuel + 1, cs =>
    match cs with
    | '"' :: rest => do
      let (k, rest) ← text rest
      match skip rest with
      | ':' :: rest =>
        let (v, rest) ← value fuel (skip rest)
        match skip rest with
        | '}' :: rest => return ([(.str k, v)], rest)
        | ',' :: rest =>
          let (es, rest) ← members fuel (skip rest)
          return ((.str k, v) :: es, rest)
        | rest => fail .expectingComma rest
      | rest => fail .expectingColon rest
    | _ => fail .expectingName cs
end

/-- Read a whole text; every level of nesting takes at most three steps per character. -/
def readChars (cs : List Char) : Except Fault Value :=
  if cs.head? = some '\uFEFF' then .error ⟨.byteOrderMark, cs.length⟩
  else
    match value (3 * cs.length + 3) (skip cs) with
    | .error f => .error f
    | .ok (v, rest) =>
      match skip rest with
      | [] => .ok v
      | rest => .error ⟨.extraData, rest.length⟩

def read (s : String) : Except String Value :=
  match readChars s.toList with
  | .ok v => .ok v
  | .error f => .error (f.message s.toList)

end Detour.Json
