import Detour.Text.Utf8
import Detour.Yaml.Cursor
import Detour.Yaml.Token

/-!
# Directives, anchors, aliases and tags

The names in a document. In tags an escape `%XX` stands for one byte of a character; it is checked
here and read by `TagText.unescape`.
-/
namespace Detour.Yaml

def isNameChar (c : Char) : Bool :=
  Text.isAsciiDigit c || Text.isAsciiLetter c || c = '-' || c = '_'

/-- The characters of the name of an anchor. -/
def isAnchorChar (c : Char) : Bool :=
  let n := c.toNat
  !",[]\x7b\x7d".toList.contains c && ((0x21 ≤ n && n ≤ 0x7E) || (0xA0 ≤ n && n ≤ 0xD7FF) ||
    (0xE000 ≤ n && n ≤ 0xFFFD && n != 0xFEFF) || 0x10000 ≤ n)

def closesAnchor (c : Char) : Bool :=
  closesHead c || "\t?:,[]\x7b\x7d%@".toList.contains c || c.toNat = 0x60

def isUriChar (old : Bool) (c : Char) : Bool :=
  Text.isAsciiDigit c || Text.isAsciiLetter c || "-;/?:@&=+$,_.!~*'()[]".toList.contains c ||
    (!old && c = '#')

/-- A tag with its escapes read, every byte as a character. -/
def unescape : List Char → List Char
  | '%' :: a :: b :: rest => Char.ofNat (16 * Text.hexValue a + Text.hexValue b) :: unescape rest
  | c :: rest => c :: unescape rest
  | [] => []

namespace Scan

/-- A run of escaped bytes, as it is written; together they have to be text. -/
def uriEscapes : Nat → List UInt8 → List Char → Scan (List UInt8 × List Char)
  | 0, bytes, acc => return (bytes, acc)
  | fuel + 1, bytes, acc => do
    if (← peek 0) != '%' then return (bytes, acc)
    skip 1
    let digits := (← get).rest.take 2
    let n ← hexNumber 2 .uriEscape
    uriEscapes fuel (bytes ++ [UInt8.ofNat n]) (acc ++ '%' :: digits)

def uriParts (old : Bool) : Nat → List Char → Scan (List Char)
  | 0, acc => return acc
  | fuel + 1, acc => do
    let word ← span (isUriChar old)
    if (← peek 0) = '%' then
      let mark ← here
      let (bytes, text) ← uriEscapes ((← get).rest.length + 1) [] []
      match Text.Utf8.decode bytes with
      | .ok _ => uriParts old fuel (acc ++ word ++ text)
      | .error f => throw (.at mark (.uriEncoding f.message))
    else return acc ++ word

def uri (old : Bool) : Scan (List Char) := do
  let text ← uriParts old ((← get).rest.length + 1) []
  if text.isEmpty then fail (.expectedUri (← peek 0)) else return text

/-- A handle of tags: an exclamation mark, or a name between two. -/
def tagHandle : Scan (List Char) := do
  if (← peek 0) != '!' then fail (.expectedChar '!' (← peek 0))
  skip 1
  if (← peek 0) = ' ' then return ['!']
  let name ← span isNameChar
  if (← peek 0) != '!' then fail (.expectedChar '!' (← peek 0))
  skip 1
  return '!' :: name ++ ['!']

/-- Whether another exclamation mark follows in the tag that begins here. -/
def hasHandle (rest : List Char) : Bool :=
  ((rest.drop 1).takeWhile (!closesHead ·)).contains '!'

def tag (old : Bool) : Scan TagText := do
  let short ← if (← peek 1) = '!' then
      skip 1
      pure "!!"
    else pure "!"
  let c ← peek 1
  let t ← if c = '<' then do
      skip 2
      let text ← uri old
      if (← peek 0) != '>' then fail (.expectedChar '>' (← peek 0))
      skip 1
      pure (⟨none, String.ofList (unescape text)⟩ : TagText)
    else if isGapOrEnd c then do
      skip 1
      pure ⟨none, "!"⟩
    else do
      let handle ← if hasHandle (← get).rest then pure (String.ofList (← tagHandle)) else do
        skip 1
        pure short
      pure ⟨some handle, String.ofList (unescape (← uri old))⟩
  let c ← peek 0
  if closesHead c then return t else fail (.expectedChar ' ' c)

/-- The name after the mark of an anchor or an alias. -/
def anchorName : Scan (List Char) := do
  skip 1
  let name ← span isAnchorChar
  let c ← peek 0
  if name.isEmpty || !closesAnchor c then fail (.notAlphanumeric c) else return name

def directiveName : Scan (List Char) := do
  let name ← span fun c => isNameChar c || c = ':' || c = '.'
  let c ← peek 0
  if name.isEmpty || !closesHead c then fail (.notAlphanumeric c) else return name

def versionNumber : Scan Nat := do
  let digits ← span Text.isAsciiDigit
  if digits.isEmpty then fail (.notDigit (← peek 0))
  return digits.foldl (fun n c => 10 * n + (c.toNat - 48)) 0

def versionDirective : Scan Directive := do
  skipRun (· = ' ')
  let major ← versionNumber
  if (← peek 0) != '.' then fail (.notDigitOr '.' (← peek 0))
  skip 1
  let minor ← versionNumber
  let c ← peek 0
  if closesHead c then return .version major minor else fail (.notDigitOr ' ' c)

def tagDirective (old : Bool) : Scan Directive := do
  skipRun (· = ' ')
  let handle ← tagHandle
  if (← peek 0) != ' ' then fail (.expectedChar ' ' (← peek 0))
  skipRun (· = ' ')
  let replacement ← uri old
  let c ← peek 0
  if closesHead c then return .tag (String.ofList handle) (String.ofList replacement)
  else fail (.expectedChar ' ' c)

def directive (old : Bool) : Scan Directive := do
  skip 1
  let name ← directiveName
  let d ← match String.ofList name with
    | "YAML" => versionDirective
    | "TAG" => tagDirective old
    | _ => do
      skipRun (!isEnd ·)
      pure .other
  restOfLine
  return d

end Scan
end Detour.Yaml
