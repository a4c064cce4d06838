import Detour.Text.Quoted

/-!
# Faults of YAML documents

What is wrong with a document and where. Most faults have a place, which is shown with the part
of its line around it (`Mark.snippet`).
-/
namespace Detour.Yaml

/-- A place in a text, all counts from zero. -/
structure Mark where
  index : Nat
  line : Nat
  column : Nat
  deriving DecidableEq, Repr, Inhabited

inductive Problem where
  | cannotStart (c : Char)
  | noColon
  | noEntryHere
  | noKeyHere
  | noValueHere
  | notAlphanumeric (c : Char)
  | notDigit (c : Char)
  | notDigitOr (other c : Char)
  | expectedChar (expected c : Char)
  | expectedUri (c : Char)
  | uriEscape (c : Char)
  | uriEncoding (message : String)
  | chomping (c : Char)
  | zeroIndent
  | commentOrBreak (c : Char)
  | escapeDigits (count : Nat) (c : Char)
  | unknownEscape (c : Char)
  | endOfStream
  | documentSeparator
  | expectedBlockEnd (found : String)
  | expectedInSequence (found : String)
  | expectedInMapping (found : String)
  | expectedContent (found : String)
  | expectedDocument (found : String)
  | contentAfterEnd (found : String)
  | undefinedHandle (handle : String)
  | duplicateVersion
  | wrongVersion
  | duplicateHandle (handle : String)
  | undefinedAlias (name : String)
  | anotherDocument
  | noConstructor (tag : String)
  | duplicateKey (key value original : String)
  | duplicateMerge (key : String)
  | unhashableKey
  | notMergeable (kind : String)
  | notMergeableItem (kind : String)
  | expectedNode (expected kind : String)
  | notSequence (kind : String)
  | notPair (kind : String)
  | notSingle (count : Nat)
  | badTimestamp (text : String)
  | notAsciiData (message : String)
  | badData (message : String)
  deriving DecidableEq, Repr

def shownChar (c : Char) : String := Text.quoted (String.singleton c)

def Problem.message : Problem → String
  | cannotStart c => s!"found character {shownChar c} that cannot start any token"
  | noColon => "could not find expected ':'"
  | noEntryHere => "sequence entries are not allowed here"
  | noKeyHere => "mapping keys are not allowed here"
  | noValueHere => "mapping values are not allowed here"
  | notAlphanumeric c => s!"expected alphabetic or numeric character, but found {shownChar c}"
  | notDigit c => s!"expected a digit, but found {shownChar c}"
  | notDigitOr other c => s!"expected a digit or '{other}', but found {shownChar c}"
  | expectedChar e c => s!"expected '{e}', but found {shownChar c}"
  | expectedUri c => s!"expected URI, but found {shownChar c}"
  | uriEscape c =>
    s!"expected URI escape sequence of 2 hexdecimal numbers, but found {shownChar c}"
  | uriEncoding message => message
  | chomping c => s!"expected chomping or indentation indicators, but found {shownChar c}"
  | zeroIndent => "expected indentation indicator in the range 1-9, but found 0"
  | commentOrBreak c => s!"expected a comment or a line break, but found {shownChar c}"
  | escapeDigits count c =>
    s!"expected escape sequence of {count} hexdecimal numbers, but found {shownChar c}"
  | unknownEscape c => s!"found unknown escape character {shownChar c}"
  | endOfStream => "found unexpected end of stream"
  | documentSeparator => "found unexpected document separator"
  | expectedBlockEnd found => s!"expected <block end>, but found '{found}'"
  | expectedInSequence found => s!"expected ',' or ']', but got '{found}'"
  | expectedInMapping found => s!"expected ',' or '\x7d', but got '{found}'"
  | expectedContent found => s!"expected the node content, but found '{found}'"
  | expectedDocument found => s!"expected '<document start>', but found ('{found}',)"
  | contentAfterEnd found =>
    s!"found non-comment content after document end marker, '{found}'"
  | undefinedHandle handle => "found undefined tag handle " ++ Text.quoted handle
  | duplicateVersion => "found duplicate YAML directive"
  | wrongVersion => "found incompatible YAML document (version 1.* is required)"
  | duplicateHandle handle => "duplicate tag handle " ++ Text.quoted handle
  | undefinedAlias name => "found undefined alias " ++ Text.quoted name
  | anotherDocument => "but found another document"
  | noConstructor tag => "could not determine a constructor for the tag " ++ Text.quoted tag
  | duplicateKey key value original =>
    s!"found duplicate key \"{key}\" with value \"{value}\" (original value: \"{original}\")"
  | duplicateMerge key => s!"found duplicate key \"{key}\""
  | unhashableKey => "found unhashable key"
  | notMergeable kind => "expected a mapping or list of mappings for merging, but found " ++ kind
  | notMergeableItem kind => "expected a mapping for merging, but found " ++ kind
  | expectedNode expected kind => s!"expected a {expected} node, but found {kind}"
  | notSequence kind => "expected a sequence, but found " ++ kind
  | notPair kind => "expected a mapping of length 1, but found " ++ kind
  | notSingle count => s!"expected a single mapping item, but found {count} items"
  | badTimestamp text => s!"failed to construct timestamp from \"{text}\""
  | notAsciiData message => "failed to convert base64 data into ascii: " ++ message
  | badData message => "failed to decode base64 data: " ++ message

inductive Fault where
  /-- A character that a document may not hold. -/
  | unprintable
  /-- The first empty line of a block is indented, but less than a line after it; it has no place. -/
  | indentedBefore
  | at (mark : Mark) (p : Problem)
  /-- A scalar that does not have the form its tag asks for, by family and message. -/
  | scalar (family message : String)
  deriving DecidableEq, Repr

def endsSnippet (c : Char) : Bool :=
  c = '\x00' || c = '\r' || c = '\n' || c = '\x85' || c = '\u2028' || c = '\u2029'

/-- The most characters shown on one side of a place. -/
def snippetReach : Nat := 36

/-- The characters of a line next to a place, nearest first, and whether some are left out; then
five fewer are shown to make room for the mark of that. -/
def snippetSide (cs : List Char) : List Char × Bool :=
  let side := cs.takeWhile (!endsSnippet ·)
  if snippetReach < side.length then (side.take (snippetReach + 1 - 5), true) else (side, false)

/-- The line around a place, and a caret below it. -/
def Mark.snippet (m : Mark) (text : List Char) : String :=
  let (before, cutBefore) := snippetSide (text.take m.index).reverse
  let (after, cutAfter) := snippetSide (text.drop m.index)
  let head := if cutBefore then " ... " else ""
  let tail := if cutAfter then " ... " else ""
  let caret := String.ofList (List.replicate (4 + before.length + head.length) ' ')
  s!"    {head}{String.ofList (before.reverse ++ after)}{tail}\n{caret}^ (line: {m.line + 1})"

end Detour.Yaml
