import Detour.Decimal.Whole
import Detour.Text.Quoted

/-!
# Faults of regular expressions

Why a pattern is no regular expression, and where. Three faults are not of the grammar: a
numeral or a repetition that is too large, and flags that exclude each other.
-/
namespace Detour.Regex

inductive Problem where
  | trailingBackslash
  | incompleteEscape (text : String)
  | badEscape (text : String)
  | octalRange (text : String)
  | missingBrace
  | missingName (what : String)
  | unterminatedName (closing : Char)
  | undefinedCharacter (name : String)
  | openGroup
  | sameLookBehind
  | noSuchGroup (n : Nat)
  | unterminatedSet
  | badRange (low high : String)
  | repeatOrder
  | nothingToRepeat
  | multipleRepeat
  | unexpectedEnd
  | unknownName (name : String)
  | badName (name : String)
  | unknownExtension (text : String)
  | unterminatedComment
  | unterminatedGroup
  | groupZero
  | tooManyBranches
  | lateFlags
  | redefinition (name : String) (group earlier : Nat)
  | localeFlag
  | conflictingFlags
  | unknownFlag
  | missingFlag
  | missingFlagEnd
  | missingColon
  | globalFlagOn
  | globalFlagOff
  | typeFlagOff
  | flagOnAndOff
  | unbalanced
  | variableLookBehind
  | longLookBehind
  | templateRepeat (operator : String)
  | repetitionTooLarge
  | numeralTooLong (digits : Nat)
  | asciiAndUnicode
  deriving DecidableEq, Repr

def Problem.message : Problem → String
  | trailingBackslash => "bad escape (end of pattern)"
  | incompleteEscape text => "incomplete escape " ++ text
  | badEscape text => "bad escape " ++ text
  | octalRange text => "octal escape value " ++ text ++ " outside of range 0-0o377"
  | missingBrace => "missing \x7b"
  | missingName what => "missing " ++ what
  | unterminatedName closing => s!"missing {closing}, unterminated name"
  | undefinedCharacter name => "undefined character name " ++ Text.quoted name
  | openGroup => "cannot refer to an open group"
  | sameLookBehind => "cannot refer to group defined in the same lookbehind subpattern"
  | noSuchGroup n => s!"invalid group reference {n}"
  | unterminatedSet => "unterminated character set"
  | badRange low high => "bad character range " ++ low ++ "-" ++ high
  | repeatOrder => "min repeat greater than max repeat"
  | nothingToRepeat => "nothing to repeat"
  | multipleRepeat => "multiple repeat"
  | unexpectedEnd => "unexpected end of pattern"
  | unknownName name => "unknown group name " ++ Text.quoted name
  | badName name => "bad character in group name " ++ Text.quoted name
  | unknownExtension text => "unknown extension " ++ text
  | unterminatedComment => "missing ), unterminated comment"
  | unterminatedGroup => "missing ), unterminated subpattern"
  | groupZero => "bad group number"
  | tooManyBranches => "conditional backref with more than two branches"
  | lateFlags => "global flags not at the start of the expression"
  | redefinition name group earlier =>
    "redefinition of group name " ++ Text.quoted name ++ s!" as group {group}; was group {earlier}"
  | localeFlag => "bad inline flags: cannot use 'L' flag with a str pattern"
  | conflictingFlags => "bad inline flags: flags 'a', 'u' and 'L' are incompatible"
  | unknownFlag => "unknown flag"
  | missingFlag => "missing flag"
  | missingFlagEnd => "missing -, : or )"
  | missingColon => "missing :"
  | globalFlagOn => "bad inline flags: cannot turn on global flag"
  | globalFlagOff => "bad inline flags: cannot turn off global flag"
  | typeFlagOff => "bad inline flags: cannot turn off flags 'a', 'u' and 'L'"
  | flagOnAndOff => "bad inline flags: flag turned on and off"
  | unbalanced => "unbalanced parenthesis"
  | variableLookBehind => "look-behind requires fixed-width pattern"
  | longLookBehind => "looks too much behind"
  | templateRepeat operator => "internal: unsupported template operator " ++ operator
  | repetitionTooLarge => "the repetition number is too large"
  | numeralTooLong digits => NumeralFault.tooLongMessage digits
  | asciiAndUnicode => "ASCII and UNICODE flags are incompatible"

/-- Whether the problem is one of the grammar of expressions. -/
def Problem.isGrammatical : Problem → Bool
  | repetitionTooLarge | numeralTooLong _ | asciiAndUnicode => false
  | _ => true

/-- A problem, and the number of characters from its place, if it has one, to the end. -/
structure Fault where
  problem : Problem
  left : Option Nat
  deriving DecidableEq, Repr

/-- The message with its place; line and column are told of a pattern of several lines. -/
def Fault.message (f : Fault) (pattern : List Char) : String :=
  match f.left with
  | none => f.problem.message
  | some left =>
    let pos := pattern.length - left
    let before := pattern.take pos
    let lines :=
      if pattern.contains '\n' then
        let column := (before.reverse.takeWhile (· != '\n')).length + 1
        let line := before.count '\n' + 1
        s!" (line {line}, column {column})"
      else ""
    s!"{f.problem.message} at position {pos}" ++ lines

end Detour.Regex
