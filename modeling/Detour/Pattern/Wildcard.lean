import Detour.Pattern.Regex.Syntax

/-!
# Wildcard patterns

`*` stands for any run of characters, `?` for one character, and every other character for
itself. `regexText` writes a pattern as a regular expression that says the same of a whole text.
-/
namespace Detour.Wildcard

/-- Characters with a meaning in a regular expression, and the blanks of its verbose form. -/
def isSpecial (c : Char) : Bool :=
  ['(', ')', '[', ']', '\x7b', '\x7d', '?', '*', '+', '-', '|', '^', '$', '\\', '.', '&', '~', '#', ' ', '\t',
    '\n', '\r', '\x0b', '\x0c'].contains c

/-- The regular expression for one character of the pattern. -/
def regexChars (c : Char) : List Char :=
  if c = '*' then ['.', '*']
  else if c = '?' then ['.']
  else if isSpecial c then ['\\', c]
  else [c]

def regexText (pattern : String) : String := String.ofList (pattern.toList.flatMap regexChars)

end Detour.Wildcard
