import Detour.Text.CharClass

/-!
# Pieces of a text

`pieces` cuts a text at the characters that a test picks, `words` at its blanks; `trim` drops the
blanks at both ends, `trimNumeral` those that may surround a numeral; `isInfix` finds a text in
another one.
-/
namespace Detour.Text

/-- The pieces between the characters that a test picks; there is always one more than of those. -/
def pieces (p : Char → Bool) : List Char → List (List Char)
  | [] => [[]]
  | c :: cs =>
    match pieces p cs with
    | piece :: rest => if p c then [] :: piece :: rest else (c :: piece) :: rest
    | [] => [[c]]

def trimBy (p : Char → Bool) (cs : List Char) : List Char :=
  ((cs.dropWhile p).reverse.dropWhile p).reverse

def trim (cs : List Char) : List Char := trimBy isBlank cs

/-- Drop the blanks around a numeral, where the separators 28 to 31 do not count as blanks. -/
def trimNumeral (cs : List Char) : List Char :=
  trimBy (fun c => isBlank c && !(28 ≤ c.toNat && c.toNat ≤ 31)) cs

def words (s : String) : List String :=
  ((pieces isBlank s.toList).filter (!·.isEmpty)).map String.ofList

/-- Whether a text occurs in another one. -/
def isInfix (needle : List Char) : List Char → Bool
  | [] => needle.isEmpty
  | c :: cs => needle.isPrefixOf (c :: cs) || isInfix needle cs

/-- The words of a text with single spaces between them. -/
def squeezed (s : String) : String := " ".intercalate (words s)

end Detour.Text
