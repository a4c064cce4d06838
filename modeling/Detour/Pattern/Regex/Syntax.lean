import Detour.Text.Case

/-!
# Regular expressions

The expressions a pattern denotes, the test each makes of a single character, and the number of
characters an expression can take up.
-/
namespace Detour.Regex
open Text

/-- How letters are compared. -/
inductive Letters where
  | exact
  | asciiFold
  | fold
  deriving DecidableEq, Repr

inductive Kind where
  | digit
  | blank
  | word
  deriving DecidableEq, Repr

/-- A member of a bracketed set; a range is given by code points. -/
inductive Item where
  | char (c : Char)
  | range (low high : Nat)
  | kind (k : Kind) (ascii negated : Bool)
  deriving DecidableEq, Repr

/-- A test of one character. -/
inductive CharTest where
  | any (newlines : Bool)
  | char (letters : Letters) (negated : Bool) (c : Char)
  | set (letters : Letters) (negated : Bool) (items : List Item)
  deriving DecidableEq, Repr

inductive Place where
  | start
  | lineStart
  | finish
  | lineFinish
  /-- The end, or the line break that ends the text. -/
  | lastLineFinish
  | boundary (ascii negated : Bool)
  deriving DecidableEq, Repr

inductive Greed where
  | greedy
  | lazy
  | possessive
  deriving DecidableEq, Repr

inductive Expr where
  | empty
  | one (t : CharTest)
  | seq (a b : Expr)
  | alt (a b : Expr)
  | repeated (g : Greed) (low : Nat) (high : Option Nat) (e : Expr)
  | group (n : Nat) (e : Expr)
  /-- What group `n` took, whose least and greatest width are known. -/
  | again (letters : Letters) (n : Nat) (width : Nat × Nat)
  | place (p : Place)
  | ahead (negated : Bool) (e : Expr)
  | behind (negated : Bool) (e : Expr)
  | atomic (e : Expr)
  | ifGroup (n : Nat) (yes no : Expr)
  deriving DecidableEq, Repr

def Kind.holds (k : Kind) (ascii : Bool) (c : Char) : Bool :=
  match k with
  | .digit => if ascii then isAsciiDigit c else isDigit c
  | .blank => if ascii then isAsciiBlank c else isBlank c
  | .word => if ascii then isAsciiWordChar c else isWordChar c

/-- The capitals whose lower-case form has this code point. -/
def capitalsOf (n : Nat) : List Nat :=
  (if 97 ≤ n && n ≤ 122 then [n - 32] else []) ++
    capitalRuns.filterMap fun (first, last, step, small) =>
      if small ≤ n && first + (n - small) ≤ last && (n - small) % step = 0
      then some (first + (n - small)) else none

/-- The code points that some folding of letters identifies with a lower-case one. -/
def variants (letters : Letters) (n : Nat) : List Nat :=
  match letters with
  | .exact => [n]
  | .asciiFold => if 97 ≤ n && n ≤ 122 then [n, n - 32] else [n]
  | .fold => (n :: siblings n).flatMap fun m => m :: capitalsOf m

def Letters.lower : Letters → Char → Char
  | .exact, c => c
  | .asciiFold, c => asciiLower c
  | .fold, c => lowerChar c

def Letters.same : Letters → Char → Char → Bool
  | .exact, c, d => c = d
  | .asciiFold, c, d => asciiLower c = asciiLower d
  | .fold, c, d => sameLetter c d

def lastBasic : Nat := 0xFFFF

def Item.holds (item : Item) (c : Char) : Bool :=
  match item with
  | .char d => c = d
  | .range low high => low ≤ c.toNat && c.toNat ≤ high
  | .kind k ascii negated => k.holds ascii c != negated

/-- Membership of a folded character. Beyond the basic plane a single member is not folded. -/
def Item.holdsFolded (letters : Letters) (item : Item) (c : Char) : Bool :=
  match item with
  | .char d => if lastBasic < d.toNat then c = d else letters.same d c
  | .range low high =>
    (variants letters c.toNat).any (fun n => low ≤ n && n ≤ high) ||
      (lastBasic < high && low ≤ astralUpper c.toNat && astralUpper c.toNat ≤ high)
  | .kind k ascii negated => k.holds ascii c != negated

def CharTest.holds : CharTest → Char → Bool
  | .any newlines, c => newlines || c != '\n'
  | .char letters negated d, c => letters.same d c != negated
  | .set letters negated items, c =>
    (match letters with
      | .exact => items.any (·.holds c)
      | _ => items.any (·.holdsFolded letters (letters.lower c))) != negated

/-- More than any text has. -/
def widthLimit : Nat := Nat.pow 2 64

/-- The least and the greatest number of characters. -/
def Expr.width : Expr → Nat × Nat
  | .empty | .place _ | .ahead .. | .behind .. => (0, 0)
  | .one _ => (1, 1)
  | .seq a b =>
    let (l, h) := a.width
    let (l', h') := b.width
    (min (l + l') widthLimit, min (h + h') widthLimit)
  | .alt a b =>
    let (l, h) := a.width
    let (l', h') := b.width
    (min l l', max h h')
  | .repeated _ low high e =>
    let (l, h) := e.width
    (min (l * low) widthLimit,
      match high with
      | some n => min (h * n) widthLimit
      | none => if h = 0 then 0 else widthLimit)
  | .group _ e | .atomic e => e.width
  | .again _ _ w => w
  | .ifGroup _ yes no =>
    let (l, h) := yes.width
    let (l', h') := no.width
    (min l l', max h h')

end Detour.Regex
