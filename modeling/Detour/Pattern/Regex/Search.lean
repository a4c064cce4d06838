import Detour.Pattern.Regex.Syntax

/-!
# Matching by backtracking

`Expr.run` tries the ways an expression can take characters in order of preference and returns
the first one that what follows accepts. What follows is a function, so that the recursion is on
the expression; a repetition counts down the rounds that it can still make.
-/
namespace Detour.Regex
open Text

/-- A place in a text: what lies before it, the nearest character first, what lies after it, and
what the groups closed so far have taken. -/
structure Spot where
  before : List Char
  after : List Char
  groups : List (Nat × List Char)
  deriving DecidableEq, Repr

def Spot.start (text : List Char) : Spot := ⟨[], text, []⟩

def Spot.next? (s : Spot) : Option (Char × Spot) :=
  match s.after with
  | [] => none
  | c :: cs => some (c, { s with before := c :: s.before, after := cs })

def Spot.back? : Nat → Spot → Option Spot
  | 0, s => some s
  | n + 1, s =>
    match s.before with
    | [] => none
    | c :: cs => Spot.back? n { s with before := cs, after := c :: s.after }

def Spot.forward (n : Nat) (s : Spot) : Spot :=
  { s with before := (s.after.take n).reverse ++ s.before, after := s.after.drop n }

def Spot.taken? (s : Spot) (n : Nat) : Option (List Char) :=
  (s.groups.find? (·.1 = n)).map (·.2)

/-- Note that group `n` took what lies between `s` and `t`. -/
def Spot.close (n : Nat) (s t : Spot) : Spot :=
  { t with groups :=
      (n, s.after.take (s.after.length - t.after.length)) :: t.groups.filter (·.1 != n) }

def isWord (ascii : Bool) (c : Char) : Bool := if ascii then isAsciiWordChar c else isWordChar c

def Place.holds (p : Place) (s : Spot) : Bool :=
  match p with
  | .start => s.before.isEmpty
  | .lineStart => s.before.isEmpty || s.before.head? = some '\n'
  | .finish => s.after.isEmpty
  | .lineFinish => s.after.isEmpty || s.after.head? = some '\n'
  | .lastLineFinish => s.after.isEmpty || s.after = ['\n']
  | .boundary ascii negated =>
    let left := s.before.head?.any (isWord ascii)
    let right := s.after.head?.any (isWord ascii)
    !(s.before.isEmpty && s.after.isEmpty) && (left != right) != negated

/-- What is to match after an expression. -/
abbrev Rest := Spot → Option Spot

/-- One way of matching: where it starts and what follows. -/
abbrev Run := Spot → Rest → Option Spot

/-- As many rounds as possible first; a round that took nothing is the last one. -/
def greedyRounds (body : Run) (k : Rest) : Nat → Nat → Option Nat → Option Nat → Spot → Option Spot
  | 0, _, _, _, s => k s
  | fuel + 1, low, high, last, s =>
    if 0 < low then
      body s fun t => greedyRounds body k fuel (low - 1) (high.map (· - 1)) last t
    else if high != some 0 && last != some s.after.length then
      match body s fun t =>
          greedyRounds body k fuel 0 (high.map (· - 1)) (some s.after.length) t with
      | some t => some t
      | none => k s
    else k s

/-- As few rounds as possible first. -/
def lazyRounds (body : Run) (k : Rest) : Nat → Nat → Option Nat → Option Nat → Spot → Option Spot
  | 0, _, _, _, s => k s
  | fuel + 1, low, high, last, s =>
    if 0 < low then
      body s fun t => lazyRounds body k fuel (low - 1) (high.map (· - 1)) last t
    else
      match k s with
      | some t => some t
      | none =>
        if high != some 0 && last != some s.after.length then
          body s fun t => lazyRounds body k fuel 0 (high.map (· - 1)) (some s.after.length) t
        else none

/-- As many rounds as possible, none of them taken back. -/
def possessiveRounds (body : Run) : Nat → Nat → Option Nat → Spot → Option Spot
  | 0, _, _, s => some s
  | fuel + 1, low, high, s =>
    if 0 < low then
      match body s some with
      | some t => possessiveRounds body fuel (low - 1) (high.map (· - 1)) t
      | none => none
    else if high != some 0 then
      match body s some with
      | some t =>
        if t.after.length = s.after.length then some t
        else possessiveRounds body fuel 0 (high.map (· - 1)) t
      | none => some s
    else some s

def sameText (letters : Letters) : List Char → List Char → Bool
  | [], _ => true
  | c :: cs, d :: ds => letters.lower c = letters.lower d && sameText letters cs ds
  | _ :: _, [] => false

def Expr.run : Expr → Run
  | .empty, s, k => k s
  | .one t, s, k =>
    match s.after with
    | [] => none
    | c :: cs => if t.holds c then k { s with before := c :: s.before, after := cs } else none
  | .seq a b, s, k => a.run s fun t => b.run t k
  | .alt a b, s, k =>
    match a.run s k with
    | some t => some t
    | none => b.run s k
  | .repeated g low high e, s, k =>
    let fuel := low + s.after.length + 2
    match g with
    | .greedy => greedyRounds e.run k fuel low high none s
    | .lazy => lazyRounds e.run k fuel low high none s
    | .possessive => (possessiveRounds e.run fuel low high s).bind k
  | .group n e, s, k => e.run s fun t => k (Spot.close n s t)
  | .again letters n _, s, k =>
    match s.taken? n with
    | none => none
    | some text => if sameText letters text s.after then k (s.forward text.length) else none
  | .place p, s, k => if p.holds s then k s else none
  | .ahead false e, s, k =>
    match e.run s some with
    | some t => k { s with groups := t.groups }
    | none => none
  | .ahead true e, s, k =>
    match e.run s some with
    | some _ => none
    | none => k s
  | .behind negated e, s, k =>
    let found := (Spot.back? e.width.1 s).bind fun t => e.run t some
    match negated, found with
    | false, some t => k { s with groups := t.groups }
    | false, none => none
    | true, some _ => none
    | true, none => k s
  | .atomic e, s, k => (e.run s some).bind k
  | .ifGroup n yes no, s, k => if (s.taken? n).isSome then yes.run s k else no.run s k

/-- Whether the expression takes up a whole text. -/
def Expr.matchesAll (e : Expr) (text : List Char) : Bool :=
  (e.run (.start text) fun s => if s.after.isEmpty then some s else none).isSome

def Expr.foundFrom (e : Expr) (before : List Char) : List Char → Bool
  | [] => (e.run ⟨before, [], []⟩ some).isSome
  | c :: cs => (e.run ⟨before, c :: cs, []⟩ some).isSome || e.foundFrom (c :: before) cs

/-- Whether the expression matches somewhere in a text. -/
def Expr.foundIn (e : Expr) (text : List Char) : Bool := e.foundFrom [] text

end Detour.Regex
