import Detour.Pattern
import Mathlib.Tactic.FinCases

/-!
# Wildcard patterns as regular expressions

The text that `Wildcard.regexText` writes is read back character by character: a star as the
repetition of any character, a question mark as any character, and every other character as itself,
whether it was escaped or not. No two neighbours run together, since no text of a character begins
with a sign that could belong to the text before it.
-/
namespace Detour.Regex

section Steps
variable {α β : Type} {c c' : Cursor} {a : α}

theorem run_bind_of_ok {p : Parse α} (h : p.run c = .ok (a, c')) (f : α → Parse β) :
    (p >>= f).run c = (f a).run c' := by
  rw [StateT.run_bind, h]
  rfl

theorem get_run (c : Cursor) : (get : Parse Cursor).run c = .ok (c, c) := rfl

theorem peek_run (c : Cursor) : peek.run c = .ok (tokenOf c.rest, c) := rfl

theorem left_run (c : Cursor) : left.run c = .ok (c.rest.length, c) := rfl

theorem moveTo_run {rest : List Char} (h : rest ≠ ['\\']) (c : Cursor) :
    (moveTo rest).run c = .ok ((), { c with rest }) := by
  simp [moveTo, h]
  rfl

/-- A token can be taken unless a backslash with nothing behind it comes next. -/
theorem discard_take_run {token rest : List Char} (ht : tokenOf c.rest = token)
    (hc : c.rest = token ++ rest) (hr : rest ≠ ['\\']) :
    (discard take).run c = .ok ((), { c with rest }) := by
  have htake : take.run c = .ok (token, { c with rest }) := by
    unfold take
    rw [run_bind_of_ok (peek_run c), run_bind_of_ok (get_run c), ht, hc, List.drop_left,
      run_bind_of_ok (moveTo_run hr c)]
    rfl
  change ((fun _ => ()) <$> take : Parse Unit).run c = _
  rw [StateT.run_map, htake]
  rfl

theorem accept_run_of_ne {d : Char} (h : tokenOf c.rest ≠ [d]) :
    (accept d).run c = .ok (false, c) := by
  unfold accept
  rw [run_bind_of_ok (peek_run c), if_neg h]
  rfl

theorem tokenOf_cons {d : Char} (h : d ≠ '\\') (rest : List Char) : tokenOf (d :: rest) = [d] := by
  rw [tokenOf]
  intro _ _ hd
  exact absurd hd h

theorem literal_of_char (flags : Flags) (d : Char) :
    literal flags d.toNat = .char flags.letters false d := by
  have hd : ¬ (0xD800 ≤ d.toNat ∧ d.toNat ≤ 0xDFFF) := by
    have hvalid : d.toNat < 0xD800 ∨ (0xDFFF < d.toNat ∧ d.toNat < 0x110000) := d.valid
    omega
  rw [literal, if_neg (by simpa using hd), Char.ofNat_toNat]

end Steps

section Parts
variable {c : Cursor} {flags : Flags} {d : Char} {first : Bool} {parts : List Part} {fuel : Nat}
  {rest : List Char}

theorem sequence_char (hs : Wildcard.isSpecial d = false) (hv : flags.verbose = false)
    (hc : c.rest = d :: rest) (hr : rest ≠ ['\\']) :
    (sequence true flags first parts (fuel + 1)).run c =
      (sequence true flags first (.plain (.one (.char flags.letters false d)) :: parts) fuel).run
        { c with rest } := by
  have hne : ∀ e, Wildcard.isSpecial e = true → d ≠ e := by
    rintro e he rfl
    simp [hs] at he
  have ht : tokenOf c.rest = [d] := by rw [hc, tokenOf_cons (hne '\\' (by decide))]
  rw [sequence, run_bind_of_ok (peek_run c), ht]
  simp only [hne '|' (by decide), hne ')' (by decide), decide_false, Bool.or_self,
    Bool.false_eq_true, if_false]
  rw [run_bind_of_ok (discard_take_run ht hc hr)]
  simp only [hv, hne '[' (by decide), hne '*' (by decide), hne '+' (by decide),
    hne '?' (by decide), hne '\x7b' (by decide), hne '.' (by decide), hne '^' (by decide),
    hne '$' (by decide), hne '(' (by decide), decide_false, Bool.or_self, Bool.false_and,
    Bool.false_eq_true, if_false, literal_of_char]

theorem sequence_any (hv : flags.verbose = false) (hc : c.rest = '.' :: rest) (hr : rest ≠ ['\\']) :
    (sequence true flags first parts (fuel + 1)).run c =
      (sequence true flags first (.plain (.one (.any flags.dotAll)) :: parts) fuel).run
        { c with rest } := by
  have ht : tokenOf c.rest = ['.'] := by rw [hc, tokenOf_cons (by decide)]
  rw [sequence, run_bind_of_ok (peek_run c), ht]
  simp only [Char.reduceEq, decide_false, Bool.or_self, Bool.false_eq_true, if_false]
  rw [run_bind_of_ok (discard_take_run ht hc hr)]
  simp only [hv, Bool.false_and, Bool.false_eq_true, if_false, if_true]

/-- A star repeats the part before it, as often as possible unless another sign follows. -/
theorem sequence_star {e : Expr} (hv : flags.verbose = false) (hc : c.rest = '*' :: rest)
    (hr : rest ≠ ['\\']) (hl : tokenOf rest ≠ ['?']) (hp : tokenOf rest ≠ ['+']) :
    (sequence true flags first (.plain e :: parts) (fuel + 1)).run c =
      (sequence true flags first (.repeated (.repeated .greedy 0 none e) :: parts) fuel).run
        { c with rest } := by
  have ht : tokenOf c.rest = ['*'] := by rw [hc, tokenOf_cons (by decide)]
  have hsign : ∀ sign, (repeatLatest sign 0 none (.plain e :: parts)).run { c with rest } =
      .ok (.repeated (.repeated .greedy 0 none e) :: parts, { c with rest }) := by
    intro sign
    rw [repeatLatest, run_bind_of_ok (accept_run_of_ne hl)]
    simp only [Bool.false_eq_true, if_false]
    rw [run_bind_of_ok (accept_run_of_ne hp)]
    rfl
  rw [sequence, run_bind_of_ok (peek_run c), ht]
  simp only [Char.reduceEq, decide_false, Bool.or_self, Bool.false_eq_true, if_false]
  rw [run_bind_of_ok (discard_take_run ht hc hr)]
  simp only [hv, decide_true, Bool.true_or, Bool.false_and, Bool.false_eq_true,
    if_false, if_true]
  rw [run_bind_of_ok (left_run _), run_bind_of_ok (p := bounds? '*') (a := some (0, none)) rfl]
  exact run_bind_of_ok (hsign _) _

theorem escape_of_special (hs : Wildcard.isSpecial d = true) (c : Cursor) :
    (escape flags d).run c = .ok (.plain (.one (.char flags.letters false d)), c) := by
  have hmem : d ∈ ['(', ')', '[', ']', '\x7b', '\x7d', '?', '*', '+', '-', '|', '^', '$', '\\', '.',
      '&', '~', '#', ' ', '\t', '\n', '\r', '\x0b', '\x0c'] := by
    simpa [Wildcard.isSpecial] using hs
  fin_cases hmem <;> rfl

theorem sequence_escaped (hs : Wildcard.isSpecial d = true) (hc : c.rest = '\\' :: d :: rest)
    (hr : rest ≠ ['\\']) :
    (sequence true flags first parts (fuel + 1)).run c =
      (sequence true flags first (.plain (.one (.char flags.letters false d)) :: parts) fuel).run
        { c with rest } := by
  have ht : tokenOf c.rest = ['\\', d] := by rw [hc, tokenOf]
  rw [sequence, run_bind_of_ok (peek_run c), ht]
  simp only
  rw [run_bind_of_ok (discard_take_run ht hc hr), run_bind_of_ok (escape_of_special hs _)]

end Parts
end Detour.Regex

namespace Detour.Wildcard
open Regex

def part (flags : Flags) (c : Char) : Part :=
  if c = '*' then .repeated (.repeated .greedy 0 none (.one (.any flags.dotAll)))
  else if c = '?' then .plain (.one (.any flags.dotAll))
  else .plain (.one (.char flags.letters false c))

def expr (flags : Flags) (pattern : List Char) : Expr :=
  pattern.foldr (fun c e => .seq (part flags c).expr e) .empty

theorem joined_parts (flags : Flags) (pattern : List Char) :
    joined (pattern.map (part flags)).reverse = expr flags pattern := by
  rw [joined, List.foldl_reverse, List.foldr_map, expr]

theorem flatMap_ne_backslash (pattern : List Char) : pattern.flatMap regexChars ≠ ['\\'] := by
  cases pattern with
  | nil => simp
  | cons c cs =>
    rw [List.flatMap_cons, regexChars]
    split
    · simp
    split
    · simp
    split
    · simp
    · rename_i hs
      have hc : c ≠ '\\' := by
        rintro rfl
        exact hs (by decide)
      simp [hc]

/-- No text of a character begins with a sign that would belong to the text before it. -/
theorem tokenOf_flatMap_ne {d : Char} (hd : isSpecial d = true) (hp : d ≠ '.') (pattern : List Char) :
    tokenOf (pattern.flatMap regexChars) ≠ [d] := by
  cases pattern with
  | nil => simp [tokenOf]
  | cons c cs =>
    rw [List.flatMap_cons, regexChars]
    split
    · simpa [tokenOf] using hp.symm
    split
    · simpa [tokenOf] using hp.symm
    split
    · simp [tokenOf]
    · rename_i hs
      have hne : ∀ e, isSpecial e = true → c ≠ e := by
        rintro e he rfl
        exact hs he
      rw [List.singleton_append, tokenOf_cons (hne '\\' (by decide))]
      simpa using hne d hd

section Reader
variable {flags : Flags} {c : Cursor}

/-- The reader goes past the text of one character, in no more steps than the text has characters. -/
theorem sequence_regexChars (hv : flags.verbose = false) (first : Bool) (parts : List Part) {d : Char}
    {rest : List Char} {n fuel : Nat} (hc : c.rest = regexChars d ++ rest) (hr : rest ≠ ['\\'])
    (hmark : tokenOf rest ≠ ['?']) (hplus : tokenOf rest ≠ ['+'])
    (hf : (regexChars d).length + n ≤ fuel) :
    ∃ fuel', n ≤ fuel' ∧ (sequence true flags first parts fuel).run c =
      (sequence true flags first (part flags d :: parts) fuel').run { c with rest } := by
  by_cases hstar : d = '*'
  · subst hstar
    change 2 + n ≤ fuel at hf
    obtain ⟨fuel, rfl⟩ : ∃ m, fuel = m + 2 := ⟨fuel - 2, by omega⟩
    refine ⟨fuel, by omega, ?_⟩
    change c.rest = '.' :: '*' :: rest at hc
    rw [sequence_any hv hc (by simp), sequence_star hv rfl hr hmark hplus, part, if_pos rfl]
  by_cases hany : d = '?'
  · subst hany
    change 1 + n ≤ fuel at hf
    obtain ⟨fuel, rfl⟩ : ∃ m, fuel = m + 1 := ⟨fuel - 1, by omega⟩
    refine ⟨fuel, by omega, ?_⟩
    rw [sequence_any hv hc hr]
    rfl
  rw [part, if_neg hstar, if_neg hany]
  rw [regexChars, if_neg hstar, if_neg hany] at hc hf
  by_cases hs : isSpecial d = true
  · rw [if_pos hs] at hc hf
    change 2 + n ≤ fuel at hf
    obtain ⟨fuel, rfl⟩ : ∃ m, fuel = m + 1 := ⟨fuel - 1, by omega⟩
    exact ⟨fuel, by omega, sequence_escaped hs hc hr⟩
  · rw [if_neg hs] at hc hf
    change 1 + n ≤ fuel at hf
    obtain ⟨fuel, rfl⟩ : ∃ m, fuel = m + 1 := ⟨fuel - 1, by omega⟩
    exact ⟨fuel, by omega, sequence_char (by simpa using hs) hv hc hr⟩

theorem sequence_flatMap (hv : flags.verbose = false) (first : Bool) (pattern : List Char) :
    ∀ (parts : List Part) (fuel : Nat) (c : Cursor), c.rest = pattern.flatMap regexChars →
      (pattern.flatMap regexChars).length < fuel →
      (sequence true flags first parts fuel).run c =
        .ok (joined ((pattern.map (part flags)).reverse ++ parts), { c with rest := [] }) := by
  induction pattern with
  | nil =>
    intro parts fuel c hc hf
    obtain ⟨fuel, rfl⟩ : ∃ m, fuel = m + 1 := ⟨fuel - 1, by omega⟩
    have ht : tokenOf c.rest = [] := by rw [hc]; rfl
    rw [Regex.sequence, run_bind_of_ok (peek_run c), ht]
    obtain ⟨rest, widths, names, lookBehind, asked, own⟩ := c
    obtain rfl : rest = [] := hc
    rfl
  | cons d ds ih =>
    intro parts fuel c hc hf
    rw [List.flatMap_cons] at hc hf
    have hfuel : (regexChars d).length + ((ds.flatMap regexChars).length + 1) ≤ fuel := by
      rw [List.length_append] at hf
      omega
    obtain ⟨fuel', hle, hstep⟩ := sequence_regexChars hv first parts hc
      (flatMap_ne_backslash ds) (tokenOf_flatMap_ne (by decide) (by decide) ds)
      (tokenOf_flatMap_ne (by decide) (by decide) ds) hfuel
    rw [hstep, ih _ _ _ rfl (by omega)]
    simp

end Reader

theorem fault?_expr (flags : Flags) (pattern : List Char) :
    (expr flags pattern).fault? false = none := by
  induction pattern with
  | nil => rfl
  | cons c cs ih =>
    have hc : ((part flags c).expr).fault? false = none := by
      rw [part]
      split
      · rfl
      split <;> rfl
    rw [expr, List.foldr_cons, Expr.fault?, hc]
    exact ih

/-- Every wildcard pattern is written as a regular expression, and it is this one. -/
theorem parse_regexText {flags : Flags} (hv : flags.verbose = false)
    (ht : flags.template = false) (ha : flags.ascii = false) (pattern : String) :
    parse flags (regexText pattern).toList = .ok (expr flags pattern.toList) := by
  have htext : (regexText pattern).toList = pattern.toList.flatMap regexChars := by
    rw [regexText, String.toList_ofList]
  rw [htext]
  generalize pattern.toList = cs
  let start : Cursor := { rest := cs.flatMap regexChars, flags }
  let done : Cursor := { rest := [], flags }
  have hparts : (sequence true flags true [] (2 * start.rest.length + 3)).run start =
      .ok (expr flags cs, done) := by
    rw [sequence_flatMap hv true cs [] _ start rfl (by simp only [start]; omega), List.append_nil,
      joined_parts]
  have halternatives : (alternatives true flags true (2 * start.rest.length + 4)).run start =
      .ok (expr flags cs, done) := by
    rw [alternatives, run_bind_of_ok hparts,
      run_bind_of_ok (accept_run_of_ne (by simp [done, tokenOf]))]
    rfl
  have hwhole : wholePattern.run start = .ok (expr flags cs, done) := by
    rw [wholePattern, run_bind_of_ok (get_run start),
      run_bind_of_ok (moveTo_run (flatMap_ne_backslash cs) start),
      run_bind_of_ok (get_run start), run_bind_of_ok (left_run start),
      run_bind_of_ok halternatives, run_bind_of_ok (get_run done)]
    simp only [done, ha, ht, fault?_expr, List.find?_nil]
    rfl
  rw [parse, hwhole]
  rfl

end Detour.Wildcard
