import Detour.Proofs.Pattern.Reading
import Mathlib.Data.List.Forall2

/-!
# What a wildcard pattern matches

`Covers` says that a text can be cut into pieces that the characters of a pattern take one by one.
The regular expression of a pattern matches exactly the texts that the pattern covers: a greedy
star, which gives back one character after the other, reaches every cut there is.
-/
namespace Detour.Wildcard
open Regex

/-- What one character of a pattern takes of a text. -/
inductive Takes : Char → List Char → Prop
  | run (piece : List Char) : Takes '*' piece
  | one (d : Char) : Takes '?' [d]
  | letter {c d : Char} (hstar : c ≠ '*') (hmark : c ≠ '?') (h : Text.sameLetter c d = true) :
    Takes c [d]

/-- The text can be cut into consecutive pieces, one for each character of the pattern. -/
def Covers (pattern text : List Char) : Prop :=
  ∃ pieces, List.Forall₂ Takes pattern pieces ∧ pieces.flatten = text

theorem takes_mark {piece : List Char} : Takes '?' piece ↔ ∃ d, piece = [d] := by
  constructor
  · rintro (_ | d | ⟨-, hmark, -⟩)
    · exact ⟨d, rfl⟩
    · exact absurd rfl hmark
  · rintro ⟨d, rfl⟩
    exact .one d

theorem takes_letter {c : Char} (hstar : c ≠ '*') (hmark : c ≠ '?') {piece : List Char} :
    Takes c piece ↔ ∃ d, piece = [d] ∧ Text.sameLetter c d = true := by
  constructor
  · rintro (_ | _ | ⟨-, -, h⟩)
    · exact absurd rfl hstar
    · exact absurd rfl hmark
    · exact ⟨_, rfl, h⟩
  · rintro ⟨d, rfl, h⟩
    exact .letter hstar hmark h

theorem covers_nil {text : List Char} : Covers [] text ↔ text = [] := by
  constructor
  · rintro ⟨pieces, h, rfl⟩
    cases h
    rfl
  · rintro rfl
    exact ⟨[], .nil, rfl⟩

theorem covers_cons {c : Char} {cs text : List Char} :
    Covers (c :: cs) text ↔
      ∃ n ≤ text.length, Takes c (text.take n) ∧ Covers cs (text.drop n) := by
  constructor
  · rintro ⟨_, h, rfl⟩
    obtain ⟨piece, pieces, hc, hcs, rfl⟩ := List.forall₂_cons_left_iff.mp h
    refine ⟨piece.length, by simp, ?_, pieces, hcs, ?_⟩
    · simpa using hc
    · simp
  · rintro ⟨n, -, hc, pieces, hcs, htext⟩
    refine ⟨text.take n :: pieces, .cons hc hcs, ?_⟩
    rw [List.flatten_cons, htext, List.take_append_drop]

theorem forward_zero (s : Spot) : s.forward 0 = s := rfl

theorem forward_one (before : List Char) (c : Char) (cs : List Char)
    (groups : List (Nat × List Char)) :
    Spot.forward 1 ⟨before, c :: cs, groups⟩ = ⟨c :: before, cs, groups⟩ := rfl

theorem forward_succ (n : Nat) (before : List Char) (c : Char) (cs : List Char)
    (groups : List (Nat × List Char)) :
    Spot.forward (n + 1) ⟨before, c :: cs, groups⟩ = Spot.forward n ⟨c :: before, cs, groups⟩ := by
  simp [Spot.forward]

theorem forward_after (n : Nat) (s : Spot) : (s.forward n).after = s.after.drop n := rfl

theorem exists_forward {P : Spot → Prop} {before cs : List Char} {c : Char}
    {groups : List (Nat × List Char)} :
    (∃ n ≤ (c :: cs).length, P (Spot.forward n ⟨before, c :: cs, groups⟩)) ↔
      P ⟨before, c :: cs, groups⟩ ∨
        ∃ n ≤ cs.length, P (Spot.forward n ⟨c :: before, cs, groups⟩) := by
  constructor
  · rintro ⟨n, hn, hk⟩
    cases n with
    | zero => exact .inl hk
    | succ n => exact .inr ⟨n, by simpa using hn, by rwa [forward_succ] at hk⟩
  · rintro (hk | ⟨n, hn, hk⟩)
    · exact ⟨0, Nat.zero_le _, hk⟩
    · exact ⟨n + 1, by simpa using hn, by rwa [forward_succ]⟩

theorem isSome_run_one (t : CharTest) (s : Spot) (k : Rest) :
    ((Expr.one t).run s k).isSome = true ↔
      ∃ n ≤ s.after.length, (∃ d, s.after.take n = [d] ∧ t.holds d = true) ∧
        (k (s.forward n)).isSome = true := by
  obtain ⟨before, after, groups⟩ := s
  cases after with
  | nil => simp [Expr.run]
  | cons c cs =>
    constructor
    · intro h
      by_cases hc : t.holds c = true
      · exact ⟨1, by simp, ⟨c, rfl, hc⟩, by simpa [Expr.run, hc, forward_one] using h⟩
      · simp [Expr.run, hc] at h
    · rintro ⟨n, hn, ⟨d, hd, ht⟩, hk⟩
      obtain rfl : n = 1 := by
        have := congrArg List.length hd
        rw [List.length_take, List.length_singleton] at this
        omega
      obtain rfl : c = d := by simpa using hd
      simpa [Expr.run, ht, forward_one] using hk

theorem isSome_greedyRounds_succ (body : Run) (k : Rest) (fuel : Nat) {last : Option Nat} {s : Spot}
    (hl : last ≠ some s.after.length) :
    (greedyRounds body k (fuel + 1) 0 none last s).isSome = true ↔
      (body s fun t => greedyRounds body k fuel 0 none (some s.after.length) t).isSome = true ∨
        (k s).isSome = true := by
  have hgo : (last != some s.after.length) = true := by simpa using hl
  rw [greedyRounds, if_neg (Nat.lt_irrefl 0), if_pos (by simpa using hgo)]
  simp only [Option.map_none]
  split
  case h_1 t ht => simp [ht]
  case h_2 ht => simp [ht]

/-- Greedy rounds over any character reach each place ahead, the farthest one first. -/
theorem isSome_greedyRounds (k : Rest) (groups : List (Nat × List Char)) (after : List Char) :
    ∀ (before : List Char) (fuel : Nat) (last : Option Nat), after.length < fuel →
      last ≠ some after.length →
      ((greedyRounds (Expr.one (.any true)).run k fuel 0 none last ⟨before, after, groups⟩).isSome
          = true ↔
        ∃ n ≤ after.length, (k (Spot.forward n ⟨before, after, groups⟩)).isSome = true) := by
  induction after with
  | nil =>
    intro before fuel last hf hl
    obtain ⟨fuel, rfl⟩ : ∃ m, fuel = m + 1 := ⟨fuel - 1, by omega⟩
    rw [isSome_greedyRounds_succ _ _ _ hl, isSome_run_one]
    simp [forward_zero]
  | cons c cs ih =>
    intro before fuel last hf hl
    obtain ⟨fuel, rfl⟩ : ∃ m, fuel = m + 1 := ⟨fuel - 1, by omega⟩
    have hrounds := ih (c :: before) fuel (some (c :: cs).length)
      (by simpa using hf) (by simp)
    rw [isSome_greedyRounds_succ _ _ _ hl, exists_forward (P := fun s => (k s).isSome = true),
      ← hrounds, or_comm]
    rfl

/-- A part takes what the character behind it takes, and leaves the rest to what follows. -/
theorem isSome_run_part (c : Char) (s : Spot) (k : Rest) :
    ((part Matcher.wildcardFlags c).expr.run s k).isSome = true ↔
      ∃ n ≤ s.after.length, Takes c (s.after.take n) ∧ (k (s.forward n)).isSome = true := by
  rw [part]
  by_cases hstar : c = '*'
  · subst hstar
    have hrounds := isSome_greedyRounds k s.groups s.after s.before (0 + s.after.length + 2) none
      (by omega) (by simp)
    rw [if_pos rfl]
    refine hrounds.trans ?_
    simp only [Takes.run, true_and]
  by_cases hmark : c = '?'
  · subst hmark
    rw [if_neg hstar, if_pos rfl, Part.expr, isSome_run_one]
    simp only [takes_mark, CharTest.holds, Matcher.wildcardFlags, Bool.true_or, and_true]
  · rw [if_neg hstar, if_neg hmark, Part.expr, isSome_run_one]
    simp only [takes_letter hstar hmark, CharTest.holds, Bool.bne_false]
    exact Iff.rfl

theorem matchesAll_expr (pattern text : List Char) :
    (expr Matcher.wildcardFlags pattern).matchesAll text = true ↔ Covers pattern text := by
  have hrun : ∀ s : Spot, ((expr Matcher.wildcardFlags pattern).run s fun t =>
      if t.after.isEmpty then some t else none).isSome = true ↔ Covers pattern s.after := by
    induction pattern with
    | nil =>
      intro s
      rw [covers_nil]
      cases h : s.after <;> simp [expr, Expr.run, h]
    | cons c cs ih =>
      intro s
      rw [covers_cons]
      change ((part Matcher.wildcardFlags c).expr.run s fun t =>
        (expr Matcher.wildcardFlags cs).run t _).isSome = true ↔ _
      rw [isSome_run_part]
      simp only [ih, forward_after]
  exact hrun (.start text)

/-- A wildcard pattern is always written as a regular expression that can be read, with or without
the flags it is used with, and the test made of it holds of exactly the texts that it covers. -/
theorem wildcard_test_iff_covers (pattern : String) :
    (∃ e, parse {} (regexText pattern).toList = .ok e) ∧
      ∃ e, parse Matcher.wildcardFlags (regexText pattern).toList = .ok e ∧
        Matcher.ofPattern .wildcard pattern = .ok (.wildcard e) ∧
        ∀ url : String, (Matcher.wildcard e).test url = true ↔
          Covers pattern.toList url.toList := by
  refine ⟨⟨_, parse_regexText rfl rfl rfl pattern⟩, ?_⟩
  have hparse : parse Matcher.wildcardFlags (regexText pattern).toList = .ok _ :=
    parse_regexText rfl rfl rfl pattern
  refine ⟨_, hparse, ?_, fun url => matchesAll_expr pattern.toList url.toList⟩
  rw [Matcher.ofPattern, hparse]
  rfl

end Detour.Wildcard
