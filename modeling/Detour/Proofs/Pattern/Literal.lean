import Detour.Proofs.Pattern.Wildcard
import Mathlib.Data.List.Infix

/-!
# Literal patterns

A text without stars and question marks can be looked for by a pattern of each kind: as it is, as a
wildcard pattern between two stars, or written as a regular expression. Among ASCII characters the
three tests say the same, namely that the text stands somewhere in the URL when letter case is put
aside (`Occurs`); so changing the case of letters changes none of them.
-/
namespace Detour
open Text

namespace Text

variable {c d : Char}

/-- What can be checked of the characters one by one holds of each. -/
theorem of_isAscii {P : Char → Prop} (h : ∀ n < 128, P (Char.ofNat n)) (hc : isAscii c = true) :
    P c := by
  have hlow : c.toNat < 128 := by simpa [isAscii] using hc
  simpa [Char.ofNat_toNat] using h c.toNat hlow

theorem toNat_asciiLower_lt (hc : isAscii c = true) : (asciiLower c).toNat < 128 :=
  of_isAscii (P := fun c => (asciiLower c).toNat < 128) (by decide) hc

theorem asciiLower_idem (hc : isAscii c = true) : asciiLower (asciiLower c) = asciiLower c :=
  of_isAscii (P := fun c => asciiLower (asciiLower c) = asciiLower c) (by decide) hc

theorem asciiLower_asciiUpper (hc : isAscii c = true) :
    asciiLower (asciiUpper c) = asciiLower c :=
  of_isAscii (P := fun c => asciiLower (asciiUpper c) = asciiLower c) (by decide) hc

theorem lowerChar_of_isAscii (hc : isAscii c = true) : lowerChar c = asciiLower c := by
  have hlow : c.toNat < 128 := by simpa [isAscii] using hc
  simp [lowerChar, asciiLower, hlow]

/-- Lower-case letters of ASCII share their capitals with none but letters beyond ASCII. -/
theorem le_of_mem_siblings {n m : Nat} (hn : n < 128) (hm : m ∈ siblings n) : 128 ≤ m := by
  have hbeyond : ∀ e ∈ sharedCapitals, e.1 < 128 → ∀ m ∈ e.2, 128 ≤ m := by decide
  unfold siblings at hm
  cases hfind : sharedCapitals.find? (·.1 = n) with
  | none => simp [hfind] at hm
  | some e =>
    have hfirst : e.1 = n := by simpa using List.find?_some hfind
    rw [hfind] at hm
    exact hbeyond e (List.mem_of_find?_eq_some hfind) (by omega) m hm

theorem sameLetter_iff (hc : isAscii c = true) (hd : isAscii d = true) :
    sameLetter c d = true ↔ asciiLower c = asciiLower d := by
  rw [sameLetter, lowerChar_of_isAscii hc, lowerChar_of_isAscii hd, Bool.or_eq_true,
    decide_eq_true_eq, List.contains_iff_mem, or_iff_left]
  intro hsibling
  have hbeyond := le_of_mem_siblings (toNat_asciiLower_lt hc) hsibling
  have hlow := toNat_asciiLower_lt hd
  omega

theorem lowerChars_of_isAscii {cs : List Char} (h : ∀ c ∈ cs, isAscii c = true) :
    lowerChars cs = cs.map asciiLower := by
  have hgo : ∀ before, lowerAfter before cs = cs.map asciiLower := by
    induction cs with
    | nil => exact fun _ => rfl
    | cons c rest ih =>
      intro before
      have hc := h c (by simp)
      have hsigma : c ≠ 'Σ' := by
        rintro rfl
        cases hc
      have hdotted : c ≠ 'İ' := by
        rintro rfl
        cases hc
      rw [lowerAfter, if_neg hsigma, if_neg hdotted, lowerChar_of_isAscii hc,
        ih (fun d hd => h d (by simp [hd]))]
      rfl
  exact hgo []

theorem isInfix_iff {needle text : List Char} : isInfix needle text = true ↔ needle <:+: text := by
  induction text with
  | nil => simp [isInfix]
  | cons c cs ih =>
    rw [isInfix, Bool.or_eq_true, List.isPrefixOf_iff_prefix, ih, List.infix_cons_iff]

end Text

/-- The text stands somewhere in the other one when the case of letters is put aside. -/
def Occurs (needle text : List Char) : Prop :=
  needle.map asciiLower <:+: text.map asciiLower

def HasPiece (needle text : List Char) : Prop :=
  ∃ before piece later, text = before ++ (piece ++ later) ∧
    List.Forall₂ (fun c d => sameLetter c d = true) needle piece

theorem forall₂_sameLetter_iff {cs ds : List Char} (hcs : ∀ c ∈ cs, isAscii c = true)
    (hds : ∀ d ∈ ds, isAscii d = true) :
    List.Forall₂ (fun c d => sameLetter c d = true) cs ds ↔
      cs.map asciiLower = ds.map asciiLower := by
  induction cs generalizing ds with
  | nil => cases ds <;> simp
  | cons c cs ih =>
    cases ds with
    | nil => simp
    | cons d ds =>
      rw [List.forall₂_cons, sameLetter_iff (hcs c (by simp)) (hds d (by simp)),
        ih (fun e he => hcs e (by simp [he])) (fun e he => hds e (by simp [he]))]
      simp

theorem hasPiece_iff_occurs {needle text : List Char} (hneedle : ∀ c ∈ needle, isAscii c = true)
    (htext : ∀ c ∈ text, isAscii c = true) : HasPiece needle text ↔ Occurs needle text := by
  constructor
  · rintro ⟨before, piece, later, rfl, hpiece⟩
    have hascii : ∀ c ∈ piece, isAscii c = true := fun c hc => htext c (by simp [hc])
    refine ⟨before.map asciiLower, later.map asciiLower, ?_⟩
    rw [(forall₂_sameLetter_iff hneedle hascii).mp hpiece]
    simp
  · rintro ⟨before, later, htext'⟩
    obtain ⟨front, later, rfl, hfront, -⟩ := List.map_eq_append_iff.mp htext'.symm
    obtain ⟨before, piece, rfl, -, hpiece⟩ := List.map_eq_append_iff.mp hfront
    have hascii : ∀ c ∈ piece, isAscii c = true := fun c hc => htext c (by simp [hc])
    exact ⟨before, piece, later, by simp,
      (forall₂_sameLetter_iff hneedle hascii).mpr hpiece.symm⟩

theorem contains_test_iff {needle text : String} (hneedle : ∀ c ∈ needle.toList, isAscii c = true)
    (htext : ∀ c ∈ text.toList, isAscii c = true) :
    (Matcher.contains (lowerChars needle.toList)).test text = true ↔
      Occurs needle.toList text.toList := by
  rw [Matcher.test, isInfix_iff, lowerChars_of_isAscii hneedle, lowerChars_of_isAscii htext]
  rfl

namespace Wildcard
open Regex

/-- A character that stands for itself in a wildcard pattern. -/
def IsLiteral (c : Char) : Prop := c ≠ '*' ∧ c ≠ '?'

variable {c : Char} {needle text : List Char}

theorem covers_star {cs : List Char} :
    Covers ('*' :: cs) text ↔ ∃ before rest, text = before ++ rest ∧ Covers cs rest := by
  constructor
  · rintro ⟨_, h, rfl⟩
    obtain ⟨piece, pieces, -, hcs, rfl⟩ := List.forall₂_cons_left_iff.mp h
    exact ⟨piece, pieces.flatten, rfl, pieces, hcs, rfl⟩
  · rintro ⟨before, _, rfl, pieces, hcs, rfl⟩
    exact ⟨before :: pieces, .cons (.run before) hcs, rfl⟩

theorem covers_letter {cs : List Char} (hc : IsLiteral c) :
    Covers (c :: cs) text ↔
      ∃ d rest, text = d :: rest ∧ sameLetter c d = true ∧ Covers cs rest := by
  constructor
  · rintro ⟨_, h, rfl⟩
    obtain ⟨piece, pieces, hpiece, hcs, rfl⟩ := List.forall₂_cons_left_iff.mp h
    obtain ⟨d, rfl, hsame⟩ := (takes_letter hc.1 hc.2).mp hpiece
    exact ⟨d, pieces.flatten, rfl, hsame, pieces, hcs, rfl⟩
  · rintro ⟨d, _, rfl, hsame, pieces, hcs, rfl⟩
    exact ⟨[d] :: pieces, .cons (.letter hc.1 hc.2 hsame) hcs, rfl⟩

/-- With a star behind it a literal pattern covers what begins with it. -/
theorem covers_literal_star (h : ∀ c ∈ needle, IsLiteral c) :
    Covers (needle ++ ['*']) text ↔ ∃ piece later, text = piece ++ later ∧
      List.Forall₂ (fun c d => sameLetter c d = true) needle piece := by
  induction needle generalizing text with
  | nil => simp [covers_star, covers_nil]
  | cons c cs ih =>
    rw [List.cons_append, covers_letter (h c (by simp))]
    simp only [ih fun d hd => h d (by simp [hd]), List.forall₂_cons_left_iff]
    constructor
    · rintro ⟨d, _, rfl, hsame, piece, later, rfl, hpiece⟩
      exact ⟨d :: piece, later, rfl, d, piece, hsame, hpiece, rfl⟩
    · rintro ⟨_, later, rfl, d, piece, hsame, hpiece, rfl⟩
      exact ⟨d, piece ++ later, rfl, hsame, piece, later, rfl, hpiece⟩

theorem covers_between_stars (h : ∀ c ∈ needle, IsLiteral c) :
    Covers ('*' :: (needle ++ ['*'])) text ↔ HasPiece needle text := by
  simp only [covers_star, covers_literal_star h]
  constructor
  · rintro ⟨before, _, rfl, piece, later, rfl, hpiece⟩
    exact ⟨before, piece, later, rfl, hpiece⟩
  · rintro ⟨before, piece, later, rfl, hpiece⟩
    exact ⟨before, _, rfl, piece, later, rfl, hpiece⟩

/-- The expression of a literal pattern takes a piece that is the pattern letter by letter. -/
theorem isSome_run_literal (h : ∀ c ∈ needle, IsLiteral c) (s : Spot) :
    ((expr Matcher.regexFlags needle).run s some).isSome = true ↔
      ∃ piece later, s.after = piece ++ later ∧
        List.Forall₂ (fun c d => sameLetter c d = true) needle piece := by
  induction needle generalizing s with
  | nil => simp [expr, Expr.run]
  | cons c cs ih =>
    obtain ⟨hstar, hmark⟩ := h c (by simp)
    have hrest : ∀ t, _ := ih fun d hd => h d (by simp [hd])
    have hpart : (part Matcher.regexFlags c).expr = .one (.char .fold false c) := by
      rw [part, if_neg hstar, if_neg hmark]
      rfl
    change ((part Matcher.regexFlags c).expr.run s fun t =>
      (expr Matcher.regexFlags cs).run t some).isSome = true ↔ _
    rw [hpart]
    obtain ⟨before, after, groups⟩ := s
    cases after with
    | nil => simp [Expr.run]
    | cons d ds =>
      by_cases hsame : sameLetter c d = true
      · simp [Expr.run, CharTest.holds, Letters.same, hsame, hrest, List.forall₂_cons_left_iff]
      · simp [Expr.run, CharTest.holds, Letters.same, hsame, List.forall₂_cons_left_iff]

theorem foundFrom_iff (e : Expr) (before text : List Char) :
    e.foundFrom before text = true ↔ ∃ passed rest, text = passed ++ rest ∧
      (e.run ⟨passed.reverse ++ before, rest, []⟩ some).isSome = true := by
  induction text generalizing before with
  | nil => simp [Expr.foundFrom]
  | cons c cs ih =>
    rw [Expr.foundFrom, Bool.or_eq_true, ih]
    constructor
    · rintro (h | ⟨passed, rest, rfl, h⟩)
      · exact ⟨[], c :: cs, rfl, h⟩
      · exact ⟨c :: passed, rest, rfl, by simpa using h⟩
    · rintro ⟨passed, rest, htext, h⟩
      cases passed with
      | nil =>
        obtain rfl : c :: cs = rest := htext
        exact .inl h
      | cons d passed =>
        obtain ⟨rfl, rfl⟩ : c = d ∧ cs = passed ++ rest := by simpa using htext
        exact .inr ⟨passed, rest, rfl, by simpa using h⟩

theorem foundIn_literal (h : ∀ c ∈ needle, IsLiteral c) :
    (expr Matcher.regexFlags needle).foundIn text = true ↔ HasPiece needle text := by
  simp only [Expr.foundIn, foundFrom_iff, isSome_run_literal h]
  constructor
  · rintro ⟨passed, _, rfl, piece, later, rfl, hpiece⟩
    exact ⟨passed, piece, later, rfl, hpiece⟩
  · rintro ⟨passed, piece, later, rfl, hpiece⟩
    exact ⟨passed, _, rfl, piece, later, rfl, hpiece⟩

end Wildcard

namespace Pattern
open Wildcard

/-- Each kind of pattern that looks for the text gives the answer, and nothing is noticed. -/
def AllAnswer (needle url : String) (answer : Bool) : Prop :=
  (compile (.str "contains") needle).test (some url) = (answer, []) ∧
  (compile (.str "wildcard") ("*" ++ needle ++ "*")).test (some url) = (answer, []) ∧
  (compile (.str "regex") (regexText needle)).test (some url) = (answer, [])

variable {needle url : String}

theorem test_of_ok {kind : MatchKind} {pattern : String} {m : Matcher}
    (h : Matcher.ofPattern kind pattern = .ok m) (url : String) :
    (compile (.str kind.name) pattern).test (some url) = (m.test url, []) := by
  have hkind : MatchKind.ofValue? (.str kind.name) = some kind := by cases kind <;> rfl
  simp only [compile, hkind, compileKind, h, Compiled.test]

theorem allAnswer_of_occurs (hneedle : ∀ c ∈ needle.toList, isAscii c = true ∧ IsLiteral c)
    (hurl : ∀ c ∈ url.toList, isAscii c = true) {answer : Bool}
    (hanswer : answer = true ↔ Occurs needle.toList url.toList) : AllAnswer needle url answer := by
  have hascii : ∀ c ∈ needle.toList, isAscii c = true := fun c hc => (hneedle c hc).1
  have hliteral : ∀ c ∈ needle.toList, IsLiteral c := fun c hc => (hneedle c hc).2
  have hpiece := hasPiece_iff_occurs hascii hurl
  have hsame : ∀ {m : Matcher}, (m.test url = true ↔ Occurs needle.toList url.toList) →
      (m.test url, ([] : List Notice)) = (answer, []) :=
    fun h => congrArg (·, []) (Bool.eq_iff_iff.mpr (h.trans hanswer.symm))
  have hwildcard : Matcher.ofPattern .wildcard ("*" ++ needle ++ "*") =
      .ok (.wildcard (expr Matcher.wildcardFlags ("*" ++ needle ++ "*").toList)) := by
    rw [Matcher.ofPattern, parse_regexText rfl rfl rfl]
    rfl
  have hregex : Matcher.ofPattern .regex (regexText needle) =
      .ok (.regex (expr Matcher.regexFlags needle.toList)) := by
    rw [Matcher.ofPattern, parse_regexText rfl rfl rfl]
    rfl
  have hcontains : Matcher.ofPattern .contains needle =
      .ok (.contains (Text.lowerChars needle.toList)) := rfl
  have hstars : ("*" ++ needle ++ "*").toList = '*' :: (needle.toList ++ ['*']) := by simp
  refine ⟨(test_of_ok hcontains url).trans (hsame ?_),
    (test_of_ok hwildcard url).trans (hsame ?_), (test_of_ok hregex url).trans (hsame ?_)⟩
  · exact contains_test_iff hascii hurl
  · rw [hstars]
    exact (matchesAll_expr _ _).trans ((covers_between_stars hliteral).trans hpiece)
  · exact (foundIn_literal hliteral).trans hpiece

/-- The same character, or the same letter in lower or in upper case. -/
def Recases (c d : Char) : Prop := d = c ∨ d = asciiLower c ∨ d = asciiUpper c

abbrev Recased (cs ds : List Char) : Prop := List.Forall₂ Recases cs ds

theorem asciiLower_recases {c d : Char} (hc : isAscii c = true) (h : Recases c d) :
    asciiLower d = asciiLower c := by
  rcases h with rfl | rfl | rfl
  · rfl
  · exact asciiLower_idem hc
  · exact asciiLower_asciiUpper hc

theorem recases_ascii {c d : Char} (hc : isAscii c = true) (h : Recases c d) :
    isAscii d = true := by
  rcases h with rfl | rfl | rfl
  · exact hc
  · exact of_isAscii (P := fun c => isAscii (asciiLower c) = true) (by decide) hc
  · exact of_isAscii (P := fun c => isAscii (asciiUpper c) = true) (by decide) hc

theorem isLiteral_recases {c d : Char} (hc : isAscii c = true) (hliteral : IsLiteral c)
    (h : Recases c d) : IsLiteral d := by
  have hcases : ∀ {c : Char}, isAscii c = true → IsLiteral c →
      IsLiteral (asciiLower c) ∧ IsLiteral (asciiUpper c) := fun hc =>
    of_isAscii (P := fun c => IsLiteral c → IsLiteral (asciiLower c) ∧ IsLiteral (asciiUpper c))
      (by simp only [IsLiteral]; decide) hc
  rcases h with rfl | rfl | rfl
  · exact hliteral
  · exact (hcases hc hliteral).1
  · exact (hcases hc hliteral).2

theorem map_asciiLower_recased {cs ds : List Char} (hcs : ∀ c ∈ cs, isAscii c = true)
    (h : Recased cs ds) : ds.map asciiLower = cs.map asciiLower := by
  induction h with
  | nil => rfl
  | cons hcase _ ih =>
    rw [List.map_cons, List.map_cons, asciiLower_recases (hcs _ (by simp)) hcase,
      ih fun c hc => hcs c (by simp [hc])]

theorem exists_recases_of_mem {cs ds : List Char} (h : Recased cs ds) {d : Char} (hd : d ∈ ds) :
    ∃ c ∈ cs, Recases c d := by
  induction h with
  | nil => cases hd
  | @cons c e cs ds hcase _ ih =>
    rcases List.mem_cons.mp hd with rfl | hd
    · exact ⟨c, by simp, hcase⟩
    · obtain ⟨c', hc', hcase'⟩ := ih hd
      exact ⟨c', by simp [hc'], hcase'⟩

theorem occurs_recased {cs ds us vs : List Char} (hcs : ∀ c ∈ cs, isAscii c = true)
    (hus : ∀ c ∈ us, isAscii c = true) (hneedle : Recased cs ds) (htext : Recased us vs) :
    Occurs ds vs ↔ Occurs cs us := by
  rw [Occurs, Occurs, map_asciiLower_recased hcs hneedle, map_asciiLower_recased hus htext]

/-- A text of ASCII without stars and question marks is looked for alike by a pattern that contains
it, by a wildcard pattern between two stars and by the regular expression written for it: each says
whether the text occurs, and says the same when the case of letters is changed. -/
theorem literal_patterns_agree (hneedle : ∀ c ∈ needle.toList, isAscii c = true ∧ IsLiteral c)
    (hurl : ∀ c ∈ url.toList, isAscii c = true) :
    ∃ answer, (answer = true ↔ Occurs needle.toList url.toList) ∧ AllAnswer needle url answer ∧
      ∀ needle' url', Recased needle.toList needle'.toList → Recased url.toList url'.toList →
        AllAnswer needle' url' answer := by
  let answer := isInfix (needle.toList.map asciiLower) (url.toList.map asciiLower)
  have hanswer : answer = true ↔ Occurs needle.toList url.toList := isInfix_iff
  refine ⟨answer, hanswer, allAnswer_of_occurs hneedle hurl hanswer, ?_⟩
  intro needle' url' hneedle' hurl'
  refine allAnswer_of_occurs (fun d hd => ?_) (fun d hd => ?_) ?_
  · obtain ⟨c, hc, hcase⟩ := exists_recases_of_mem hneedle' hd
    obtain ⟨hascii, hliteral⟩ := hneedle c hc
    exact ⟨recases_ascii hascii hcase, isLiteral_recases hascii hliteral hcase⟩
  · obtain ⟨c, hc, hcase⟩ := exists_recases_of_mem hurl' hd
    exact recases_ascii (hurl c hc) hcase
  · exact hanswer.trans
      (occurs_recased (fun c hc => (hneedle c hc).1) hurl hneedle' hurl').symm

/-- Signs of regular expressions and line breaks stand for themselves in all three. -/
theorem literal_patterns_agree_on_signs :
    (∀ c ∈ "A.(b)\n".toList, isAscii c = true ∧ IsLiteral c) ∧
      (∀ c ∈ "http://x/a.(B)\n?".toList, isAscii c = true) ∧
      AllAnswer "A.(b)\n" "http://x/a.(B)\n?" true := by
  have hneedle : ∀ c ∈ "A.(b)\n".toList, isAscii c = true ∧ IsLiteral c := by
    simp [isAscii, IsLiteral]
  have hurl : ∀ c ∈ "http://x/a.(B)\n?".toList, isAscii c = true := by simp [isAscii]
  obtain ⟨answer, hanswer, hall, -⟩ := literal_patterns_agree hneedle hurl
  have hoccurs : Occurs "A.(b)\n".toList "http://x/a.(B)\n?".toList := isInfix_iff.mp (by decide)
  rw [hanswer.mpr hoccurs] at hall
  exact ⟨hneedle, hurl, hall⟩

end Pattern
end Detour
