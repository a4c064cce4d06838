import Detour.Decimal.Whole
import Mathlib.Data.Nat.Basic

/-!
# Whole numbers read back

A whole number in decimal reads back as the number (`Whole.readInt_toString`), unless its numeral has
more digits than numerals may have.
-/
namespace Detour

namespace Text

theorem code_of_isDigit {c : Char} (h : c.isDigit = true) : 48 ≤ c.toNat ∧ c.toNat ≤ 57 := by
  simpa [Char.isDigit, UInt32.le_iff_toNat_le] using h

theorem isAscii_of_isDigit {c : Char} (h : c.isDigit = true) : isAscii c = true := by
  have hcode := code_of_isDigit h
  simp only [isAscii, decide_eq_true_eq]
  omega

theorem digitValue?_of_isDigit {c : Char} (h : c.isDigit = true) :
    digitValue? c = some (c.toNat - '0'.toNat) := by
  have hdigit : isAsciiDigit c = true := by
    simpa [isAsciiDigit, Char.le_def, UInt32.le_iff_toNat_le] using code_of_isDigit h
  simp [digitValue?, isAscii_of_isDigit h, hdigit]

theorem isBlank_of_isDigit {c : Char} (h : c.isDigit = true) : isBlank c = false := by
  have hcode := code_of_isDigit h
  have hspace : c ≠ ' ' := by
    rintro rfl
    exact absurd hcode (by decide)
  simp only [isBlank, isAscii_of_isDigit h, if_true, hspace, decide_false, Bool.false_or,
    Bool.or_eq_false_iff, Bool.and_eq_false_iff, decide_eq_false_iff_not]
  omega

theorem trimBy_of_none {p : Char → Bool} {cs : List Char} (h : ∀ c ∈ cs, p c = false) :
    trimBy p cs = cs := by
  have hdrop : ∀ {ds : List Char}, (∀ c ∈ ds, p c = false) → ds.dropWhile p = ds := by
    intro ds hds
    cases ds with
    | nil => rfl
    | cons c rest => exact List.dropWhile_cons_of_neg (by simp [hds c])
  rw [trimBy, hdrop h, hdrop fun c hc => h c (List.mem_reverse.mp hc), List.reverse_reverse]

theorem trimNumeral_of_no_blank {cs : List Char} (h : ∀ c ∈ cs, isBlank c = false) :
    trimNumeral cs = cs :=
  trimBy_of_none fun c hc => by simp [h c hc]

end Text

namespace Whole

variable {cs : List Char}

theorem digits?_of_isDigit (hcs : cs ≠ []) (h : ∀ c ∈ cs, c.isDigit = true) :
    digits? cs = some (cs.map fun c => c.toNat - '0'.toNat) := by
  induction cs with
  | nil => exact absurd rfl hcs
  | cons c rest ih =>
    have hc := Text.digitValue?_of_isDigit (h c (by simp))
    cases rest with
    | nil => simp [digits?, hc]
    | cons d rest =>
      have hd : d ≠ '_' := by
        rintro rfl
        exact absurd (h '_' (by simp)) (by decide)
      have hlater := ih (by simp) fun c hc => h c (by simp [hc])
      simp [digits?, hc, hd, hlater]

theorem readNat_of_isDigit (hcs : cs ≠ []) (h : ∀ c ∈ cs, c.isDigit = true)
    (hlength : cs.length ≤ digitLimit) : readNat cs = .ok (Nat.ofDigitChars 10 cs 0) := by
  have hvalue : ofDigits 10 (cs.map fun c => c.toNat - '0'.toNat) = Nat.ofDigitChars 10 cs 0 := by
    rw [ofDigits, List.foldl_map, Nat.ofDigitChars_eq_foldl]
  have hshort : ¬ digitLimit < (cs.map fun c => c.toNat - '0'.toNat).length := by simpa using hlength
  rw [readNat, digits?_of_isDigit hcs h]
  simp only [if_neg hshort, hvalue]

theorem length_toDigits_le {n digits : Nat} (hdigits : 0 < digits) (h : n < Nat.pow 10 digits) :
    (Nat.toDigits 10 n).length ≤ digits :=
  (Nat.length_toDigits_le_iff (by decide) hdigits).mpr h

theorem readNat_toDigits {n : Nat} (h : n < Nat.pow 10 digitLimit) :
    readNat (Nat.toDigits 10 n) = .ok n := by
  have hdigits : ∀ c ∈ Nat.toDigits 10 n, c.isDigit = true := fun c hc =>
    Nat.isDigit_of_mem_toDigits (by decide) (by decide) hc
  have hlength := length_toDigits_le (by decide) h
  rw [readNat_of_isDigit Nat.toDigits_ne_nil hdigits hlength,
    Nat.ofDigitChars_toDigits (by decide) (by decide)]

theorem toList_toString (n : Int) :
    (toString n).toList = if 0 ≤ n then Nat.toDigits 10 n.natAbs
      else '-' :: Nat.toDigits 10 n.natAbs := by
  rw [Int.toString_eq_repr, Int.repr_eq_if]
  split
  · next h => rw [Nat.toList_repr, ← Int.natAbs_of_nonneg h, Int.toNat_natCast, Int.natAbs_natCast]
  · next h =>
    have habs : (-n).toNat = n.natAbs := by omega
    rw [habs, String.toList_append, Nat.toList_repr]
    rfl

theorem toString_ne_empty (n : Int) : toString n ≠ "" := by
  intro h
  have hnil : (toString n).toList = [] := by rw [h]; rfl
  rw [toList_toString] at hnil
  split at hnil
  · exact Nat.toDigits_ne_nil hnil
  · cases hnil

theorem readInt_of_minus {s : String} (h : Text.trimNumeral s.toList = '-' :: cs) :
    readInt s = (readNat cs).map fun n => -(n : Int) := by
  simp only [readInt, h]

theorem readInt_of_isDigit {s : String} (h : Text.trimNumeral s.toList = cs) (hcs : cs ≠ [])
    (hdigits : ∀ c ∈ cs, c.isDigit = true) : readInt s = (readNat cs).map fun n => (n : Int) := by
  cases cs with
  | nil => exact absurd rfl hcs
  | cons c rest =>
    have hc : c.isDigit = true := hdigits c (by simp)
    unfold readInt
    split
    · next heq =>
      obtain ⟨rfl, -⟩ := List.cons.inj (h.symm.trans heq)
      cases hc
    · next heq =>
      obtain ⟨rfl, -⟩ := List.cons.inj (h.symm.trans heq)
      cases hc
    · rw [h]

/-- A number in decimal reads back, if there are no more digits than a numeral may have. -/
theorem readInt_toString {n : Int} (h : n.natAbs < Nat.pow 10 digitLimit) :
    readInt (toString n) = .ok n := by
  have hdigit : ∀ c ∈ Nat.toDigits 10 n.natAbs, c.isDigit = true := fun c hc =>
    Nat.isDigit_of_mem_toDigits (by decide) (by decide) hc
  have hblank : ∀ c ∈ Nat.toDigits 10 n.natAbs, Text.isBlank c = false := fun c hc =>
    Text.isBlank_of_isDigit (hdigit c hc)
  have htext := toList_toString n
  by_cases hsign : 0 ≤ n
  · rw [if_pos hsign] at htext
    have htrim : Text.trimNumeral (toString n).toList = Nat.toDigits 10 n.natAbs := by
      rw [htext, Text.trimNumeral_of_no_blank hblank]
    rw [readInt_of_isDigit htrim Nat.toDigits_ne_nil hdigit, readNat_toDigits h]
    exact congrArg Except.ok (Int.natAbs_of_nonneg hsign)
  · rw [if_neg hsign] at htext
    have htrim : Text.trimNumeral (toString n).toList = '-' :: Nat.toDigits 10 n.natAbs := by
      rw [htext]
      refine Text.trimNumeral_of_no_blank fun c hc => ?_
      rcases List.mem_cons.mp hc with rfl | hc
      · rfl
      · exact hblank c hc
    have habs : -(n.natAbs : Int) = n := by omega
    rw [readInt_of_minus htrim, readNat_toDigits h]
    exact congrArg Except.ok habs

end Whole
end Detour
