import Detour.Failure
import Detour.Proofs.Pattern.LetterCase
import Detour.Proofs.Rule.Selection

/-!
# Rules that are checked when they are made

A rule is checked with another reading of its pattern than the one it is used with, and by other
handlers of what goes wrong. Both accept the same patterns (`Rule.checkExpression_eq`), so a rule
that passes the check can be used, and one that can be used is not refused for its pattern
(`Rule.validate_agrees`).
-/
namespace Detour

namespace Rule

variable {r : Rule}

def expressionFault (pattern : String) (f : Regex.Fault) : Fault :=
  if f.problem.isGrammatical then .badExpression pattern f else .unreadableExpression pattern f

/-- The check finds the fault that the pattern has in use. -/
theorem checkExpression_eq (r : Rule) :
    r.checkExpression = match Matcher.ofPattern r.kind r.pattern with
      | .ok _ => .ok ()
      | .error f => .error (expressionFault r.pattern f) := by
  unfold checkExpression Matcher.ofPattern
  cases r.kind with
  | contains => rfl
  | wildcard =>
    dsimp only
    rw [Wildcard.parse_regexText rfl rfl rfl]
    rfl
  | regex =>
    have hsame := Regex.parse_agrees (f := {}) (g := Matcher.regexFlags) rfl r.pattern.toList
    dsimp only
    cases hplain : Regex.parse {} r.pattern.toList with
    | ok e =>
      cases hfolded : Regex.parse Matcher.regexFlags r.pattern.toList with
      | ok e' => rfl
      | error f' =>
        rw [hplain, hfolded] at hsame
        cases hsame
    | error f =>
      cases hfolded : Regex.parse Matcher.regexFlags r.pattern.toList with
      | ok e' =>
        rw [hplain, hfolded] at hsame
        cases hsame
      | error f' =>
        rw [hplain, hfolded] at hsame
        cases hsame
        unfold expressionFault
        dsimp only [Except.map]
        split <;> rfl

theorem checkExpression_ok_iff :
    r.checkExpression = .ok () ↔ (Pattern.compileKind r.kind r.pattern).isNothing = false := by
  rw [checkExpression_eq, Pattern.compileKind]
  cases Matcher.ofPattern r.kind r.pattern <;> simp [Pattern.Compiled.isNothing]

theorem checkTarget_ok_iff :
    r.checkTarget = .ok () ↔ ∃ scheme authority, Url.split r.target = .ok (scheme, authority) ∧
      (scheme = "http" ∨ scheme = "https") ∧ authority ≠ "" := by
  unfold checkTarget
  cases Url.split r.target with
  | error f => simp
  | ok parts =>
    obtain ⟨scheme, authority⟩ := parts
    simp

/-- The pattern asks for more repetitions than can be counted. -/
def Excessive (r : Rule) : Prop :=
  ∃ left, Matcher.ofPattern r.kind r.pattern = .error ⟨.repetitionTooLarge, left⟩

/-- A broken expression is an invalid value, unless a number in it is too large. -/
theorem kind_expressionFault (pattern : String) (f : Regex.Fault) :
    (Failure.rule (expressionFault pattern f)).kind = "ValueError" ↔
      f.problem ≠ .repetitionTooLarge := by
  unfold expressionFault
  split
  · rename_i hgrammatical
    refine iff_of_true rfl fun h => ?_
    rw [h] at hgrammatical
    cases hgrammatical
  · rename_i hgrammatical
    change Failure.expressionKind f.problem = "ValueError" ↔ _
    by_cases hlarge : f.problem = .repetitionTooLarge
    · simp [hlarge, Failure.expressionKind]
    · refine iff_of_true ?_ hlarge
      unfold Failure.expressionKind
      split
      · contradiction
      · rw [if_neg hgrammatical]

theorem validate_of_pattern (h : r.pattern ≠ "") :
    r.validate = match r.checkExpression with
      | .ok _ => r.checkTarget
      | .error f => .error f := by
  rw [validate, if_neg h]
  cases r.checkExpression <;> rfl

theorem kind_of_checkTarget {f : Fault} (h : r.checkTarget = .error f) :
    (Failure.rule f).kind = "ValueError" := by
  unfold checkTarget at h
  split at h
  · cases h
    rfl
  · split at h <;> cases h
    rfl

/-- A rule passes the check exactly if it has a pattern, that pattern can be used, and the target is
a web address with a host. A check that fails reports an invalid value, unless there is a pattern
with more repetitions than can be counted. -/
theorem validate_agrees (r : Rule) :
    (r.validate = .ok () ↔ r.pattern ≠ "" ∧
      (Pattern.compileKind r.kind r.pattern).isNothing = false ∧
      ∃ scheme authority, Url.split r.target = .ok (scheme, authority) ∧
        (scheme = "http" ∨ scheme = "https") ∧ authority ≠ "") ∧
    ∀ f, r.validate = .error f →
      ((Failure.rule f).kind = "ValueError" ↔ ¬ (r.pattern ≠ "" ∧ r.Excessive)) := by
  by_cases hpattern : r.pattern = ""
  · have hempty : r.validate = .error .emptyPattern := by
      rw [validate, if_pos hpattern]
      rfl
    rw [hempty]
    refine ⟨by simp [hpattern], fun f hf => ?_⟩
    cases hf
    exact iff_of_true rfl fun h => h.1 hpattern
  have hvalidate := validate_of_pattern hpattern
  have hexpression := checkExpression_eq r
  rw [← checkExpression_ok_iff, ← checkTarget_ok_iff]
  unfold Excessive
  cases hmatcher : Matcher.ofPattern r.kind r.pattern with
  | ok m =>
    rw [hmatcher] at hexpression
    rw [hexpression] at hvalidate
    rw [hvalidate, hexpression]
    refine ⟨by simp [hpattern], fun f hf => iff_of_true (kind_of_checkTarget hf) ?_⟩
    rintro ⟨-, left, hlarge⟩
    cases hlarge
  | error fault =>
    rw [hmatcher] at hexpression
    rw [hexpression] at hvalidate
    rw [hvalidate, hexpression]
    refine ⟨by simp, fun f hf => ?_⟩
    cases hf
    rw [kind_expressionFault]
    obtain ⟨problem, left⟩ := fault
    simp [hpattern]

def tooMany : Rule := ⟨"many", .regex, "a\x7b4294967295\x7d", "https://example.org/", true⟩

/-- Its pattern cannot be used, and the check does not say that it is invalid. -/
theorem tooMany_overflows :
    (Pattern.compileKind tooMany.kind tooMany.pattern).isNothing = true ∧
      ∃ f, tooMany.validate = .error f ∧ (Failure.rule f).kind = "OverflowError" := by
  have hparse : Matcher.ofPattern tooMany.kind tooMany.pattern =
      .error ⟨.repetitionTooLarge, none⟩ := by decide +kernel
  have hvalidate : tooMany.validate =
      .error (.unreadableExpression tooMany.pattern ⟨.repetitionTooLarge, none⟩) := by
    rw [validate_of_pattern (by decide), checkExpression_eq, hparse]
    rfl
  refine ⟨by rw [Pattern.compileKind, hparse]; rfl, _, hvalidate, rfl⟩

end Rule
end Detour
