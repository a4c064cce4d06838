import Detour.Proofs.Rule.Selection

/-!
# Reading a collection of rules

A collection is read entry by entry. The well-formed entries, and no others, become rules, in their
order; each of the others is reported once, by its index (`readAll_keeps_wellFormed`).
-/
namespace Detour.Rule

/-- A mapping with the four texts of a rule, one of them a match type and the pattern not empty. -/
def WellFormed (v : Value) : Prop :=
  ∃ entries, v = .map entries ∧
    (∃ name, Value.field? "name" entries = some (.str name)) ∧
    (∃ kind ∈ ["contains", "wildcard", "regex"],
      Value.field? "matchType" entries = some (.str kind)) ∧
    (∃ pattern, Value.field? "matchPattern" entries = some (.str pattern) ∧ pattern ≠ "") ∧
    ∃ target, Value.field? "redirectUrl" entries = some (.str target)

/-- The well-formed values are those that describe a rule. -/
theorem wellFormed_iff {v : Value} : WellFormed v ↔ ∃ r, Describes v r := by
  constructor
  · rintro ⟨entries, rfl, ⟨name, hname⟩, ⟨kindName, hmem, hkind⟩, ⟨pattern, hpattern, hp⟩,
      target, htarget⟩
    obtain ⟨kind, rfl⟩ : ∃ kind : MatchKind, kind.name = kindName := by
      simp only [List.mem_cons, List.not_mem_nil, or_false] at hmem
      rcases hmem with rfl | rfl | rfl
      · exact ⟨.contains, rfl⟩
      · exact ⟨.wildcard, rfl⟩
      · exact ⟨.regex, rfl⟩
    let enabled := ((Value.field? "enabled" entries).map Value.isTrue).getD false
    exact ⟨⟨name, kind, pattern, target, enabled⟩, entries, rfl, hname, hkind, hpattern, hp,
      htarget, enabled_iff⟩
  · rintro ⟨r, entries, rfl, hname, hkind, hpattern, hp, htarget, -⟩
    refine ⟨entries, rfl, ⟨_, hname⟩, ⟨_, ?_, hkind⟩, ⟨_, hpattern, hp⟩, _, htarget⟩
    cases r.kind <;> simp [MatchKind.name]

theorem wellFormed_of_ok {v : Value} {r : Rule} (h : ofState v = .ok r) : WellFormed v :=
  wellFormed_iff.mpr ⟨r, ofState_eq_ok_iff.mp h⟩

theorem not_wellFormed_of_error {v : Value} {f : Fault} (h : ofState v = .error f) :
    ¬ WellFormed v := by
  rw [wellFormed_iff]
  rintro ⟨r, hr⟩
  rw [ofState_eq_ok_iff.mpr hr] at h
  cases h

instance : DecidablePred WellFormed := fun v =>
  match h : ofState v with
  | .ok _ => isTrue (wellFormed_of_ok h)
  | .error _ => isFalse (not_wellFormed_of_error h)

/-- The entries that are not well-formed, with their indices from the first one's on. -/
def malformedFrom (index : Nat) (vs : List Value) : List (Value × Nat) :=
  (vs.zipIdx index).filter fun e => ¬ WellFormed e.1

/-- A report of an entry at its index, with the reason for which the entry is no rule. -/
def Reports (e : Value × Nat) (s : Skipped) : Prop :=
  s.index = e.2 ∧ ofState e.1 = .error s.fault

theorem readFrom_rules (index : Nat) (vs : List Value) :
    List.Forall₂ Describes (vs.filter WellFormed) (readFrom index vs).1 := by
  induction vs generalizing index with
  | nil => exact .nil
  | cons v rest ih =>
    cases hv : ofState v with
    | ok r =>
      have hkeep : (v :: rest).filter WellFormed = v :: rest.filter WellFormed := by
        simp [wellFormed_of_ok hv]
      simp only [readFrom, hv, hkeep]
      exact .cons (ofState_eq_ok_iff.mp hv) (ih _)
    | error f =>
      have hskip : (v :: rest).filter WellFormed = rest.filter WellFormed := by
        simp [not_wellFormed_of_error hv]
      simp only [readFrom, hv, hskip]
      exact ih _

theorem readFrom_skipped (index : Nat) (vs : List Value) :
    List.Forall₂ Reports (malformedFrom index vs) (readFrom index vs).2 := by
  induction vs generalizing index with
  | nil => exact .nil
  | cons v rest ih =>
    cases hv : ofState v with
    | ok r =>
      have hkeep : malformedFrom index (v :: rest) = malformedFrom (index + 1) rest := by
        simp [malformedFrom, wellFormed_of_ok hv]
      simp only [readFrom, hv, hkeep]
      exact ih _
    | error f =>
      have hskip : malformedFrom index (v :: rest) =
          (v, index) :: malformedFrom (index + 1) rest := by
        simp [malformedFrom, not_wellFormed_of_error hv]
      simp only [readFrom, hv, hskip]
      exact .cons ⟨rfl, hv⟩ (ih _)

/-- A missing collection has no entries, and a list has its own, whatever they are. Its well-formed
entries become the rules that they describe, one for each and in order; each other entry is reported
once, in order and by its own index. -/
theorem readAll_keeps_wellFormed (vs : List Value) :
    entries? .null = some [] ∧ entries? (.list vs) = some vs ∧
      ∃ rules skipped, readAll vs = (rules, skipped) ∧
        List.Forall₂ Describes (vs.filter WellFormed) rules ∧
        List.Forall₂ Reports (vs.zipIdx.filter fun e => ¬ WellFormed e.1) skipped ∧
        ∀ s ∈ skipped, s.message =
          "Skipping malformed rule #" ++ toString s.index ++ ": " ++ s.fault.message :=
  ⟨rfl, rfl, _, _, rfl, readFrom_rules 0 vs, readFrom_skipped 0 vs, fun _ _ => rfl⟩

end Detour.Rule
