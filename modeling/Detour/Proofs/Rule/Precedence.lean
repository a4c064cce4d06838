import Detour.Proofs.Rule.Selection
import Mathlib.Logic.Relation

/-!
# Order is the only precedence

Of a collection of rules only those count that apply to a URL (`Rule.Applies`), and the first of them
is selected. A rule that is disabled, or whose pattern is broken or does not hold, is inert
(`Rule.Inert`). Two collections have the same rules that apply in the same order exactly if one is
the other with inert rules put in, taken out and moved about (`Rule.rearranged_iff`), and then the
same rule is selected from both.
-/
namespace Detour.Rule

/-- The rule is enabled, and its pattern can be used and holds of the URL. -/
def Applies (url : Option String) (r : Rule) : Prop :=
  r.enabled = true ∧ ∃ u, url = some u ∧ r.Matches u

/-- The rule is disabled, or its pattern is broken, or there is no URL to look at, or the pattern
does not hold of it. -/
def Inert (url : Option String) (r : Rule) : Prop :=
  r.enabled = false ∨ (∃ f, Matcher.ofPattern r.kind r.pattern = .error f) ∨ url = none ∨
    ∃ u m, url = some u ∧ Matcher.ofPattern r.kind r.pattern = .ok m ∧ m.test u = false

variable {url : Option String} {r : Rule} {rules others : List Rule}

theorem not_matches?_none (r : Rule) : (r.matches? none).1 = false := by
  unfold matches? Pattern.compileKind
  cases Matcher.ofPattern r.kind r.pattern <;> rfl

theorem applies_iff : Applies url r ↔ (r.enabled && (r.matches? url).1) = true := by
  unfold Applies
  cases url with
  | none => simp [not_matches?_none]
  | some u => simp [matches?_iff]

instance (url : Option String) : DecidablePred (Applies url) :=
  fun _ => decidable_of_iff _ applies_iff.symm

theorem inert_iff : Inert url r ↔ ¬ Applies url r := by
  unfold Inert Applies Matches
  cases henabled : r.enabled with
  | false => simp
  | true =>
    cases url with
    | none => simp
    | some u =>
      cases hm : Matcher.ofPattern r.kind r.pattern with
      | error f => simp
      | ok m => simp

theorem select_eq_head?_filter (url : Option String) (rules : List Rule) :
    (select url rules).1 = (rules.filter (Applies url)).head? := by
  have happlies : (fun r => r.enabled && (r.matches? url).1) = fun r => decide (Applies url r) := by
    funext r
    rw [Bool.eq_iff_iff, decide_eq_true_iff, applies_iff]
  rw [select_eq_find?, happlies, List.head?_filter]

/-- One change to a collection: an inert rule is put in, taken out, or moved past its neighbour. -/
inductive Edit (url : Option String) : List Rule → List Rule → Prop
  | insert (before after : List Rule) (r : Rule) (h : Inert url r) :
    Edit url (before ++ after) (before ++ r :: after)
  | remove (before after : List Rule) (r : Rule) (h : Inert url r) :
    Edit url (before ++ r :: after) (before ++ after)
  | swap (before after : List Rule) (r s : Rule) (h : Inert url r ∨ Inert url s) :
    Edit url (before ++ r :: s :: after) (before ++ s :: r :: after)

def Rearranged (url : Option String) : List Rule → List Rule → Prop :=
  Relation.ReflTransGen (Edit url)

theorem filter_cons_of_inert (h : Inert url r) (rest : List Rule) :
    (r :: rest).filter (Applies url) = rest.filter (Applies url) := by
  have hnot : ¬ Applies url r := inert_iff.mp h
  simp [hnot]

theorem Edit.filter_eq (h : Edit url rules others) :
    rules.filter (Applies url) = others.filter (Applies url) := by
  cases h with
  | insert before after r h => rw [List.filter_append, List.filter_append, filter_cons_of_inert h]
  | remove before after r h => rw [List.filter_append, List.filter_append, filter_cons_of_inert h]
  | swap before after r s h =>
    have hpair : (r :: s :: after).filter (Applies url) = (s :: r :: after).filter (Applies url) := by
      have hone : ¬ Applies url r ∨ ¬ Applies url s := h.imp inert_iff.mp inert_iff.mp
      rcases hone with hone | hone
      · simp [List.filter_cons, hone]
      · simp [List.filter_cons, hone]
    rw [List.filter_append, List.filter_append, hpair]

theorem Edit.cons (h : Edit url rules others) (r : Rule) : Edit url (r :: rules) (r :: others) := by
  cases h with
  | insert before after s h => exact .insert (r :: before) after s h
  | remove before after s h => exact .remove (r :: before) after s h
  | swap before after s t h => exact .swap (r :: before) after s t h

theorem Rearranged.cons (h : Rearranged url rules others) (r : Rule) :
    Rearranged url (r :: rules) (r :: others) := by
  induction h with
  | refl => exact .refl
  | tail _ hedit ih => exact ih.tail (hedit.cons r)

/-- The inert rules can all be taken out, one after the other. -/
theorem rearranged_filter (url : Option String) (rules : List Rule) :
    Rearranged url rules (rules.filter (Applies url)) := by
  induction rules with
  | nil => exact .refl
  | cons r rest ih =>
    by_cases h : Applies url r
    · have hkept : (r :: rest).filter (Applies url) = r :: rest.filter (Applies url) := by simp [h]
      rw [hkept]
      exact ih.cons r
    · have hinert : Inert url r := inert_iff.mpr h
      rw [filter_cons_of_inert hinert]
      exact .head (.remove [] rest r hinert) ih

theorem Edit.symm (h : Edit url rules others) : Edit url others rules := by
  cases h with
  | insert before after r h => exact .remove before after r h
  | remove before after r h => exact .insert before after r h
  | swap before after r s h => exact .swap before after s r h.symm

theorem Rearranged.symm (h : Rearranged url rules others) : Rearranged url others rules := by
  induction h with
  | refl => exact .refl
  | tail _ hedit ih => exact .head hedit.symm ih

theorem rearranged_iff :
    Rearranged url rules others ↔
      rules.filter (Applies url) = others.filter (Applies url) := by
  constructor
  · intro h
    induction h with
    | refl => rfl
    | tail _ hedit ih => exact ih.trans hedit.filter_eq
  · intro h
    have hback : Rearranged url (others.filter (Applies url)) others :=
      (rearranged_filter url others).symm
    have hout : Rearranged url rules (rules.filter (Applies url)) := rearranged_filter url rules
    rw [h] at hout
    exact hout.trans hback

/-- The rule selected is the first of those that apply, if there is one. Two collections with the same
rules that apply are those that differ in inert rules only, however these are put in, taken out and
moved about, and the same rule is selected from both. -/
theorem selected_among_applying (url : Option String) (rules others : List Rule) :
    (select url rules).1 = (rules.filter (Applies url)).head? ∧
      (Rearranged url rules others ↔
        rules.filter (Applies url) = others.filter (Applies url)) ∧
      (Rearranged url rules others → (select url rules).1 = (select url others).1) := by
  refine ⟨select_eq_head?_filter url rules, rearranged_iff, fun h => ?_⟩
  rw [select_eq_head?_filter, select_eq_head?_filter, rearranged_iff.mp h]

end Detour.Rule
