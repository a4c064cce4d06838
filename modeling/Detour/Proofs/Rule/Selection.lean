import Detour.Rule
import Mathlib.Data.List.Basic

/-!
# Which rule is applied

A stored value describes a rule (`Rule.Describes`), and an entry of a stored collection sends a URL
to another one if it describes an enabled rule that matches (`Rule.Sends`). Reading a collection and
selecting from it finds the first entry that sends the URL anywhere (`targetOf_readAll`), whatever
else is in the collection.
-/
namespace Detour

theorem ok_bind_iff {ε α β : Type} {x : Except ε α} {k : α → Except ε β} {b : β} :
    (x >>= k) = .ok b ↔ ∃ a, x = .ok a ∧ k a = .ok b := by
  cases x <;> simp [bind, Except.bind]

theorem MatchKind.ofName?_eq_some_iff {s : String} {k : MatchKind} :
    MatchKind.ofName? s = some k ↔ s = k.name := by
  constructor
  · intro h
    have hname := List.find?_some h
    exact (of_decide_eq_true hname).symm
  · rintro rfl
    cases k <;> rfl

theorem MatchKind.ofValue?_eq_some_iff {v : Value} {k : MatchKind} :
    MatchKind.ofValue? v = some k ↔ v = .str k.name := by
  cases v with
  | str s => simp [MatchKind.ofValue?, MatchKind.ofName?_eq_some_iff]
  | _ => simp [MatchKind.ofValue?]

namespace Rule

/-- A mapping that holds the parts of a rule. It is enabled by anything that counts as true. -/
def Describes (v : Value) (r : Rule) : Prop :=
  ∃ entries, v = .map entries ∧
    Value.field? "name" entries = some (.str r.name) ∧
    Value.field? "matchType" entries = some (.str r.kind.name) ∧
    Value.field? "matchPattern" entries = some (.str r.pattern) ∧ r.pattern ≠ "" ∧
    Value.field? "redirectUrl" entries = some (.str r.target) ∧
    (r.enabled = true ↔ ∃ flag, Value.field? "enabled" entries = some flag ∧ flag.isTrue = true)

theorem require_eq_ok_iff {field : Field} {entries : List (Value × Value)} {v : Value} :
    require field entries = .ok v ↔ Value.field? field.key entries = some v := by
  unfold require
  cases Value.field? field.key entries <;> simp

theorem text_eq_ok_iff {field : Field} {v : Value} {s : String} :
    text field v = .ok s ↔ v = .str s := by
  cases v <;> simp [text]

theorem enabled_iff {key : String} {entries : List (Value × Value)} :
    ((Value.field? key entries).map Value.isTrue).getD false = true ↔
      ∃ flag, Value.field? key entries = some flag ∧ flag.isTrue = true := by
  cases Value.field? key entries <;> simp

theorem ofState_eq_ok_iff {v : Value} {r : Rule} : ofState v = .ok r ↔ Describes v r := by
  cases v with
  | map entries =>
    simp only [ofState, ok_bind_iff, require_eq_ok_iff]
    constructor
    · rintro ⟨name, hname, kind, hkind, pattern, hpattern, target, htarget, h⟩
      cases hk : MatchKind.ofValue? kind with
      | none => simp [hk] at h
      | some k =>
        obtain rfl := MatchKind.ofValue?_eq_some_iff.mp hk
        simp only [hk, ok_bind_iff, text_eq_ok_iff] at h
        obtain ⟨n, rfl, p, rfl, t, rfl, h⟩ := h
        by_cases hp : p = ""
        · simp [hp] at h
        · rw [if_neg hp] at h
          cases h
          exact ⟨entries, rfl, hname, hkind, hpattern, hp, htarget, enabled_iff⟩
    · rintro ⟨entries', heq, hname, hkind, hpattern, hp, htarget, henabled⟩
      cases heq
      refine ⟨_, hname, _, hkind, _, hpattern, _, htarget, ?_⟩
      have hflag : ((Value.field? Field.enabled.key entries).map Value.isTrue).getD false =
          r.enabled := Bool.eq_iff_iff.mpr (enabled_iff.trans henabled.symm)
      simp only [MatchKind.ofValue?_eq_some_iff.mpr rfl, ok_bind_iff, text_eq_ok_iff]
      refine ⟨_, rfl, _, rfl, _, rfl, ?_⟩
      rw [if_neg hp, hflag]
      rfl
  | _ => simp [ofState, Describes]

def Matches (r : Rule) (url : String) : Prop :=
  ∃ m, Matcher.ofPattern r.kind r.pattern = .ok m ∧ m.test url = true

theorem matches?_iff {r : Rule} {url : String} :
    (r.matches? (some url)).1 = true ↔ r.Matches url := by
  unfold matches? Matches Pattern.compileKind
  cases Matcher.ofPattern r.kind r.pattern <;> simp [Pattern.Compiled.test]

/-- Of some rules the first one that is enabled and matches is selected. -/
theorem select_eq_find? (url : Option String) (rules : List Rule) :
    (select url rules).1 = rules.find? fun r => r.enabled && (r.matches? url).1 := by
  induction rules with
  | nil => rfl
  | cons r rest ih =>
    cases henabled : r.enabled with
    | false => simp [select, henabled, ih]
    | true =>
      cases hmatch : (r.matches? url).1 with
      | true => simp [select, henabled, hmatch]
      | false => simp [select, henabled, hmatch, ih]

theorem readFrom_eq_filterMap (index : Nat) (vs : List Value) :
    (readFrom index vs).1 = vs.filterMap fun v => (ofState v).toOption := by
  induction vs generalizing index with
  | nil => rfl
  | cons v rest ih =>
    cases hv : ofState v with
    | ok r => simp [readFrom, hv, ih, Except.toOption]
    | error f => simp [readFrom, hv, ih, Except.toOption]

/-- The entry describes an enabled rule that matches the URL, and the rule's target is the other
one. -/
def Sends (url : String) (v : Value) (target : String) : Prop :=
  ∃ r, Describes v r ∧ r.enabled = true ∧ r.Matches url ∧ r.target = target

def targetOf? (url : String) (v : Value) : Option String :=
  match ofState v with
  | .ok r => if r.enabled && (r.matches? (some url)).1 then some r.target else none
  | .error _ => none

theorem targetOf?_eq_some_iff {url : String} {v : Value} {target : String} :
    targetOf? url v = some target ↔ Sends url v target := by
  unfold targetOf? Sends
  simp only [← ofState_eq_ok_iff, ← matches?_iff]
  cases ofState v with
  | error f => simp
  | ok r => simp [and_assoc]

def targetOf (rules : List Rule) (url : String) : Option String :=
  (select (some url) rules).1.map (·.target)

/-- The enabled rules of a collection send a URL where the first entry does that sends it
anywhere. -/
theorem targetOf_readAll (vs : List Value) (url : String) :
    targetOf ((readAll vs).1.filter (·.enabled)) url = vs.findSome? (targetOf? url) := by
  unfold targetOf
  rw [select_eq_find?, readAll, readFrom_eq_filterMap]
  induction vs with
  | nil => rfl
  | cons v rest ih =>
    cases hv : ofState v with
    | error f => simpa [hv, Except.toOption, targetOf?] using ih
    | ok r =>
      cases henabled : r.enabled with
      | false => simpa [hv, Except.toOption, targetOf?, henabled] using ih
      | true =>
        cases hmatch : (r.matches? (some url)).1 with
        | true => simp [hv, Except.toOption, targetOf?, henabled, hmatch]
        | false => simpa [hv, Except.toOption, targetOf?, henabled, hmatch] using ih

theorem targetOf_readAll_eq_some_iff {vs : List Value} {url target : String} :
    targetOf ((readAll vs).1.filter (·.enabled)) url = some target ↔
      ∃ before v later, vs = before ++ v :: later ∧ Sends url v target ∧
        ∀ b ∈ before, ∀ t, ¬ Sends url b t := by
  have hnone : ∀ b, targetOf? url b = none ↔ ∀ t, ¬ Sends url b t := by
    intro b
    simp only [← targetOf?_eq_some_iff, Option.eq_none_iff_forall_ne_some, ne_eq]
  rw [targetOf_readAll, List.findSome?_eq_some_iff]
  simp only [targetOf?_eq_some_iff, hnone]

end Rule
end Detour
