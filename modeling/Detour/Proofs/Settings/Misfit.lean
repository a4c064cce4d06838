import Detour.Proofs.Settings.Latest

/-!
# Values that do not fit

A value that does not fit its setting is no refusal, so that what is set before it stays
(`setAll_of_misfits`). A value behind one that is refused is not looked at; so values that are set
or put off are taken over or refused exactly where none that is looked at fails to fit
(`updateOrDefer_of_no_misfit`).
-/
namespace Detour

theorem Setting.fails_of_misfit {o : Setting} {v : Value} (h : o.fits v = false) :
    ∃ f, o.assign v = .error f ∧ f.isRefusal = false := by
  cases htype : o.type.holds v with
  | false =>
    refine ⟨.wrongType o.name o.type v.className, ?_, rfl⟩
    simp [assign, checkType, htype, bind, Except.bind]
  | true =>
    cases hchoices : o.choices with
    | none => simp [fits, htype, hchoices] at h
    | some choices =>
      cases choices with
      | texts ts => simp [fits, htype, hchoices] at h
      | partsOf whole =>
        refine ⟨.notPartOfText v.kind, ?_, rfl⟩
        cases v with
        | str t => simp [fits, htype, hchoices] at h
        | _ => simp [assign, checkType, htype, hchoices, Choices.allows, bind, Except.bind]

namespace Settings

variable {R : Type} {l : Listener R} {s s' : Settings} {r r' : R}
  {values : List (String × Value)} {name : String}

theorem assignAll_append (h : assignAll values (s, r) = .ok () (s', r'))
    (later : List (String × Value)) :
    assignAll (values ++ later) (s, r) = assignAll later (s', r') := by
  induction values generalizing s r with
  | nil =>
    cases h
    rfl
  | cons e rest ih =>
    rcases assign_cases e.1 e.2 s r with ⟨table, he⟩ | ⟨f, he⟩
    · exact (bind_of_ok he).trans (ih ((bind_of_ok he).symm.trans h))
    · have hfail : assignAll (e :: rest) (s, r) = .error f (s, r) := bind_of_error he
      simp [hfail] at h

/-- A value does not fit its setting, and those before it are taken. -/
def Misfits (s : Settings) (values : List (String × Value)) : Prop :=
  ∃ before e later, values = before ++ e :: later ∧ (∀ b ∈ before, s.Takes b) ∧
    ∃ o, s.declared? e.1 = some o ∧ o.fits e.2 = false

/-- Such a value ends the update where it stands, which is no refusal. -/
theorem setAll_of_misfits (h : s.Misfits values) (l : Listener R) (r : R) :
    ∃ f table, setAll l values (s, r) = .error f ({ s with table }, r) ∧ f.isRefusal = false := by
  obtain ⟨before, e, later, rfl, htaken, o, hdeclared, hmisfit⟩ := h
  obtain ⟨table, hbefore, -⟩ := assignAll_of_taken htaken r
  obtain ⟨o', hfind, rfl⟩ :=
    Option.map_eq_some_iff.mp ((declared?_assignAll hbefore e.1).trans hdeclared)
  obtain ⟨f, hassign, hf⟩ := Setting.fails_of_misfit hmisfit
  rw [Setting.assign_value] at hassign
  have he : assign e.1 e.2 ({ s with table }, r) = .error f ({ s with table }, r) := by
    simp [assign, hfind, hassign]
  have hall := (assignAll_append hbefore (e :: later)).trans (bind_of_error he)
  exact ⟨f, table, setAll_of_misfit (by simp) hall hf, hf⟩

/-- Without such a value all are set, or they are refused and everything is as it was. -/
theorem setAll_of_no_misfit (hl : l.Orderly) (hknown : ∀ e ∈ values, s.contains e.1 = true)
    (h : ¬ s.Misfits values) (r : R) :
    (∃ table r', setAll l values (s, r) = .ok () ({ s with table }, r') ∧
        Latest values s { s with table }) ∨
      ∃ f r', setAll l values (s, r) = .error (.setting f) (s, r') := by
  by_cases hempty : values = []
  · subst hempty
    exact .inl ⟨s.table, r, rfl, .nil s⟩
  rcases assignAll_cases values s r with ⟨table, ha⟩ | ⟨before, e, later, table, f, hv, hb, he, ha⟩
  · cases hc : l.changed table (values.map (·.1)) r with
    | ok u r' => exact .inl ⟨table, r', setAll_of_accepted hempty ha hc, latest_of_assignAll ha⟩
    | error f told =>
      obtain ⟨f, rfl⟩ := Failure.isRefusal_iff.mp (hl.changed hc)
      obtain ⟨g, r', hback⟩ := takeBack_spec hl (values.map (·.1)) f s table told
      exact .inr ⟨g, r', (setAll_of_refused hempty ha hc).trans hback⟩
  · -- The first value that fails has only values before it that are taken, so it fits.
    have hrefusal : f.isRefusal = true := by
      obtain ⟨o, hfind⟩ := Option.isSome_iff_exists.mp (hknown e (by simp [hv]))
      have hdeclared := declared?_of_find? hfind
      have hfits : ({ o with value := none } : Setting).fits e.2 = true := by
        by_contra hmisfit
        exact h ⟨before, e, later, hv, takes_of_assignAll hb, _, hdeclared,
          Bool.eq_false_iff.mpr hmisfit⟩
      exact isRefusal_of_assign ((declared?_assignAll hb e.1).trans hdeclared) hfits he
    obtain ⟨f, rfl⟩ := Failure.isRefusal_iff.mp hrefusal
    obtain ⟨g, r', hback⟩ := takeBack_spec hl (values.map (·.1)) f s table r
    exact .inr ⟨g, r', (setAll_of_unchosen hempty ha).trans hback⟩

theorem lookup_putOffValue (key : String) (p : PutOff) (entries : List (String × PutOff)) :
    (putOffValue key p entries).lookup name =
      if name = key then some p else entries.lookup name := by
  induction entries with
  | nil => exact lookup_cons key name p []
  | cons e rest ih =>
    obtain ⟨k, q⟩ := e
    by_cases hk : k = key
    · subst hk
      simp only [putOffValue, if_true, lookup_cons]
      split <;> rfl
    · simp only [putOffValue, hk, if_false, lookup_cons, ih]
      split
      · next h => rw [if_neg (h ▸ hk)]
      · rfl

theorem lookup_deferAll (values : List (String × Value)) (s : Settings) (name : String) :
    (s.deferAll (values.map fun e => (e.1, .value e.2))).putOff.lookup name =
      ((lastFor values name).map .value).or (s.putOff.lookup name) := by
  induction values generalizing s with
  | nil => simp [deferAll, lastFor]
  | cons e rest ih =>
    have hgo : s.deferAll ((e :: rest).map fun e => (e.1, .value e.2)) =
        (s.defer e.1 (.value e.2)).deferAll (rest.map fun e => (e.1, .value e.2)) := rfl
    rw [hgo, ih, lastFor_cons, defer, lookup_putOffValue]
    cases hlast : lastFor rest name with
    | some v => simp
    | none => by_cases h : name = e.1 <;> simp [h, eq_comm]

/-- The settings have the values that are given for their names; those that are given for other
names are put off; and the rest is as it was. -/
structure TakenOver (given : String → Option Value) (s t : Settings) : Prop where
  current : ∀ name, t.current? name = (s.current? name).map fun old => (given name).getD old
  putOff : ∀ name, t.putOff.lookup name = if s.contains name then s.putOff.lookup name
    else ((given name).map .value).or (s.putOff.lookup name)

theorem lastFor_unknown (values : List (String × Value)) (s : Settings) (name : String) :
    lastFor (s.unknown values) name = if s.contains name then none else lastFor values name := by
  cases hname : s.contains name with
  | false =>
    rw [if_neg Bool.false_ne_true, lastFor, unknown, ← List.filter_reverse]
    exact lookup_filter (fun _ => by simp [hname]) values.reverse
  | true =>
    rw [if_pos rfl]
    cases hlast : lastFor (s.unknown values) name with
    | none => rfl
    | some v =>
      have hnone := (List.mem_filter.mp (mem_of_lastFor hlast)).2
      simp [hname] at hnone

theorem updateOrDefer_of_no_misfit (hl : l.Orderly) (h : ¬ s.Misfits (s.known values)) (r : R) :
    (∃ t r', updateOrDefer l values (s, r) = .ok () (t, r') ∧ TakenOver (lastFor values) s t) ∨
      ∃ f r', updateOrDefer l values (s, r) = .error (.setting f) (s, r') := by
  have hknown : ∀ e ∈ s.known values, s.contains e.1 = true := fun e he =>
    (List.mem_filter.mp he).2
  rw [updateOrDefer_eq]
  rcases setAll_of_no_misfit hl hknown h r with ⟨table, r', hset, hlatest⟩ | ⟨f, r', hset⟩
  · refine .inl ⟨_, r', bind_of_ok hset, ?_, fun name => ?_⟩
    · exact (Latest.of_known hlatest).of_table (table_deferAll _ _)
    · rw [lookup_deferAll, lastFor_unknown]
      cases s.contains name <;> rfl
  · exact .inr ⟨f, r', bind_of_error hset⟩

/-- A value that does not fit is reported as it is, and those before it stay set. -/
theorem updateOrDefer_of_misfits (h : s.Misfits (s.known values)) (l : Listener R) (r : R) :
    ∃ f table, updateOrDefer l values (s, r) = .error f ({ s with table }, r) ∧
      f.isRefusal = false := by
  obtain ⟨f, table, hset, hf⟩ := setAll_of_misfits h l r
  exact ⟨f, table, (updateOrDefer_eq l values s r).trans (bind_of_error hset), hf⟩

end Settings
end Detour
