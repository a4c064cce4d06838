import Detour.Settings

/-!
# The table of settings

Looking a setting up after another has been put, and what an assignment does to a setting. A value
that fits (`Setting.fits`) is assigned or refused, and refused only where there are choices.
-/
namespace Detour

theorem lookup_cons {β : Type} (key name : String) (v : β) (rest : List (String × β)) :
    ((key, v) :: rest).lookup name = if name = key then some v else rest.lookup name := by
  rw [List.lookup_cons]
  by_cases h : name = key
  · rw [if_pos h, beq_iff_eq.mpr h]
  · rw [if_neg h, beq_eq_false_iff_ne.mpr h]

namespace Setting

/-- Whether a value has the type of the setting, and can be compared with its choices. -/
def fits (o : Setting) (v : Value) : Bool :=
  o.type.holds v && match o.choices, v with
    | some (.partsOf _), .str _ => true
    | some (.partsOf _), _ => false
    | _, _ => true

variable {o o' : Setting} {v : Value}

theorem assign_of_holds (hchoices : o.choices = none) (h : o.type.holds v = true) :
    o.assign v = .ok { o with value := some v } := by
  simp [assign, checkType, h, hchoices, bind, Except.bind, pure, Except.pure]

theorem assign_of_allowed (h : o.type.holds v = true)
    (hallowed : ∀ choices, o.choices = some choices → choices.allows v = .ok true) :
    o.assign v = .ok { o with value := some v } := by
  cases hchoices : o.choices with
  | none => rw [assign_of_holds hchoices h, hchoices]
  | some choices =>
    simp [assign, checkType, h, hchoices, hallowed choices hchoices, bind, Except.bind, pure,
      Except.pure]

/-- An assignment changes nothing but the value, which has the type of the setting. -/
theorem eq_of_assign (h : o.assign v = .ok o') :
    o.type.holds v = true ∧ o' = { o with value := some v } := by
  unfold assign checkType at h
  cases htype : o.type.holds v with
  | false => simp [htype, bind, Except.bind] at h
  | true =>
    simp only [htype, bind, Except.bind, if_true] at h
    refine ⟨rfl, ?_⟩
    cases hchoices : o.choices with
    | none => simpa [hchoices, pure, Except.pure, eq_comm] using h
    | some choices =>
      simp only [hchoices] at h
      cases hallows : choices.allows v with
      | error f => simp [hallows] at h
      | ok allowed =>
        cases allowed <;> simp_all [pure, Except.pure, throw, throwThe, MonadExceptOf.throw]

theorem isRefusal_of_fits (hv : o.fits v = true) {f : Failure} (h : o.assign v = .error f) :
    f.isRefusal = true := by
  obtain ⟨htype, hcompare⟩ := Bool.and_eq_true_iff.mp hv
  unfold assign checkType at h
  simp only [htype, bind, Except.bind, if_true] at h
  cases hchoices : o.choices with
  | none => simp [hchoices, pure, Except.pure] at h
  | some choices =>
    simp only [hchoices] at h hcompare
    cases hallows : choices.allows v with
    | error g =>
      cases choices with
      | texts ts => cases v <;> simp [Choices.allows] at hallows
      | partsOf s => cases v <;> simp_all [Choices.allows]
    | ok allowed =>
      cases allowed <;> simp_all [pure, Except.pure, throw, throwThe, MonadExceptOf.throw]
      exact h ▸ rfl

/-- Choices that are listed one by one can be compared with every value. -/
theorem fits_of_listed (h : ∀ whole, o.choices ≠ some (.partsOf whole))
    (hv : o.type.holds v = true) : o.fits v = true := by
  unfold fits
  cases hchoices : o.choices with
  | none => simp [hv]
  | some choices =>
    cases choices with
    | texts ts => simp [hv]
    | partsOf whole => exact absurd hchoices (h whole)

end Setting

namespace Settings

variable {s : Settings} {o : Setting} {name : String}

theorem find?_putInTable_same (o : Setting) (table : List Setting) :
    (putInTable o table).find? (·.name = o.name) = some o := by
  induction table with
  | nil => simp [putInTable]
  | cons p rest ih =>
    by_cases h : p.name = o.name
    · simp [putInTable, h]
    · simpa [putInTable, h] using ih

theorem find?_putInTable_other (table : List Setting) (h : o.name ≠ name) :
    (putInTable o table).find? (·.name = name) = table.find? (·.name = name) := by
  induction table with
  | nil => simp [putInTable, h]
  | cons p rest ih =>
    by_cases hp : p.name = o.name
    · simp [putInTable, hp, h]
    · by_cases hpn : p.name = name
      · simp [putInTable, hpn, h.symm]
      · simpa [putInTable, hp, hpn] using ih

theorem find?_put_same (s : Settings) (o : Setting) : (s.put o).find? o.name = some o :=
  find?_putInTable_same o s.table

theorem find?_put_other (s : Settings) (h : o.name ≠ name) :
    (s.put o).find? name = s.find? name :=
  find?_putInTable_other s.table h

def declared? (s : Settings) (name : String) : Option Setting :=
  (s.find? name).map fun o => { o with value := none }

theorem name_of_find? (h : s.find? name = some o) : o.name = name := by
  simpa using List.find?_some h

theorem declared?_of_find? (h : s.find? name = some o) :
    s.declared? name = some { o with value := none } := by
  simp [declared?, h]

theorem contains_of_find? (h : s.find? name = some o) : s.contains name = true := by
  simp [contains, h]

theorem contains_of_declared? (h : s.declared? name = some o) : s.contains name = true := by
  obtain ⟨o', hfind, -⟩ := Option.map_eq_some_iff.mp h
  exact contains_of_find? hfind

theorem declared?_put (hfind : s.find? name = some o) (v : Option Value) (other : String) :
    (s.put { o with value := v }).declared? other = s.declared? other := by
  obtain rfl := name_of_find? hfind
  unfold declared?
  by_cases h : o.name = other
  · have hput : (s.put { o with value := v }).find? o.name = some { o with value := v } :=
      find?_put_same s { o with value := v }
    rw [← h, hput, hfind]
    rfl
  · exact congrArg _ (find?_put_other (o := { o with value := v }) s h)

end Settings
end Detour
