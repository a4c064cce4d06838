import Detour.Proofs.Effect
import Detour.Proofs.Settings.Table
import Mathlib.Data.List.Basic

/-!
# Updates that fail

An update assigns its values one by one and then tells the listener. It fails in three ways
(`update_failure`). A refusal, by a setting with choices or by the listener, takes everything back.
A value that does not fit its setting ends the update where it stands, with the values before it
assigned and nobody told. Names without a setting are found out last, when the others are set.
-/
namespace Detour

theorem Failure.isRefusal_iff {f : Failure} : f.isRefusal = true ↔ ∃ g, f = .setting g := by
  cases f <;> simp [isRefusal]

/-- Whoever listens refuses changes at most, and hears of refusals without a failure. -/
structure Listener.Orderly {R : Type} (l : Listener R) : Prop where
  changed : ∀ {table names r f r'}, l.changed table names r = .error f r' → f.isRefusal = true
  refused : ∀ table f r, ∃ r', l.refused table f r = .ok () r'

namespace Settings

variable {R : Type} {l : Listener R} {s s' : Settings} {r r' : R} {f : Failure}
  {names : List String} {values : List (String × Value)}

theorem assign_of_find? {o o' : Setting} {name : String} {v : Value} (hfind : s.find? name = some o)
    (h : o.assign v = .ok o') (r : R) : assign name v (s, r) = .ok () (s.put o', r) := by
  simp [assign, hfind, h]

/-- Only the table matters to an assignment, and only the table is changed. -/
theorem assign_beside (name : String) (v : Value) (t : List Setting) :
    (∃ table, ∀ {R : Type} putOff (r : R),
        assign name v (⟨t, putOff⟩, r) = .ok () (⟨table, putOff⟩, r)) ∨
      ∃ f, ∀ {R : Type} putOff (r : R),
        assign name v (⟨t, putOff⟩, r) = .error f (⟨t, putOff⟩, r) := by
  cases hfind : t.find? (·.name = name) with
  | none => exact .inr ⟨.noSetting name, fun putOff r => by simp [assign, find?, hfind]⟩
  | some o =>
    cases h : o.assign v with
    | ok o' => exact .inl ⟨putInTable o' t, fun putOff r => assign_of_find? (s := ⟨t, putOff⟩) hfind h r⟩
    | error f => exact .inr ⟨f, fun putOff r => by simp [assign, find?, hfind, h]⟩

theorem assignAll_beside (values : List (String × Value)) (t : List Setting) :
    ∃ table,
      (∀ {R : Type} putOff (r : R),
          assignAll values (⟨t, putOff⟩, r) = .ok () (⟨table, putOff⟩, r)) ∨
        ∃ f, ∀ {R : Type} putOff (r : R),
          assignAll values (⟨t, putOff⟩, r) = .error f (⟨table, putOff⟩, r) := by
  induction values generalizing t with
  | nil => exact ⟨t, .inl fun _ _ => rfl⟩
  | cons e rest ih =>
    rcases assign_beside e.1 e.2 t with ⟨u, he⟩ | ⟨f, he⟩
    · have hgo : ∀ {R : Type} putOff (r : R), assignAll (e :: rest) (⟨t, putOff⟩, r) =
          assignAll rest (⟨u, putOff⟩, r) := fun putOff r => bind_of_ok (he putOff r)
      obtain ⟨table, h | ⟨f, h⟩⟩ := ih u
      · exact ⟨table, .inl fun putOff r => (hgo putOff r).trans (h putOff r)⟩
      · exact ⟨table, .inr ⟨f, fun putOff r => (hgo putOff r).trans (h putOff r)⟩⟩
    · exact ⟨t, .inr ⟨f, fun putOff r => bind_of_error (he putOff r)⟩⟩

theorem assign_cases (name : String) (v : Value) (s : Settings) (r : R) :
    (∃ table, assign name v (s, r) = .ok () ({ s with table }, r)) ∨
      ∃ f, assign name v (s, r) = .error f (s, r) := by
  rcases assign_beside name v s.table with ⟨table, h⟩ | ⟨f, h⟩
  · exact .inl ⟨table, h s.putOff r⟩
  · exact .inr ⟨f, h s.putOff r⟩

/-- Values are assigned up to the first one that cannot be. -/
theorem assignAll_cases (values : List (String × Value)) (s : Settings) (r : R) :
    (∃ table, assignAll values (s, r) = .ok () ({ s with table }, r)) ∨
      ∃ before e later table f, values = before ++ e :: later ∧
        assignAll before (s, r) = .ok () ({ s with table }, r) ∧
        assign e.1 e.2 ({ s with table }, r) = .error f ({ s with table }, r) ∧
        assignAll values (s, r) = .error f ({ s with table }, r) := by
  induction values generalizing s with
  | nil => exact .inl ⟨s.table, rfl⟩
  | cons e rest ih =>
    rcases assign_cases e.1 e.2 s r with ⟨table, he⟩ | ⟨f, he⟩
    · have hgo : ∀ values, assignAll (e :: values) (s, r) =
          assignAll values ({ s with table }, r) := fun values => bind_of_ok he
      rcases ih { s with table } with ⟨table', h⟩ | ⟨before, e', later, table', f, hv, hb, h, hf⟩
      · exact .inl ⟨table', (hgo rest).trans h⟩
      · refine .inr ⟨e :: before, e', later, table', f, ?_, (hgo before).trans hb, h,
          (hgo rest).trans hf⟩
        rw [hv, List.cons_append]
    · exact .inr ⟨[], e, rest, s.table, f, rfl, rfl, he, bind_of_error he⟩

theorem declared?_assign {name : String} {v : Value} (h : assign name v (s, r) = .ok () (s', r'))
    (other : String) : s'.declared? other = s.declared? other := by
  unfold assign at h
  cases hfind : s.find? name with
  | none => simp [hfind] at h
  | some o =>
    cases ho : o.assign v with
    | error f => simp [hfind, ho] at h
    | ok o' =>
      obtain ⟨rfl, rfl⟩ : s.put o' = s' ∧ r = r' := by simpa [hfind, ho] using h
      rw [(Setting.eq_of_assign ho).2]
      exact declared?_put hfind _ other

theorem declared?_assignAll (h : assignAll values (s, r) = .ok () (s', r')) (other : String) :
    s'.declared? other = s.declared? other := by
  induction values generalizing s r with
  | nil =>
    cases h
    rfl
  | cons e rest ih =>
    rcases assign_cases e.1 e.2 s r with ⟨table, he⟩ | ⟨f, he⟩
    · have hrest : assignAll rest ({ s with table }, r) = .ok () (s', r') :=
        (bind_of_ok he).symm.trans h
      rw [ih hrest, declared?_assign he]
    · have hfail : assignAll (e :: rest) (s, r) = .error f (s, r) := bind_of_error he
      simp [hfail] at h

theorem isRefusal_of_assign {name : String} {v : Value} {o : Setting}
    (hdeclared : s.declared? name = some o) (hv : o.fits v = true)
    (h : assign name v (s, r) = .error f (s', r')) : f.isRefusal = true := by
  obtain ⟨o', hfind, rfl⟩ := Option.map_eq_some_iff.mp hdeclared
  unfold assign at h
  cases ho : o'.assign v with
  | ok p => simp [hfind, ho] at h
  | error g =>
    obtain ⟨rfl, -⟩ : g = f ∧ _ := by simpa [hfind, ho] using h
    exact Setting.isRefusal_of_fits hv ho

def Fitting (s : Settings) (values : List (String × Value)) : Prop :=
  ∀ e ∈ values, ∃ o, s.declared? e.1 = some o ∧ o.fits e.2 = true

theorem Fitting.contains (h : s.Fitting values) : ∀ e ∈ values, s.contains e.1 = true := by
  intro e he
  obtain ⟨o, hdeclared, -⟩ := h e he
  exact contains_of_declared? hdeclared

theorem Fitting.of_declared {t : Settings} (h : s.Fitting values)
    (ht : ∀ name, t.declared? name = s.declared? name) : t.Fitting values := by
  intro e he
  rw [ht]
  exact h e he

theorem assignAll_of_fitting (hfit : s.Fitting values) (r : R) :
    ∃ table, assignAll values (s, r) = .ok () ({ s with table }, r) ∨
      ∃ f, assignAll values (s, r) = .error (.setting f) ({ s with table }, r) := by
  rcases assignAll_cases values s r with ⟨table, h⟩ | ⟨before, e, later, table, f, hv, hb, he, h⟩
  · exact ⟨table, .inl h⟩
  · obtain ⟨o, hdeclared, ho⟩ := hfit e (by simp [hv])
    rw [← declared?_assignAll hb] at hdeclared
    obtain ⟨g, rfl⟩ := Failure.isRefusal_iff.mp (isRefusal_of_assign hdeclared ho he)
    exact ⟨table, .inr ⟨g, h⟩⟩

theorem isRefusal_of_free {name : String} {v : Value} {o : Setting}
    (hdeclared : s.declared? name = some o) (hfree : o.choices = none)
    (h : assign name v (s, r) = .error f (s', r')) : f.isRefusal = false := by
  obtain ⟨o', hfind, rfl⟩ := Option.map_eq_some_iff.mp hdeclared
  have hfree : o'.choices = none := hfree
  unfold assign at h
  cases ho : o'.assign v with
  | ok p => simp [hfind, ho] at h
  | error g =>
    obtain ⟨rfl, -⟩ : g = f ∧ _ := by simpa [hfind, ho] using h
    cases htype : o'.type.holds v with
    | true => simp [Setting.assign_of_holds hfree htype] at ho
    | false =>
      obtain rfl : _ = g := by
        simpa [Setting.assign, Setting.checkType, htype, bind, Except.bind] using ho
      rfl

def change (l : Listener R) (values : List (String × Value)) : Update R Unit := do
  assignAll values
  notify l (values.map (·.1))

/-- The part of an update that may be taken back. -/
def setAll (l : Listener R) (values : List (String × Value)) : Update R Unit :=
  if values.isEmpty then pure () else withRollback l (values.map (·.1)) true (change l values)

theorem notify_of_ok (h : l.changed s.table names r = .ok () r') :
    notify l names (s, r) = .ok () (s, r') := by
  simp [notify, h]

theorem notify_of_error (h : l.changed s.table names r = .error f r') :
    notify l names (s, r) = .error f (s, r') := by
  simp [notify, h]

section Rollback

variable {passOn : Bool} {body : Update R Unit} {start x : Settings × R}

theorem withRollback_of_ok (h : body start = .ok () x) :
    withRollback l names passOn body start = .ok () x := by
  simp [withRollback, h]

theorem withRollback_of_refusal {f : SettingFault} (h : body start = .error (.setting f) x) :
    withRollback l names passOn body start = takeBack l names passOn start.1.table f x := by
  simp [withRollback, h]

theorem withRollback_of_failure (h : body start = .error f x) (hf : f.isRefusal = false) :
    withRollback l names passOn body start = .error f x := by
  cases f with
  | setting g => cases hf
  | _ => simp [withRollback, h]

end Rollback

/-- A refusal is told, and then the settings as they were. -/
theorem takeBack_eq {f : SettingFault} {table : List Setting} {told : R}
    (h : l.refused table (.setting f) r = .ok () told) (names : List String) (passOn : Bool) :
    takeBack l names passOn s.table f ({ s with table }, r) =
      (notify l names >>= fun _ => if passOn then throw (.setting f) else pure ()) (s, told) := by
  have htold : notifyRefused l (.setting f) ({ s with table }, r) =
      .ok () ({ s with table }, told) := by simp [notifyRefused, h]
  have hrestore : restore s.table ({ s with table }, told) = .ok () (s, told) := rfl
  rw [takeBack, bind_of_ok htold, bind_of_ok hrestore]

/-- A refusal is passed on with the settings as they were, even where the listener refuses those as
well. -/
theorem takeBack_spec (hl : l.Orderly) (names : List String) (f : SettingFault) (s : Settings)
    (table : List Setting) (r : R) :
    ∃ g r', takeBack l names true s.table f ({ s with table }, r) = .error (.setting g) (s, r') := by
  obtain ⟨told, hrefused⟩ := hl.refused table (.setting f) r
  rw [takeBack_eq hrefused]
  cases h : l.changed s.table names told with
  | ok u r' =>
    rw [bind_of_ok (notify_of_ok h)]
    exact ⟨f, r', rfl⟩
  | error g r' =>
    obtain ⟨g, rfl⟩ := Failure.isRefusal_iff.mp (hl.changed h)
    rw [bind_of_error (notify_of_error h)]
    exact ⟨g, r', rfl⟩

section SetAll

variable {table : List Setting}

theorem setAll_eq (hvalues : values ≠ []) (l : Listener R) :
    setAll l values = withRollback l (values.map (·.1)) true (change l values) := by
  simp [setAll, hvalues]

theorem setAll_of_accepted (hvalues : values ≠ [])
    (ha : assignAll values (s, r) = .ok () ({ s with table }, r))
    (hc : l.changed table (values.map (·.1)) r = .ok () r') :
    setAll l values (s, r) = .ok () ({ s with table }, r') := by
  rw [setAll_eq hvalues]
  exact withRollback_of_ok ((bind_of_ok ha).trans (notify_of_ok hc))

theorem setAll_of_refused {f : SettingFault} (hvalues : values ≠ [])
    (ha : assignAll values (s, r) = .ok () ({ s with table }, r))
    (hc : l.changed table (values.map (·.1)) r = .error (.setting f) r') :
    setAll l values (s, r) =
      takeBack l (values.map (·.1)) true s.table f ({ s with table }, r') := by
  rw [setAll_eq hvalues]
  exact withRollback_of_refusal ((bind_of_ok ha).trans (notify_of_error hc))

/-- A value that is no choice of its setting is refused like a value that the listener refuses. -/
theorem setAll_of_unchosen {f : SettingFault} (hvalues : values ≠ [])
    (ha : assignAll values (s, r) = .error (.setting f) ({ s with table }, r)) :
    setAll l values (s, r) =
      takeBack l (values.map (·.1)) true s.table f ({ s with table }, r) := by
  rw [setAll_eq hvalues]
  exact withRollback_of_refusal (bind_of_error ha)

/-- A value that does not fit ends the update where it stands. -/
theorem setAll_of_misfit (hvalues : values ≠ [])
    (ha : assignAll values (s, r) = .error f (s', r')) (hf : f.isRefusal = false) :
    setAll l values (s, r) = .error f (s', r') := by
  rw [setAll_eq hvalues]
  exact withRollback_of_failure (bind_of_error ha) hf

end SetAll

/-- What is set with rollback is set, or left as it was, or left half done by a value that does not
fit. -/
theorem setAll_cases (hl : l.Orderly) (values : List (String × Value)) (s : Settings) (r : R) :
    (∃ s' r', setAll l values (s, r) = .ok () (s', r')) ∨
      (∃ f r', setAll l values (s, r) = .error (.setting f) (s, r')) ∨
      ∃ before e later s' f, values = before ++ e :: later ∧
        assignAll before (s, r) = .ok () (s', r) ∧ assign e.1 e.2 (s', r) = .error f (s', r) ∧
        f.isRefusal = false ∧ setAll l values (s, r) = .error f (s', r) := by
  by_cases hempty : values = []
  · subst hempty
    exact .inl ⟨s, r, rfl⟩
  rcases assignAll_cases values s r with ⟨table, h⟩ | ⟨before, e, later, table, f, hv, hb, he, h⟩
  · cases hc : l.changed table (values.map (·.1)) r with
    | ok u r' => exact .inl ⟨_, r', setAll_of_accepted hempty h hc⟩
    | error g r' =>
      obtain ⟨g, rfl⟩ := Failure.isRefusal_iff.mp (hl.changed hc)
      obtain ⟨g', r'', hback⟩ := takeBack_spec hl (values.map (·.1)) g s table r'
      exact .inr (.inl ⟨g', r'', (setAll_of_refused hempty h hc).trans hback⟩)
  · cases hf : f.isRefusal with
    | false =>
      exact .inr (.inr ⟨before, e, later, { s with table }, f, hv, hb, he, hf,
        setAll_of_misfit hempty h hf⟩)
    | true =>
      obtain ⟨g, rfl⟩ := Failure.isRefusal_iff.mp hf
      obtain ⟨g', r', hback⟩ := takeBack_spec hl (values.map (·.1)) g s table r
      exact .inr (.inl ⟨g', r', (setAll_of_unchosen hempty h).trans hback⟩)

def known (s : Settings) (values : List (String × Value)) : List (String × Value) :=
  values.filter fun e => s.contains e.1

def unknown (s : Settings) (values : List (String × Value)) : List (String × Value) :=
  values.filter fun e => !s.contains e.1

theorem updateKnown_eq (l : Listener R) (values : List (String × Value)) (s : Settings) (r : R) :
    updateKnown l values (s, r) =
      (setAll l (s.known values) >>= fun _ => pure (s.unknown values)) (s, r) := by
  have hparts : values.partition (fun e => s.contains e.1) = (s.known values, s.unknown values) :=
    List.partition_eq_filter_filter ..
  simp only [updateKnown, get_bind, hparts]
  unfold setAll change
  cases (s.known values).isEmpty <;> rfl

/-- An update sets what it can and then fails if there are names without a setting. -/
theorem update_eq (l : Listener R) (values : List (String × Value)) (s : Settings) (r : R) :
    update l values (s, r) = (setAll l (s.known values) >>= fun _ =>
      if (s.unknown values).isEmpty then pure ()
      else throw (.unknownSettings ((s.unknown values).map (·.1)))) (s, r) := by
  have hknown := updateKnown_eq l values s r
  cases h : setAll l (s.known values) (s, r) with
  | ok u x =>
    rw [bind_of_ok h] at hknown ⊢
    rw [update, bind_of_ok hknown]
    cases (s.unknown values).isEmpty <;> rfl
  | error f x =>
    rw [bind_of_error h] at hknown ⊢
    exact bind_of_error hknown

variable (s) in
theorem unknown_known (values : List (String × Value)) : s.unknown (s.known values) = [] := by
  simp [unknown, known]

variable (s) in
theorem known_known (values : List (String × Value)) : s.known (s.known values) = s.known values := by
  simp [known]

/-- What a failed update leaves: after a refusal, everything as it was; after a value that does not
fit, the values before it, untold; after unknown names, all the others set. -/
theorem update_failure (hl : l.Orderly) (h : update l values (s, r) = .error f (s', r')) :
    (f.isRefusal = true ∧ s' = s) ∨
      (f.isRefusal = false ∧ r' = r ∧ ∃ before e later, s.known values = before ++ e :: later ∧
        assignAll before (s, r) = .ok () (s', r) ∧ assign e.1 e.2 (s', r) = .error f (s', r)) ∨
      (f = .unknownSettings ((s.unknown values).map (·.1)) ∧ s.unknown values ≠ [] ∧
        update l (s.known values) (s, r) = .ok () (s', r')) := by
  rw [update_eq] at h
  rcases setAll_cases hl (s.known values) s r with
    ⟨t, q, hset⟩ | ⟨g, q, hset⟩ | ⟨before, e, later, t, g, hv, hb, he, hg, hset⟩
  · rw [bind_of_ok hset] at h
    cases hunknown : (s.unknown values).isEmpty with
    | true =>
      rw [hunknown] at h
      cases h
    | false =>
      rw [hunknown] at h
      cases h
      refine .inr (.inr ⟨rfl, by simpa using hunknown, ?_⟩)
      rw [update_eq, known_known, unknown_known, bind_of_ok hset]
      rfl
  · rw [bind_of_error hset] at h
    cases h
    exact .inl ⟨rfl, rfl⟩
  · rw [bind_of_error hset] at h
    cases h
    exact .inr (.inl ⟨hg, rfl, before, e, later, hv, hb, he⟩)

/-- A failed update changes nothing if it is a refusal, or sets one setting at most, or all its
values are for settings that they fit. -/
theorem failed_update_changes_nothing (hl : l.Orderly)
    (hspared : f.isRefusal = true ∨ values.length ≤ 1 ∨
      ∀ e ∈ values, ∃ o, s.declared? e.1 = some o ∧ o.fits e.2 = true)
    (h : update l values (s, r) = .error f (s', r')) : s' = s := by
  rcases update_failure hl h with
    ⟨-, hs⟩ | ⟨hf, -, before, e, later, hv, hb, he⟩ | ⟨rfl, hunknown, hset⟩
  · exact hs
  · rcases hspared with hrefusal | hone | hfit
    · rw [hf] at hrefusal
      cases hrefusal
    · have hlength : (s.known values).length ≤ 1 := Nat.le_trans (List.length_filter_le _ _) hone
      obtain rfl : before = [] := by
        rw [hv, List.length_append, List.length_cons] at hlength
        exact List.eq_nil_of_length_eq_zero (by omega)
      cases hb
      rfl
    · have hmem : e ∈ s.known values := by simp [hv]
      obtain ⟨o, hdeclared, ho⟩ := hfit e (List.mem_of_mem_filter hmem)
      rw [← declared?_assignAll hb] at hdeclared
      rw [isRefusal_of_assign hdeclared ho he] at hf
      cases hf
  · obtain ⟨e, he⟩ := List.exists_mem_of_ne_nil _ hunknown
    obtain ⟨hmem, hmissing⟩ := List.mem_filter.mp he
    rcases hspared with hrefusal | hone | hfit
    · cases hrefusal
    · have hlength : values.length = (s.known values).length + (s.unknown values).length :=
        List.length_eq_length_filter_add _
      have hpos := List.length_pos_of_mem he
      have hnil : s.known values = [] := List.eq_nil_of_length_eq_zero (by omega)
      rw [hnil] at hset
      cases hset
      rfl
    · obtain ⟨o, hdeclared, -⟩ := hfit e hmem
      obtain ⟨o', hfind, -⟩ := Option.map_eq_some_iff.mp hdeclared
      simp [contains, hfind] at hmissing

/-- A listener that notes what changes, and refuses a number that is not positive. -/
def wary (name : String) : Listener (List (List String)) where
  changed table names := fun told =>
    match (table.find? (·.name = name)).map Setting.current with
    | some (.int n) =>
      if names.contains name && n ≤ 0 then .error (.setting (.notPositive name n)) (names :: told)
      else .ok () (names :: told)
    | _ => .ok () (names :: told)
  refused _ _ := fun told => .ok () told

theorem orderly_wary (name : String) : (wary name).Orderly := by
  refine ⟨fun {table names r f r'} h => ?_, fun _ _ r => ⟨r, rfl⟩⟩
  simp only [wary] at h
  split at h
  · split at h <;> cases h
    rfl
  · cases h

def twoNumbers : Settings where
  table := [⟨"cooldown", .int, .int 3000, "", none, none⟩,
    ⟨"interval", .int, .int 300, "", none, none⟩]
  putOff := []

def lettered : Settings where
  table := [⟨"count", .int, .int 1, "", none, none⟩,
    ⟨"letter", .optionalStr, .null, "", some (.partsOf "ab"), none⟩]
  putOff := []

/-- An update of both that the listener refuses is one that changes nothing. -/
theorem refused_update_changes_nothing :
    ∃ f s' r', update (wary "interval") [("cooldown", .int 500), ("interval", .int 0)]
        (twoNumbers, []) = .error f (s', r') ∧ s' = twoNumbers := by
  have hrefused : update (wary "interval") [("cooldown", .int 500), ("interval", .int 0)]
      (twoNumbers, []) = .error (.setting (.notPositive "interval" 0)) (_, _) := rfl
  refine ⟨_, _, _, hrefused, ?_⟩
  refine failed_update_changes_nothing (orderly_wary "interval") (.inr (.inr ?_)) hrefused
  rintro e (_ | ⟨_, _ | ⟨_, ⟨⟩⟩⟩)
  · exact ⟨_, rfl, rfl⟩
  · exact ⟨_, rfl, rfl⟩

/-- A text for the second number leaves the first one set, and nobody told of it. -/
theorem misfit_leaves_update_half_done :
    (wary "interval").Orderly ∧
      ∃ f s', update (wary "interval") [("cooldown", .int 500), ("interval", .str "soon")]
          (twoNumbers, []) = .error f (s', []) ∧
        twoNumbers.current? "cooldown" = some (.int 3000) ∧
        s'.current? "cooldown" = some (.int 500) :=
  ⟨orderly_wary "interval", _, _, rfl, rfl, rfl⟩

end Settings
end Detour
