import Detour.Proofs.Settings.PutOff
import Mathlib.Tactic.SplitIfs

/-!
# Listeners in step with the settings

A listener may keep copies of settings. It keeps in step (`Listener.KeepsStep`) if it takes new
values over or refuses them, and after a refusal has the old values back once it is told of them.
Then it is in step after every change by values of the right types, whether the change is accepted
or fails (`KeepsStep.update`, `KeepsStep.setFromTexts`).
-/
namespace Detour

theorem TypeSpec.holds_of_same {t u : TypeSpec} (h : t.same u = true) (v : Value) :
    t.holds v = u.holds v := by
  have hany : ∀ {ts us : List PlainType}, ts.all us.contains = true →
      ts.any (·.holds v) = true → us.any (·.holds v) = true := by
    intro ts us hsub hts
    obtain ⟨p, hp, hv⟩ := List.any_eq_true.mp hts
    exact List.any_eq_true.mpr ⟨p, by simpa using List.all_eq_true.mp hsub p hp, hv⟩
  cases t with
  | any => cases u <;> simp_all [same]
  | plain p =>
    cases u with
    | plain q =>
      obtain rfl : p = q := by simpa [same] using h
      rfl
    | any | union => simp [same] at h
  | union form ts =>
    cases u with
    | union form' us =>
      obtain ⟨hts, hus⟩ := Bool.and_eq_true_iff.mp h
      exact Bool.eq_iff_iff.mpr ⟨hany hts, hany hus⟩
    | any | plain => simp [same] at h

namespace TypeSpec

def Entry.type : Entry → TypeSpec
  | .flag => .bool
  | .text false => .str
  | .text true => .optionalStr
  | .whole false => .int
  | .whole true => .optionalInt

theorem holds_of_entry? {t : TypeSpec} {e : Entry} (h : t.entry? = some e) (v : Value) :
    t.holds v = e.type.holds v := by
  unfold entry? at h
  split_ifs at h with hflag htext hoptText hwhole hoptWhole
  all_goals
    obtain rfl := Option.some.inj h
    exact holds_of_same ‹_› v

end TypeSpec

namespace Setting

variable {o : Setting} {v : Value}

theorem holds_of_ofText {text : Option String} (h : o.ofText text = .ok v) :
    o.type.holds v = true := by
  unfold ofText at h
  cases hentry : o.type.entry? with
  | none => simp [hentry] at h
  | some e =>
    rw [TypeSpec.holds_of_entry? hentry]
    simp only [hentry] at h
    cases e with
    | flag =>
      simp only [flagOfText] at h
      split at h <;> cases h <;> rfl
    | text optional =>
      cases text with
      | some s =>
        cases h
        cases optional <;> rfl
      | none =>
        cases optional with
        | true =>
          cases h
          rfl
        | false => cases h
    | whole optional =>
      have hnone : ∀ {v}, (if optional = true then Except.ok Value.null
          else .error (.setting (.required o.name))) = Except.ok (ε := Failure) v →
          (TypeSpec.Entry.whole optional).type.holds v = true := by
        intro v hv
        cases optional with
        | true =>
          cases hv
          rfl
        | false => cases hv
      simp only at h
      split at h
      · exact hnone h
      · exact hnone h
      · unfold wholeOfText at h
        split at h
        · cases h
          cases optional <;> rfl
        · cases h

theorem holds_of_ofTexts {texts : List String} (h : o.ofTexts texts = .ok v) :
    o.type.holds v = true := by
  unfold ofTexts at h
  split at h
  · exact holds_of_ofText h
  · exact holds_of_ofText h
  · cases h

end Setting

namespace Settings

variable {R : Type} {l : Listener R} {s t : Settings} {r r' : R} {names : List String}
  {values : List (String × Value)}

/-- Every setting has a value of its type, and its choices, if any, are listed. -/
def Sound (s : Settings) : Prop :=
  ∀ name o, s.find? name = some o →
    o.type.holds o.current = true ∧ ∀ text, o.choices ≠ some (.partsOf text)

/-- The settings have the same values but for some names, and are declared as they were. -/
structure Reassigned (names : List String) (s t : Settings) : Prop where
  declared : ∀ name, t.declared? name = s.declared? name
  others : ∀ name, name ∉ names → t.find? name = s.find? name
  sound : s.Sound → t.Sound

theorem Reassigned.rfl : Reassigned names s s := ⟨fun _ => Eq.refl _, fun _ _ => Eq.refl _, id⟩

theorem Reassigned.trans {u : Settings} (h : Reassigned names s t) (h' : Reassigned names t u) :
    Reassigned names s u :=
  ⟨fun n => (h'.declared n).trans (h.declared n),
    fun n hn => (h'.others n hn).trans (h.others n hn), h'.sound ∘ h.sound⟩

theorem reassigned_of_assign {name : String} {v : Value} (hname : name ∈ names)
    (h : assign name v (s, r) = .ok () (t, r')) : Reassigned names s t := by
  have hdeclared := declared?_assign h
  unfold assign at h
  cases hfind : s.find? name with
  | none => simp [hfind] at h
  | some o =>
    cases ho : o.assign v with
    | error f => simp [hfind, ho] at h
    | ok o' =>
      obtain ⟨rfl, rfl⟩ : s.put o' = t ∧ r = r' := by simpa [hfind, ho] using h
      obtain ⟨htype, rfl⟩ := Setting.eq_of_assign ho
      obtain rfl := name_of_find? hfind
      have hother : ∀ name, o.name ≠ name →
          (s.put { o with value := some v }).find? name = s.find? name :=
        fun _ hne => find?_put_other s hne
      refine ⟨hdeclared, fun name hn => hother name (ne_of_mem_of_not_mem hname hn), ?_⟩
      intro hs name p hp
      by_cases hne : o.name = name
      · obtain rfl : { o with value := some v } = p := by
          rw [← hne] at hp
          exact Option.some.inj ((find?_put_same s { o with value := some v }).symm.trans hp)
        exact ⟨htype, (hs o.name o hfind).2⟩
      · exact hs name p ((hother name hne).symm.trans hp)

theorem reassigned_of_assignAll (hnames : ∀ e ∈ values, e.1 ∈ names)
    (h : assignAll values (s, r) = .ok () (t, r')) : Reassigned names s t := by
  induction values generalizing s r with
  | nil =>
    cases h
    exact .rfl
  | cons e rest ih =>
    rcases assign_cases e.1 e.2 s r with ⟨table, he⟩ | ⟨f, he⟩
    · have hrest : assignAll rest ({ s with table }, r) = .ok () (t, r') :=
        (bind_of_ok he).symm.trans h
      exact (reassigned_of_assign (hnames e (by simp)) he).trans
        (ih (fun e' he' => hnames e' (by simp [he'])) hrest)
    · have hfail : assignAll (e :: rest) (s, r) = .error f (s, r) := bind_of_error he
      simp [hfail] at h

/-- Whatever has been refused, the listener is in step once it is told of the old values. -/
def Recovers (l : Listener R) (Fit : Settings → R → Prop) (names : List String) (s : Settings)
    (r : R) : Prop :=
  ∀ table f, ∃ told r', l.refused table f r = .ok () told ∧
    l.changed s.table names told = .ok () r' ∧ Fit s r'

/-- New values are taken over or refused; a refusal can be taken back. -/
structure KeepsStep (l : Listener R) (Fit : Settings → R → Prop) : Prop where
  sound : ∀ {s r}, Fit s r → s.Sound
  recovers : ∀ {names s r}, Fit s r → Recovers l Fit names s r
  changed : ∀ {names s t r}, Fit s r → Reassigned names s t →
    (∃ r', l.changed t.table names r = .ok () r' ∧ Fit t r') ∨
      ∃ f r', l.changed t.table names r = .error (.setting f) r' ∧ Recovers l Fit names s r'

variable {Fit : Settings → R → Prop}

theorem Recovers.takeBack (h : Recovers l Fit names s r) (f : SettingFault)
    (table : List Setting) :
    ∃ r', takeBack l names true s.table f ({ s with table }, r) = .error (.setting f) (s, r') ∧
      Fit s r' := by
  obtain ⟨told, r', hrefused, hchanged, hfit⟩ := h table (.setting f)
  refine ⟨r', ?_, hfit⟩
  rw [takeBack_eq hrefused, bind_of_ok (notify_of_ok hchanged)]
  rfl

theorem fits_of_sound {o : Setting} {name : String} {v : Value} (hs : s.Sound)
    (hfind : s.find? name = some o) (hv : o.type.holds v = true) : o.fits v = true :=
  Setting.fits_of_listed (hs name o hfind).2 hv

theorem assignAll_typed (hs : s.Sound)
    (hvalues : ∀ e ∈ values, ∃ o, s.find? e.1 = some o ∧ o.type.holds e.2 = true) (r : R) :
    ∃ table, assignAll values (s, r) = .ok () ({ s with table }, r) ∨
      ∃ f, assignAll values (s, r) = .error (.setting f) ({ s with table }, r) := by
  refine assignAll_of_fitting (fun e he => ?_) r
  obtain ⟨o, hfind, ho⟩ := hvalues e he
  have hfits : o.fits e.2 = true := fits_of_sound hs hfind ho
  exact ⟨_, declared?_of_find? hfind, hfits⟩

theorem mem_readGroups {groups : List (String × List String)} (h : s.readGroups groups = .ok values)
    {e : String × Value} (he : e ∈ values) :
    ∃ texts o, (e.1, texts) ∈ groups ∧ s.find? e.1 = some o ∧ o.ofTexts texts = .ok e.2 := by
  induction groups generalizing values with
  | nil =>
    cases h
    cases he
  | cons g rest ih =>
    have hlater : ∀ {later}, s.readGroups rest = .ok later → e ∈ later →
        ∃ texts o, (e.1, texts) ∈ g :: rest ∧ s.find? e.1 = some o ∧ o.ofTexts texts = .ok e.2 := by
      intro later hrest he
      obtain ⟨texts, o, hmem, hread⟩ := ih hrest he
      exact ⟨texts, o, List.mem_cons_of_mem g hmem, hread⟩
    unfold readGroups at h
    cases hfind : s.find? g.1 with
    | none =>
      simp only [hfind] at h
      exact hlater h he
    | some o =>
      simp only [hfind] at h
      cases hv : o.ofTexts g.2 with
      | error f => simp [hv, bind, Except.bind] at h
      | ok v =>
        cases hrest : s.readGroups rest with
        | error f => simp [hv, hrest, bind, Except.bind] at h
        | ok later =>
          obtain rfl : (g.1, v) :: later = values := by
            simpa [hv, hrest, bind, Except.bind, pure, Except.pure] using h
          rcases List.mem_cons.mp he with rfl | he
          · exact ⟨g.2, o, List.mem_cons_self, hfind, hv⟩
          · exact hlater hrest he

theorem readGroups_typed {groups : List (String × List String)}
    (h : s.readGroups groups = .ok values) :
    ∀ e ∈ values, ∃ o, s.find? e.1 = some o ∧ o.type.holds e.2 = true := by
  intro e he
  obtain ⟨texts, o, -, hfind, hread⟩ := mem_readGroups h he
  exact ⟨o, hfind, Setting.holds_of_ofTexts hread⟩

theorem names_of_readGroups {groups : List (String × List String)}
    (h : s.readGroups groups = .ok values) : values.map (·.1) ⊆ groups.map (·.1) := by
  intro name hname
  obtain ⟨e, he, rfl⟩ := List.mem_map.mp hname
  obtain ⟨texts, o, hmem, -⟩ := mem_readGroups h he
  exact List.mem_map.mpr ⟨_, hmem, rfl⟩

namespace KeepsStep

/-- A change of existing settings is accepted or taken back, and the listener in step with what
there is then. -/
theorem setAll (h : KeepsStep l Fit) (hfit : Fit s r)
    (hvalues : ∀ e ∈ values, ∃ o, s.find? e.1 = some o ∧ o.type.holds e.2 = true) :
    (∃ s' r', setAll l values (s, r) = .ok () (s', r') ∧ Fit s' r') ∨
      ∃ f r', setAll l values (s, r) = .error (.setting f) (s, r') ∧ Fit s r' := by
  by_cases hempty : values = []
  · subst hempty
    exact .inl ⟨s, r, rfl, hfit⟩
  obtain ⟨table, hassign | ⟨f, hassign⟩⟩ := assignAll_typed (h.sound hfit) hvalues r
  · have hnames : ∀ e ∈ values, e.1 ∈ values.map (·.1) := fun _ h => List.mem_map_of_mem h
    rcases h.changed hfit (reassigned_of_assignAll hnames hassign) with
      ⟨r', hchanged, hfit'⟩ | ⟨f, r', hchanged, hback⟩
    · exact .inl ⟨_, r', setAll_of_accepted hempty hassign hchanged, hfit'⟩
    · obtain ⟨r'', htaken, hfit'⟩ := hback.takeBack f table
      exact .inr ⟨f, r'', (setAll_of_refused hempty hassign hchanged).trans htaken, hfit'⟩
  · obtain ⟨r', htaken, hfit'⟩ := (h.recovers hfit).takeBack f table
    exact .inr ⟨f, r', (setAll_of_unchosen hempty hassign).trans htaken, hfit'⟩

/-- The listener is in step after an update whose values have the types of their settings, even if
it fails; names without a setting do not matter. -/
theorem update (h : KeepsStep l Fit) (hfit : Fit s r)
    (hvalues : ∀ e ∈ values, ∀ o, s.find? e.1 = some o → o.type.holds e.2 = true) :
    Fit (after (update l values) (s, r)).1 (after (update l values) (s, r)).2 := by
  have hknown : ∀ e ∈ s.known values, ∃ o, s.find? e.1 = some o ∧ o.type.holds e.2 = true := by
    intro e he
    obtain ⟨hmem, hcontains⟩ := List.mem_filter.mp he
    obtain ⟨o, hfind⟩ := Option.isSome_iff_exists.mp hcontains
    exact ⟨o, hfind, hvalues e hmem o hfind⟩
  have heq := update_eq l values s r
  rcases h.setAll hfit hknown with ⟨s', r', hset, hfit'⟩ | ⟨f, r', hset, hfit'⟩
  · rw [bind_of_ok hset] at heq
    cases hunknown : (s.unknown values).isEmpty with
    | true =>
      rw [hunknown] at heq
      rwa [after_of_ok heq]
    | false =>
      rw [hunknown] at heq
      rwa [after_of_error heq]
  · rw [bind_of_error hset] at heq
    rwa [after_of_error heq]

/-- It is in step after settings have been set from texts, even if that fails. -/
theorem setFromTexts (h : KeepsStep l Fit) (hfit : Fit s r) (specs : List String) :
    Fit (after (setFromTexts l specs false) (s, r)).1
      (after (setFromTexts l specs false) (s, r)).2 := by
  rcases setFromTexts_cases l specs s r with ⟨f, hset⟩ | ⟨values, hread, -, hset⟩
  · rwa [after_of_error hset]
  · have hvalues : ∀ e ∈ values, ∀ o, s.find? e.1 = some o → o.type.holds e.2 = true := by
      intro e he o hfind
      obtain ⟨o', hfind', ho'⟩ := readGroups_typed hread e he
      obtain rfl : o' = o := Option.some.inj (hfind'.symm.trans hfind)
      exact ho'
    rw [after_of_eq hset]
    exact h.update hfit hvalues

end KeepsStep
end Settings
end Detour
