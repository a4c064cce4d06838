import Detour.Proofs.Settings.Update

/-!
# Settings put off

Settings may be asked for by values or by the texts of a command line (`Assignments`). Asked for
while they exist, they are read and set at once (`Assignments.apply_eq`). Asked for before, they are
kept as they are (`Assignments.defer_eq`) and go through the same reading and setting later
(`processPutOff_of_read`).
-/
namespace Detour

def PutOff.read (o : Setting) : PutOff → Except Failure Value
  | value v => .ok v
  | texts ts => o.ofTexts ts

namespace Settings

variable {R : Type} {l : Listener R} {s : Settings} {r : R} {f : Failure}
  {values : List (String × Value)}

theorem putOffValue_of_new {name : String} {entries : List (String × PutOff)}
    (h : name ∉ entries.map (·.1)) (p : PutOff) :
    putOffValue name p entries = entries ++ [(name, p)] := by
  induction entries with
  | nil => rfl
  | cons e rest ih =>
    obtain ⟨hne, hrest⟩ := not_or.mp (mt List.mem_cons.mpr h)
    simp [putOffValue, Ne.symm hne, ih hrest]

def deferAll (s : Settings) (entries : List (String × PutOff)) : Settings :=
  entries.foldl (fun s e => s.defer e.1 e.2) s

theorem deferAll_of_new {entries : List (String × PutOff)} (hdistinct : (entries.map (·.1)).Nodup)
    (hnew : ∀ name ∈ entries.map (·.1), name ∉ s.putOff.map (·.1)) :
    s.deferAll entries = { s with putOff := s.putOff ++ entries } := by
  induction entries generalizing s with
  | nil => simp [deferAll]
  | cons e rest ih =>
    obtain ⟨hfirst, hrest⟩ := List.nodup_cons.mp hdistinct
    have hdefer : s.defer e.1 e.2 = { s with putOff := s.putOff ++ [e] } := by
      rw [defer, putOffValue_of_new (hnew e.1 (by simp))]
    have hlater : ∀ name ∈ rest.map (·.1), name ∉ (s.defer e.1 e.2).putOff.map (·.1) := by
      intro name hname
      rw [hdefer]
      have hold := hnew name (List.mem_cons_of_mem _ hname)
      have hne : name ≠ e.1 := ne_of_mem_of_not_mem hname hfirst
      simp_all
    have hgo : s.deferAll (e :: rest) = (s.defer e.1 e.2).deferAll rest := rfl
    rw [hgo, ih hrest hlater, hdefer]
    simp

theorem readyValues_cons {name : String} {o : Setting} (h : s.find? name = some o) (p : PutOff)
    (rest : List (String × PutOff)) :
    s.readyValues ((name, p) :: rest) =
      (do return (name, ← p.read o) :: (← s.readyValues rest)) := by
  simp only [readyValues, h]
  cases p <;> rfl

theorem readyValues_cons_of_new {name : String} (h : s.find? name = none) (p : PutOff)
    (rest : List (String × PutOff)) : s.readyValues ((name, p) :: rest) = s.readyValues rest := by
  simp only [readyValues, h]

variable (s) in
theorem readyValues_texts (groups : List (String × List String)) :
    s.readyValues (groups.map fun g => (g.1, .texts g.2)) = s.readGroups groups := by
  induction groups with
  | nil => rfl
  | cons g rest ih =>
    simp only [List.map_cons, readyValues, readGroups, ih]

theorem readyValues_values (h : ∀ e ∈ values, s.contains e.1 = true) :
    s.readyValues (values.map fun e => (e.1, .value e.2)) = .ok values := by
  induction values with
  | nil => rfl
  | cons e rest ih =>
    obtain ⟨o, ho⟩ := Option.isSome_iff_exists.mp (h e (by simp))
    rw [List.map_cons, readyValues_cons ho, ih fun e' he' => h e' (by simp [he'])]
    rfl

variable (s) in
theorem readyValues_putOff (putOff entries : List (String × PutOff)) :
    ({ s with putOff } : Settings).readyValues entries = s.readyValues entries := by
  induction entries with
  | nil => rfl
  | cons e rest ih =>
    simp only [readyValues, ih]
    rfl

/-- What has no setting is left. -/
theorem readyValues_append {entries : List (String × PutOff)}
    (h : ∀ e ∈ entries, s.contains e.1 = false) (later : List (String × PutOff)) :
    s.readyValues (entries ++ later) = s.readyValues later := by
  induction entries with
  | nil => rfl
  | cons e rest ih =>
    have hnone : s.find? e.1 = none := by simpa [contains] using h e (by simp)
    rw [List.cons_append, readyValues_cons_of_new hnone, ih fun e' he' => h e' (by simp [he'])]

theorem names_of_readyValues {entries : List (String × PutOff)}
    (h : ∀ e ∈ entries, s.contains e.1 = true) (hread : s.readyValues entries = .ok values) :
    values.map (·.1) = entries.map (·.1) := by
  induction entries generalizing values with
  | nil =>
    cases hread
    rfl
  | cons e rest ih =>
    obtain ⟨o, ho⟩ := Option.isSome_iff_exists.mp (h e (by simp))
    rw [readyValues_cons ho] at hread
    cases hv : e.2.read o with
    | error f => simp [hv, bind, Except.bind] at hread
    | ok v =>
      cases hlater : s.readyValues rest with
      | error f => simp [hv, hlater, bind, Except.bind] at hread
      | ok later =>
        obtain rfl : (e.1, v) :: later = values := by
          simpa [hv, hlater, bind, Except.bind, pure, Except.pure] using hread
        rw [List.map_cons, List.map_cons, ih (fun e' he' => h e' (by simp [he'])) hlater]

theorem updateByName_of_plain (h : ∀ e ∈ values, e.1 ≠ "self") (l : Listener R) :
    updateByName l values = update l values := by
  have hnone : values.any (·.1 = "self") = false := by simpa [List.any_eq_false] using h
  rw [updateByName, hnone]
  rfl

/-- The word that updates keep for themselves cannot be set by its name. -/
theorem updateByName_of_reserved (h : ¬ ∀ e ∈ values, e.1 ≠ "self") (l : Listener R)
    (x : Settings × R) :
    updateByName l values x = .error (.reservedName "OptManager.update") x := by
  have hsome : values.any (·.1 = "self") = true := by simpa using h
  rw [updateByName, hsome]
  rfl

def unknownGroups (s : Settings) (specs : List String) : List (String × List String) :=
  (groupSpecs specs).filter fun g => !s.contains g.1

theorem setFromTexts_of_unread {specs : List String}
    (h : s.readGroups (groupSpecs specs) = .error f) (l : Listener R) (putOff : Bool) (r : R) :
    setFromTexts l specs putOff (s, r) = .error f (s, r) := by
  rw [setFromTexts, get_bind]
  dsimp only
  rw [h]
  rfl

theorem setFromTexts_of_read {specs : List String}
    (h : s.readGroups (groupSpecs specs) = .ok values) (l : Listener R) (putOff : Bool) (r : R) :
    setFromTexts l specs putOff (s, r) =
      if !(s.unknownGroups specs).isEmpty && !putOff then
        .error (.setting (.unknown ((s.unknownGroups specs).map (·.1)))) (s, r)
      else
        updateByName l values
          (s.deferAll ((s.unknownGroups specs).map fun g => (g.1, .texts g.2)), r) := by
  rw [setFromTexts, get_bind]
  dsimp only
  rw [h, deferAll, List.foldl_map]
  change (do
    if !(s.unknownGroups specs).isEmpty && !putOff then
      throw (.setting (.unknown ((s.unknownGroups specs).map (·.1))))
    modify fun x => ((s.unknownGroups specs).foldl (fun s g => s.defer g.1 (.texts g.2)) x.1, x.2)
    updateByName l values : Update R Unit) (s, r) = _
  cases !(s.unknownGroups specs).isEmpty && !putOff <;> rfl

theorem setFromTexts_of_known {specs : List String}
    (h : s.readGroups (groupSpecs specs) = .ok values) (hknown : s.unknownGroups specs = [])
    (l : Listener R) (putOff : Bool) (r : R) :
    setFromTexts l specs putOff (s, r) = updateByName l values (s, r) := by
  have hset := setFromTexts_of_read h l putOff r
  rw [hknown] at hset
  exact hset

/-- Nothing is done, or the values that the texts denote are set. -/
theorem setFromTexts_cases (l : Listener R) (specs : List String) (s : Settings) (r : R) :
    (∃ f, setFromTexts l specs false (s, r) = .error f (s, r)) ∨
      ∃ values, s.readGroups (groupSpecs specs) = .ok values ∧ s.unknownGroups specs = [] ∧
        setFromTexts l specs false (s, r) = update l values (s, r) := by
  cases hread : s.readGroups (groupSpecs specs) with
  | error f => exact .inl ⟨f, setFromTexts_of_unread hread l false r⟩
  | ok values =>
    cases hunknown : s.unknownGroups specs with
    | cons g rest =>
      have hset := setFromTexts_of_read hread l false r
      rw [hunknown] at hset
      exact .inl ⟨_, hset⟩
    | nil =>
      have hset := setFromTexts_of_known hread hunknown l false r
      by_cases hplain : ∀ e ∈ values, e.1 ≠ "self"
      · rw [updateByName_of_plain hplain] at hset
        exact .inr ⟨values, rfl, rfl, hset⟩
      · exact .inl ⟨_, hset.trans (updateByName_of_reserved hplain l _)⟩

theorem names_addText (name : String) (text : Option String)
    (groups : List (String × List String)) :
    (addText name text groups).map (·.1) =
      if name ∈ groups.map (·.1) then groups.map (·.1) else groups.map (·.1) ++ [name] := by
  induction groups with
  | nil => simp [addText]
  | cons g rest ih =>
    by_cases h : g.1 = name
    · simp [addText, h]
    · by_cases hmem : name ∈ rest.map (·.1)
      · simp_all [addText]
      · simp_all [addText, Ne.symm h]

/-- The texts for one name are put together. -/
theorem nodup_groupSpecs (specs : List String) : ((groupSpecs specs).map (·.1)).Nodup := by
  have hgo : ∀ groups : List (String × List String), (groups.map (·.1)).Nodup →
      ((specs.foldl (fun groups spec => addText (splitSpec spec).1 (splitSpec spec).2 groups)
        groups).map (·.1)).Nodup := by
    induction specs with
    | nil => exact fun _ h => h
    | cons spec rest ih =>
      refine fun groups h => ih _ ?_
      rw [names_addText]
      split
      · exact h
      · next hnew =>
        refine List.nodup_append.mpr ⟨h, by simp, fun a ha b hb => ?_⟩
        obtain rfl := List.mem_singleton.mp hb
        exact ne_of_mem_of_not_mem ha hnew
  exact hgo [] .nil

/-- The settings asked for in one call, by values or by texts. -/
inductive Assignments where
  | given (vs : List (String × Value)) (distinct : (vs.map (·.1)).Nodup)
  | written (specs : List String)

namespace Assignments

def apply (l : Listener R) : Assignments → Update R Unit
  | given vs _ => update l vs
  | written specs => setFromTexts l specs false

def defer (l : Listener R) : Assignments → Update R Unit
  | given vs _ => updateOrDefer l vs
  | written specs => setFromTexts l specs true

def entries : Assignments → List (String × PutOff)
  | given vs _ => vs.map fun e => (e.1, .value e.2)
  | written specs => (groupSpecs specs).map fun g => (g.1, .texts g.2)

def names (x : Assignments) : List String := x.entries.map (·.1)

def read (x : Assignments) (s : Settings) : Except Failure (List (String × Value)) :=
  s.readyValues x.entries

variable {x : Assignments}

theorem nodup_names (x : Assignments) : x.names.Nodup := by
  cases x with
  | given vs distinct => simpa [names, entries, Function.comp_def] using distinct
  | written specs => simpa [names, entries, Function.comp_def] using nodup_groupSpecs specs

end Assignments

theorem update_of_known (h : ∀ e ∈ values, s.contains e.1 = true) (l : Listener R) (r : R) :
    update l values (s, r) = setAll l values (s, r) := by
  have hknown : s.known values = values := List.filter_eq_self.mpr h
  have hunknown : s.unknown values = [] := by
    simpa [unknown, List.filter_eq_nil_iff] using h
  rw [update_eq, hknown, hunknown]
  cases hset : setAll l values (s, r) with
  | ok u y => rw [bind_of_ok hset]; rfl
  | error f y => rw [bind_of_error hset]

theorem update_nil (l : Listener R) (s : Settings) (r : R) : update l [] (s, r) = .ok () (s, r) :=
  update_of_known (List.forall_mem_nil _) l r

theorem updateByName_nil (l : Listener R) (s : Settings) (r : R) :
    updateByName l [] (s, r) = .ok () (s, r) :=
  update_nil l s r

namespace Assignments

variable {x : Assignments}

theorem names_of_read (h : ∀ name ∈ x.names, s.contains name = true)
    (hread : x.read s = .ok values) : values.map (·.1) = x.names :=
  names_of_readyValues (fun e he => h e.1 (List.mem_map_of_mem he)) hread

theorem contains_of_read (h : ∀ name ∈ x.names, s.contains name = true)
    (hread : x.read s = .ok values) : ∀ e ∈ values, s.contains e.1 = true := by
  intro e he
  have hmem : e.1 ∈ values.map (·.1) := List.mem_map_of_mem he
  rw [names_of_read h hread] at hmem
  exact h e.1 hmem

theorem plain_of_read (h : ∀ name ∈ x.names, s.contains name = true)
    (hplain : ∀ name ∈ x.names, name ≠ "self") (hread : x.read s = .ok values) :
    ∀ e ∈ values, e.1 ≠ "self" := by
  intro e he
  have hmem : e.1 ∈ values.map (·.1) := List.mem_map_of_mem he
  rw [names_of_read h hread] at hmem
  exact hplain e.1 hmem

theorem apply_eq (h : ∀ name ∈ x.names, s.contains name = true)
    (hplain : ∀ name ∈ x.names, name ≠ "self") (l : Listener R) (r : R) :
    x.apply l (s, r) = match x.read s with
      | .ok values => setAll l values (s, r)
      | .error f => .error f (s, r) := by
  cases x with
  | given vs distinct =>
    have hvs : ∀ e ∈ vs, s.contains e.1 = true := fun e he =>
      h e.1 (by simpa [names, entries] using ⟨e.2, he⟩)
    have hread : (given vs distinct).read s = .ok vs := readyValues_values hvs
    rw [hread]
    exact update_of_known hvs l r
  | written specs =>
    have hread : (written specs).read s = s.readGroups (groupSpecs specs) := readyValues_texts s _
    rw [hread]
    cases hgroups : s.readGroups (groupSpecs specs) with
    | error f => exact setFromTexts_of_unread hgroups l false r
    | ok values =>
      have hknown : s.unknownGroups specs = [] := by
        simpa [unknownGroups, List.filter_eq_nil_iff, names, entries] using h
      have hset := setFromTexts_of_known hgroups hknown l false r
      rw [updateByName_of_plain (plain_of_read h hplain (hread.trans hgroups))] at hset
      exact hset.trans (update_of_known (contains_of_read h (hread.trans hgroups)) l r)

theorem defer_eq (h : ∀ name ∈ x.names, s.contains name = false ∧ name ∉ s.putOff.map (·.1))
    (l : Listener R) (r : R) :
    x.defer l (s, r) = .ok () ({ s with putOff := s.putOff ++ x.entries }, r) := by
  have hall : s.deferAll x.entries = { s with putOff := s.putOff ++ x.entries } :=
    deferAll_of_new x.nodup_names fun name hname => (h name hname).2
  rw [← hall]
  cases x with
  | given vs distinct =>
    have hvs : ∀ e ∈ vs, s.contains e.1 = false := fun e he =>
      (h e.1 (by simpa [names, entries] using ⟨e.2, he⟩)).1
    have hknown : s.known vs = [] := by simpa [known, List.filter_eq_nil_iff] using hvs
    have hunknown : s.unknown vs = vs := by simpa [unknown, List.filter_eq_self] using hvs
    have hupdate := updateKnown_eq l vs s r
    rw [hknown, hunknown] at hupdate
    refine (bind_of_ok hupdate).trans ?_
    rw [entries, deferAll, List.foldl_map]
    rfl
  | written specs =>
    have hgroups : ∀ g ∈ groupSpecs specs, s.contains g.1 = false := fun g hg =>
      (h g.1 (by simpa [names, entries] using ⟨g.2, hg⟩)).1
    have hread : s.readGroups (groupSpecs specs) = .ok [] := by
      have hentries : ∀ e ∈ (written specs).entries, s.contains e.1 = false := fun e he =>
        (h e.1 (List.mem_map_of_mem he)).1
      rw [← readyValues_texts, ← List.append_nil (List.map _ _)]
      exact readyValues_append hentries []
    have hunknown : s.unknownGroups specs = groupSpecs specs := by
      simpa [unknownGroups, List.filter_eq_self] using hgroups
    have hset := setFromTexts_of_read hread l true r
    rw [hunknown, Bool.not_true, Bool.and_false, if_neg Bool.false_ne_true] at hset
    exact hset.trans (updateByName_nil l _ r)

end Assignments

theorem processPutOff_of_unread (h : s.readyValues s.putOff = .error f) (l : Listener R) (r : R) :
    processPutOff l (s, r) = .error f (s, r) := by
  rw [processPutOff, get_bind]
  dsimp only
  rw [h]
  rfl

theorem processPutOff_of_read (h : s.readyValues s.putOff = .ok values) (l : Listener R) (r : R) :
    processPutOff l (s, r) = (updateByName l values >>= fun _ => modify fun y => ({ y.1 with
      putOff := y.1.putOff.filter fun e => !(values.map (·.1)).contains e.1 }, y.2)) (s, r) := by
  rw [processPutOff, get_bind]
  dsimp only
  rw [h]
  rfl

theorem processPutOff_of_waiting (h : ∀ e ∈ s.putOff, s.contains e.1 = false) (l : Listener R)
    (r : R) : processPutOff l (s, r) = .ok () (s, r) := by
  have hread : s.readyValues s.putOff = .ok [] := by
    rw [← List.append_nil s.putOff]
    exact readyValues_append h []
  have hall : s.putOff.filter (fun e => !(([] : List (String × Value)).map (·.1)).contains e.1) =
      s.putOff := List.filter_eq_self.mpr (by simp)
  rw [processPutOff_of_read hread, bind_of_ok (updateByName_nil l s r)]
  exact congrArg (fun putOff => EStateM.Result.ok () ({ s with putOff }, r)) hall

section Process

variable {old : List (String × PutOff)} {x : Assignments}

/-- What has been put off is read like what is asked for now. -/
theorem readyValues_putOff_entries (hold : ∀ e ∈ old, s.contains e.1 = false) :
    ({ s with putOff := old ++ x.entries } : Settings).readyValues (old ++ x.entries) =
      x.read s := by
  rw [readyValues_putOff, readyValues_append hold]
  rfl

theorem filter_putOff (hold : ∀ e ∈ old, s.contains e.1 = false)
    (h : ∀ name ∈ x.names, s.contains name = true) (hread : x.read s = .ok values) :
    (old ++ x.entries).filter (fun e => !(values.map (·.1)).contains e.1) = old := by
  rw [Assignments.names_of_read h hread, List.filter_append]
  have hkept : old.filter (fun e => !x.names.contains e.1) = old := by
    refine List.filter_eq_self.mpr fun e he => ?_
    have hnew := hold e he
    simp only [Bool.not_eq_true', List.contains_eq_mem, decide_eq_false_iff_not]
    intro hmem
    rw [h e.1 hmem] at hnew
    cases hnew
  have hdone : x.entries.filter (fun e => !x.names.contains e.1) = [] := by
    refine List.filter_eq_nil_iff.mpr fun e he => ?_
    simpa [Assignments.names] using ⟨e.2, he⟩
  rw [hkept, hdone, List.append_nil]

end Process

end Settings
end Detour
