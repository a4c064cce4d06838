import Detour.Proofs.Loading

/-!
# Settings put off for an addon that is added later

Settings can be put off before the addon that declares them is added, or set afterwards. The values
come out the same, but the addon is not told of those that were put off: it neither takes them over
nor can refuse them. So the two orders agree exactly if the addon, being told, would take the values
without a change of the world (`Newcomer.agree_iff`).
-/
namespace Detour

namespace Action

variable {W : Type}

/-- Put settings off and add an addon, which may declare them. -/
def deferThenAdd (a : Addon W) (x : Settings.Assignments) : Action W Unit := do
  x.defer Stage.listener
  add a

def addThenApply (a : Addon W) (x : Settings.Assignments) : Action W Unit := do
  add a
  x.apply Stage.listener

/-- Two actions end well or fail alike, with the same settings and the same world. -/
structure Agree (h k : Action W Unit) (start : Settings × Stage W) : Prop where
  outcome : outcome h start = outcome k start
  table : (after h start).1.table = (after k start).1.table
  world : (after h start).2.scene.world = (after k start).2.scene.world

theorem Agree.of_ok {h k : Action W Unit} {start y z : Settings × Stage W} (hh : h start = .ok () y)
    (hk : k start = .ok () z) (table : y.1.table = z.1.table) (world : y.2.scene.world = z.2.scene.world) :
    Agree h k start := by
  refine ⟨?_, ?_, ?_⟩
  · simp [Detour.outcome, hh, hk]
  · rwa [after_of_ok hh, after_of_ok hk]
  · rwa [after_of_ok hh, after_of_ok hk]

theorem Agree.of_error {h k : Action W Unit} {start y z : Settings × Stage W} {f : Failure}
    (hh : h start = .error f y) (hk : k start = .error f z) (table : y.1.table = z.1.table)
    (world : y.2.scene.world = z.2.scene.world) : Agree h k start := by
  refine ⟨?_, ?_, ?_⟩
  · simp [Detour.outcome, hh, hk]
  · rwa [after_of_error hh, after_of_error hk]
  · rwa [after_of_error hh, after_of_error hk]

end Action

/-- Reading and assigning what is asked for gives some table. -/
def Settings.Assignments.Gives (x : Settings.Assignments) (s : Settings) (table : List Setting) :
    Prop :=
  ∃ values, values ≠ [] ∧ x.read s = .ok values ∧
    Settings.assignAll values (s, ()) = .ok () ({ s with table }, ())

namespace Newcomer

open Detour.Action Settings

variable {W : Type} {a : Addon W} {s : Settings} {g : Stage W} {x : Assignments}
  {values : List (String × Value)} {table : List Setting} {f : Failure}

theorem contains_withDeclared {name : String} (h : name ∈ a.declares.map (·.name)) :
    (s.withDeclared a.declares).contains name = true := by
  rw [contains_iff, names_withDeclared]
  exact List.mem_append_right _ h

theorem find?_withDeclared (h : Newcomer a s g) {name : String}
    (hname : name ∈ a.declares.map (·.name)) :
    ∃ d ∈ a.declares, (s.withDeclared a.declares).find? name = some d.setting := by
  have hknown := contains_withDeclared (s := s) hname
  obtain ⟨o, hfind⟩ := Option.isSome_iff_exists.mp hknown
  have hmem : o ∈ s.table ++ a.declares.map Declaration.setting := List.mem_of_find?_eq_some hfind
  rcases List.mem_append.mp hmem with hold | hnew
  · have hcontains : s.contains name = true := by
      rw [contains_iff, ← name_of_find? hfind]
      exact List.mem_map_of_mem hold
    obtain ⟨d, hd, rfl⟩ := List.mem_map.mp hname
    rw [h.new d hd] at hcontains
    cases hcontains
  · obtain ⟨d, hd, rfl⟩ := List.mem_map.mp hnew
    exact ⟨d, hd, hfind⟩

/-- The settings of the addon have no choices, so they refuse nothing. -/
theorem isRefusal_of_misfit (h : Newcomer a s g)
    (hnames : ∀ e ∈ values, e.1 ∈ a.declares.map (·.name)) {R : Type} {r r' : R} {s' : Settings}
    (hfail : assignAll values (s.withDeclared a.declares, r) = .error f (s', r')) :
    f.isRefusal = false := by
  rcases assignAll_cases values (s.withDeclared a.declares) r with
    ⟨table, hok⟩ | ⟨before, e, later, table, f', hv, hb, he, hfail'⟩
  · simp [hok] at hfail
  · obtain ⟨rfl, -⟩ : f' = f ∧ _ := by simpa [hfail'] using hfail
    obtain ⟨d, hd, hfind⟩ := h.find?_withDeclared (hnames e (by simp [hv]))
    have hdeclared := (declared?_assignAll hb e.1).trans (congrArg (Option.map _) hfind)
    exact isRefusal_of_free hdeclared (h.free d hd) he

section Orders

variable (h : Newcomer a s g) (hx : ∀ name ∈ x.names, name ∈ a.declares.map (·.name))
  (hplain : "self" ∉ a.declares.map (·.name))
  (hwaiting : ∀ e ∈ s.putOff, (s.withDeclared a.declares).contains e.1 = false)

include h hx hwaiting

include hplain in
theorem addThenApply_eq :
    addThenApply a x (s, g) = match x.read (s.withDeclared a.declares) with
      | .ok values => setAll Stage.listener values
          (s.withDeclared a.declares, { g with addons := g.addons.withAddon a })
      | .error f => .error f (s.withDeclared a.declares, { g with addons := g.addons.withAddon a }) :=
  (bind_of_ok (h.add_eq hwaiting)).trans
    (Assignments.apply_eq (fun name hname => contains_withDeclared (hx name hname))
      (fun name hname => ne_of_mem_of_not_mem (hx name hname) hplain) _ _)

/-- What has been put off is read and set between the declarations and the end of the chain. -/
theorem deferThenAdd_eq :
    deferThenAdd a x (s, g) = (processPutOff Stage.listener >>= fun _ => do
      let t ← addons
      setAddons { t with chain := t.chain ++ [a] })
        ({ s.withDeclared a.declares with putOff := s.putOff ++ x.entries },
          { g with addons := g.addons.index [a] }) := by
  have hdefer : x.defer Stage.listener (s, g) =
      .ok () ({ s with putOff := s.putOff ++ x.entries }, g) := by
    refine Assignments.defer_eq (fun name hname => ⟨?_, fun hput => ?_⟩) _ _
    · obtain ⟨d, hd, rfl⟩ := List.mem_map.mp (hx name hname)
      exact h.new d hd
    · obtain ⟨e, he, rfl⟩ := List.mem_map.mp hput
      have hknown := contains_withDeclared (s := s) (hx e.1 hname)
      rw [hwaiting e he] at hknown
      cases hknown
  have hlater : Newcomer a { s with putOff := s.putOff ++ x.entries } g :=
    ⟨h.alone, h.silent, h.unloaded, h.distinct, h.new, h.defaults, h.free, h.ignored⟩
  rw [deferThenAdd, bind_of_ok hdefer]
  have hregister := hlater.register_eq
  cases hprocess : processPutOff Stage.listener
      ({ s.withDeclared a.declares with putOff := s.putOff ++ x.entries },
        { g with addons := g.addons.index [a] }) with
  | ok u y =>
    rw [bind_of_ok hprocess]
    exact bind_of_ok (hregister.trans hprocess)
  | error f y =>
    rw [bind_of_error hprocess]
    exact bind_of_error (hregister.trans hprocess)

theorem deferThenAdd_of_unread (hread : x.read (s.withDeclared a.declares) = .error f) :
    deferThenAdd a x (s, g) =
      .error f ({ s.withDeclared a.declares with putOff := s.putOff ++ x.entries },
        { g with addons := g.addons.index [a] }) := by
  rw [deferThenAdd_eq h hx hwaiting]
  exact bind_of_error (processPutOff_of_unread
    ((readyValues_putOff_entries (s := s.withDeclared a.declares) hwaiting).trans hread) _ _)

omit h in
include hplain in
/-- What has been put off is set like anything else. -/
theorem processPutOff_of_setAll (hread : x.read (s.withDeclared a.declares) = .ok values) :
    processPutOff Stage.listener
        ({ s.withDeclared a.declares with putOff := s.putOff ++ x.entries },
          { g with addons := g.addons.index [a] }) =
      (setAll Stage.listener values >>= fun _ => modify fun y => ({ y.1 with
        putOff := y.1.putOff.filter fun e => !(values.map (·.1)).contains e.1 }, y.2))
        ({ s.withDeclared a.declares with putOff := s.putOff ++ x.entries },
          { g with addons := g.addons.index [a] }) := by
  have hvalues : ∀ e ∈ values, (s.withDeclared a.declares).contains e.1 = true :=
    Assignments.contains_of_read (fun name hname => contains_withDeclared (hx name hname)) hread
  have hready := (readyValues_putOff_entries (s := s.withDeclared a.declares) hwaiting).trans hread
  have hupdate := update_of_known (s := { s.withDeclared a.declares with
    putOff := s.putOff ++ x.entries }) hvalues Stage.listener { g with addons := g.addons.index [a] }
  have hvaluesPlain := Assignments.plain_of_read
    (fun name hname => contains_withDeclared (s := s) (hx name hname))
    (fun name hname => ne_of_mem_of_not_mem (hx name hname) hplain) hread
  rw [processPutOff_of_read hready, updateByName_of_plain hvaluesPlain]
  simp only [bind, EStateM.bind, hupdate]

include hplain in
theorem deferThenAdd_of_error {y : Settings × Stage W}
    (hread : x.read (s.withDeclared a.declares) = .ok values)
    (hset : setAll Stage.listener values
      ({ s.withDeclared a.declares with putOff := s.putOff ++ x.entries },
        { g with addons := g.addons.index [a] }) = .error f y) :
    deferThenAdd a x (s, g) = .error f y := by
  rw [deferThenAdd_eq h hx hwaiting]
  exact bind_of_error ((processPutOff_of_setAll hx hplain hwaiting hread).trans (bind_of_error hset))

include hplain in
theorem deferThenAdd_of_ok (hread : x.read (s.withDeclared a.declares) = .ok values)
    (hset : setAll Stage.listener values
      ({ s.withDeclared a.declares with putOff := s.putOff ++ x.entries },
        { g with addons := g.addons.index [a] }) =
      .ok () (⟨table, s.putOff ++ x.entries⟩, { g with addons := g.addons.index [a] })) :
    deferThenAdd a x (s, g) =
      .ok () ({ s with table }, { g with addons := g.addons.withAddon a }) := by
  have hprocess := (processPutOff_of_setAll hx hplain hwaiting hread).trans (bind_of_ok hset)
  have hfilter := filter_putOff (s := s.withDeclared a.declares) hwaiting
    (fun name hname => contains_withDeclared (hx name hname)) hread
  rw [deferThenAdd_eq h hx hwaiting]
  refine (bind_of_ok hprocess).trans ?_
  simp only [hfilter]
  rfl

omit h hwaiting in
theorem names_of_read_declared (hread : x.read (s.withDeclared a.declares) = .ok values) :
    values.map (·.1) = x.names :=
  Assignments.names_of_read (fun name hname => contains_withDeclared (hx name hname)) hread

include hplain in
/-- Where nothing comes to be set, both orders do without telling anyone. -/
theorem agree_of_unset (hunset : ∀ table, ¬ x.Gives (s.withDeclared a.declares) table) :
    Agree (deferThenAdd a x) (addThenApply a x) (s, g) := by
  have hearly := h.addThenApply_eq hx hplain hwaiting
  cases hread : x.read (s.withDeclared a.declares) with
  | error f =>
    rw [hread] at hearly
    exact .of_error (h.deferThenAdd_of_unread hx hwaiting hread) hearly rfl rfl
  | ok values =>
    rw [hread] at hearly
    by_cases hempty : values = []
    · subst hempty
      exact .of_ok (h.deferThenAdd_of_ok hx hplain hwaiting hread rfl) hearly rfl rfl
    obtain ⟨table, hassign | ⟨f, hassign⟩⟩ :=
      assignAll_beside values (s.withDeclared a.declares).table
    · exact absurd ⟨values, hempty, hread, hassign _ _⟩ (hunset table)
    · have hnames : ∀ e ∈ values, e.1 ∈ a.declares.map (·.name) := by
        intro e he
        refine hx e.1 ?_
        rw [← names_of_read_declared hx hread]
        exact List.mem_map_of_mem he
      have hmisfit := h.isRefusal_of_misfit hnames (hassign s.putOff ())
      exact .of_error
        (h.deferThenAdd_of_error hx hplain hwaiting hread (setAll_of_misfit hempty (hassign _ _) hmisfit))
        (hearly.trans (setAll_of_misfit hempty (hassign _ _) hmisfit)) rfl rfl

omit h hwaiting in
theorem gives_spec (hgives : x.Gives (s.withDeclared a.declares) table) :
    ∃ values, values ≠ [] ∧ x.read (s.withDeclared a.declares) = .ok values ∧
      values.map (·.1) = x.names ∧
      ∀ putOff (r : Stage W), assignAll values (⟨(s.withDeclared a.declares).table, putOff⟩, r) =
        .ok () (⟨table, putOff⟩, r) := by
  obtain ⟨values, hempty, hread, hassign⟩ := hgives
  refine ⟨values, hempty, hread, names_of_read_declared hx hread, ?_⟩
  obtain ⟨table', hall | ⟨f, hall⟩⟩ := assignAll_beside values (s.withDeclared a.declares).table
  · have hsame := (hall s.putOff ()).symm.trans hassign
    obtain ⟨rfl, -⟩ : table' = table ∧ s.putOff = (s.withDeclared a.declares).putOff := by
      simpa using hsame
    exact hall
  · have hsame := (hall s.putOff ()).symm.trans hassign
    cases hsame

include hplain in
theorem deferThenAdd_of_gives (hgives : x.Gives (s.withDeclared a.declares) table) :
    deferThenAdd a x (s, g) =
      .ok () ({ s with table }, { g with addons := g.addons.withAddon a }) := by
  obtain ⟨values, hempty, hread, hnames, hassign⟩ := gives_spec hx hgives
  have hignored := h.ignored x.names hx
  rw [← hnames] at hignored
  exact h.deferThenAdd_of_ok hx hplain hwaiting hread
    (setAll_of_accepted hempty (hassign _ _)
      (Stage.changed_of_ignored (g := { g with addons := g.addons.index [a] }) hignored table))

omit hwaiting in
theorem changed_withAddon (table : List Setting) :
    (Stage.listener : Listener (Stage W)).changed table x.names
        { g with addons := g.addons.withAddon a } =
      match Dispatch.trigger (.configure x.names) [a] table g.scene with
      | .ok _ scene => .ok () ⟨g.addons.withAddon a, scene⟩
      | .error f scene => .error f ⟨g.addons.withAddon a, scene⟩ := by
  have hpass := Dispatch.trigger_of_ignored (h.ignored x.names hx) [a] table g.scene
  cases htold : Dispatch.trigger (.configure x.names) [a] table g.scene with
  | ok u t => simp [Stage.listener, AddonTable.withAddon, hpass, htold]
  | error f t => simp [Stage.listener, AddonTable.withAddon, hpass, htold]

include hplain in
theorem addThenApply_of_accepted {t : Scene W} (hgives : x.Gives (s.withDeclared a.declares) table)
    (htold : Dispatch.trigger (.configure x.names) [a] table g.scene = .ok () t) :
    addThenApply a x (s, g) =
      .ok () ({ s with table }, ⟨g.addons.withAddon a, t⟩) := by
  obtain ⟨values, hempty, hread, hnames, hassign⟩ := gives_spec hx hgives
  have hchanged := h.changed_withAddon hx table
  rw [htold, ← hnames] at hchanged
  have hearly := h.addThenApply_eq hx hplain hwaiting
  rw [hread] at hearly
  exact hearly.trans (setAll_of_accepted hempty (hassign _ _) hchanged)

include hplain in
theorem addThenApply_of_refused {t : Scene W} (hgives : x.Gives (s.withDeclared a.declares) table)
    (htold : Dispatch.trigger (.configure x.names) [a] table g.scene = .error f t) :
    ∃ f' y, addThenApply a x (s, g) = .error f' y := by
  obtain ⟨values, hempty, hread, hnames, hassign⟩ := gives_spec hx hgives
  obtain ⟨f, rfl⟩ := Failure.isRefusal_iff.mp (Dispatch.isRefusal_of_trigger htold)
  have hchanged := h.changed_withAddon hx table
  rw [htold, ← hnames] at hchanged
  have hearly := h.addThenApply_eq hx hplain hwaiting
  rw [hread] at hearly
  obtain ⟨f', g', hback⟩ := takeBack_spec Stage.orderly_listener (values.map (·.1)) f
    (s.withDeclared a.declares) table ⟨g.addons.withAddon a, t⟩
  exact ⟨.setting f', _,
    hearly.trans ((setAll_of_refused hempty (hassign _ _) hchanged).trans hback)⟩

include hplain in
/-- Settings that are put off are set without the addon being told. So the two orders agree exactly
if the addon, being told, would take them without a change of the world. -/
theorem agree_iff :
    Agree (deferThenAdd a x) (addThenApply a x) (s, g) ↔
      ∀ table, x.Gives (s.withDeclared a.declares) table →
        ∃ t, Dispatch.trigger (.configure x.names) [a] table g.scene = .ok () t ∧
          t.world = g.scene.world := by
  constructor
  · intro hagree table hgives
    have hlate := h.deferThenAdd_of_gives hx hplain hwaiting hgives
    cases htold : Dispatch.trigger (.configure x.names) [a] table g.scene with
    | ok u t =>
      have hearly := h.addThenApply_of_accepted hx hplain hwaiting hgives htold
      have hworld := hagree.world
      rw [after_of_ok hlate, after_of_ok hearly] at hworld
      exact ⟨t, rfl, hworld.symm⟩
    | error f t =>
      obtain ⟨f', y, hearly⟩ := h.addThenApply_of_refused hx hplain hwaiting hgives htold
      have houtcome := hagree.outcome
      simp [outcome, hlate, hearly] at houtcome
  · intro hnothing
    by_cases hset : ∃ table, x.Gives (s.withDeclared a.declares) table
    · obtain ⟨table, hgives⟩ := hset
      obtain ⟨t, htold, hworld⟩ := hnothing table hgives
      exact .of_ok (h.deferThenAdd_of_gives hx hplain hwaiting hgives)
        (h.addThenApply_of_accepted hx hplain hwaiting hgives htold) rfl hworld.symm
    · exact h.agree_of_unset hx hplain hwaiting (not_exists.mp hset)

end Orders

end Newcomer
end Detour
