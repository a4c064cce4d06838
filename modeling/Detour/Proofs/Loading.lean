import Detour.Proofs.Sending
import Detour.Proofs.Settings.PutOff

/-!
# Loading an addon

An addon that is new (`Newcomer`) gets its settings declared, is findable by its name, and only then
has what was put off for its settings set (`Newcomer.register_eq`). It is put at the end of the chain
last of all, so it is not told of that (`Newcomer.add_eq`).
-/
namespace Detour

def Declaration.setting (d : Declaration) : Setting :=
  { name := d.name, type := d.type, default := d.default, help := Text.squeezed d.help
    choices := d.choices, value := none }

theorem Setting.declare_of_holds {d : Declaration} (h : d.type.holds d.default = true) :
    Setting.declare d = .ok d.setting := by
  simp [declare, checkType, h, bind, Except.bind, pure, Except.pure, Declaration.setting]

namespace Settings

variable {R : Type} {l : Listener R} {s : Settings} {r : R}

def withDeclared (s : Settings) (ds : List Declaration) : Settings :=
  { s with table := s.table ++ ds.map Declaration.setting }

theorem putInTable_of_new {o : Setting} {table : List Setting}
    (h : table.find? (·.name = o.name) = none) : putInTable o table = table ++ [o] := by
  induction table with
  | nil => rfl
  | cons p rest ih =>
    by_cases hp : p.name = o.name
    · simp [hp] at h
    · rw [putInTable, if_neg hp, ih (by simpa [hp] using h), List.cons_append]

theorem contains_iff {name : String} : s.contains name = true ↔ name ∈ s.names := by
  simp [contains, find?, names]

theorem names_withDeclared (s : Settings) (ds : List Declaration) :
    (s.withDeclared ds).names = s.names ++ ds.map (·.name) := by
  simp [withDeclared, names, Declaration.setting, Function.comp_def]

theorem declare_of_new {d : Declaration} (hnew : s.contains d.name = false)
    (hdefault : d.type.holds d.default = true)
    (hl : l.changed (s.withDeclared [d]).table [d.name] r = .ok () r) :
    declare l d (s, r) = .ok () (s.withDeclared [d], r) := by
  have hfind : s.find? d.name = none := by simpa [contains] using hnew
  have hput : s.put d.setting = s.withDeclared [d] := congrArg (fun table => { s with table })
    (putInTable_of_new (o := d.setting) hfind)
  have hdeclare : declare l d (s, r) = notify l [d.name] (s.put d.setting, r) := by
    simp only [declare, Setting.declare_of_holds hdefault]
    rfl
  rw [hdeclare, hput]
  exact notify_of_ok hl

theorem declareOnce_of_new {d : Declaration} (hnew : s.contains d.name = false)
    (hdefault : d.type.holds d.default = true) (hchoices : d.choices = none)
    (hl : l.changed (s.withDeclared [d]).table [d.name] r = .ok () r) (warn : String → R → R) :
    declareOnce l warn d (s, r) = .ok () (s.withDeclared [d], r) := by
  have hfind : s.find? d.name = none := by simpa [contains] using hnew
  unfold declareOnce
  rw [hchoices]
  simp only [get_bind, hfind]
  exact declare_of_new hnew hdefault hl

end Settings

section Newcomer

variable {W : Type} {a : Addon W} {s : Settings} {g : Stage W}

def AddonTable.withAddon (t : AddonTable W) (a : Addon W) : AddonTable W :=
  { t.index [a] with chain := t.chain ++ [a] }

/-- An addon without others below it that has not been loaded, and whose settings are new and mean
nothing to the addons in the chain. -/
structure Newcomer (a : Addon W) (s : Settings) (g : Stage W) : Prop where
  alone : a.tree = [a]
  silent : a.handler .load = .absent
  unloaded : g.addons.contains a.name = false
  distinct : (a.declares.map (·.name)).Nodup
  new : ∀ d ∈ a.declares, s.contains d.name = false
  defaults : ∀ d ∈ a.declares, d.type.holds d.default = true
  free : ∀ d ∈ a.declares, d.choices = none
  ignored : ∀ names, (∀ name ∈ names, name ∈ a.declares.map (·.name)) →
    ∀ b ∈ g.addons.chain, Dispatch.Ignores (.configure names) b

theorem Stage.changed_of_ignored {names : List String}
    (h : ∀ b ∈ g.addons.chain, Dispatch.Ignores (.configure names) b) (table : List Setting) :
    (Stage.listener : Listener (Stage W)).changed table names g = .ok () g := by
  have htrigger := Dispatch.trigger_of_ignored h [] table g.scene
  rw [List.append_nil] at htrigger
  simp only [listener, htrigger]
  rfl

/-- The addons of a chain refuse changes of settings at most. -/
theorem Stage.orderly_listener :
    (Stage.listener : Listener (Stage W)).Orderly := by
  refine ⟨fun {table names g f g'} h => ?_, fun _ _ g => ⟨g, rfl⟩⟩
  simp only [listener] at h
  cases htrigger : Dispatch.trigger (.configure names) g.addons.chain table g.scene with
  | ok u t => simp [htrigger] at h
  | error f' t =>
    obtain ⟨rfl, -⟩ : f' = f ∧ _ := by simpa [htrigger] using h
    exact Dispatch.isRefusal_of_trigger htrigger

namespace Action

theorem declareAll_of_new {ds : List Declaration} (hdistinct : (ds.map (·.name)).Nodup)
    (hnew : ∀ d ∈ ds, s.contains d.name = false)
    (hdefaults : ∀ d ∈ ds, d.type.holds d.default = true) (hfree : ∀ d ∈ ds, d.choices = none)
    (hignored : ∀ d ∈ ds, ∀ b ∈ g.addons.chain, Dispatch.Ignores (.configure [d.name]) b) :
    declareAll ds (s, g) = .ok () (s.withDeclared ds, g) := by
  induction ds generalizing s with
  | nil => simp [declareAll, Settings.withDeclared, pure, EStateM.pure]
  | cons d rest ih =>
    obtain ⟨hfirst, hrest⟩ := List.nodup_cons.mp hdistinct
    have hdeclare := Settings.declareOnce_of_new (hnew d (by simp)) (hdefaults d (by simp))
      (hfree d (by simp)) (Stage.changed_of_ignored (hignored d (by simp)) _) Stage.warn
    have hstill : ∀ e ∈ rest, (s.withDeclared [d]).contains e.name = false := by
      intro e he
      have hold : e.name ∉ s.names := by
        rw [← Settings.contains_iff, hnew e (by simp [he])]
        exact Bool.false_ne_true
      have hne : e.name ≠ d.name := ne_of_mem_of_not_mem (List.mem_map_of_mem he) hfirst
      rw [Bool.eq_false_iff, Ne, Settings.contains_iff, Settings.names_withDeclared]
      simp [hold, hne]
    rw [declareAll, bind_of_ok hdeclare, ih hrest hstill (fun e he => hdefaults e (by simp [he]))
      (fun e he => hfree e (by simp [he])) fun e he => hignored e (by simp [he])]
    simp [Settings.withDeclared]

end Action

namespace Newcomer

/-- Loading declares the settings and makes the addon findable. Then what has been put off for its
settings is set. -/
theorem register_eq (h : Newcomer a s g) :
    Action.register a (s, g) = Settings.processPutOff Stage.listener
      (s.withDeclared a.declares, { g with addons := g.addons.index [a] }) := by
  have hfree : a.tree.find? (fun b => g.addons.contains b.name) = none := by
    simp [h.alone, h.unloaded]
  have haddons : ∀ x : Settings × Stage W, Action.addons x = .ok x.2.addons x := fun _ => rfl
  have hset : ∀ (t : AddonTable W) (x : Settings × Stage W),
      Action.setAddons t x = .ok () (x.1, { x.2 with addons := t }) := fun _ _ => rfl
  have hcall : Action.onScene (Dispatch.callSync .load a) (s, g) = .ok () (s, g) := by
    refine Action.onScene_of_ok (g := (s, g)) (t := g.scene) ?_
    rw [Dispatch.callSync_of_absent h.silent]
    rfl
  have hdeclare : Action.declareAll a.declares (s, g) =
      .ok () (s.withDeclared a.declares, g) :=
    Action.declareAll_of_new h.distinct h.new h.defaults h.free fun d hd =>
      h.ignored [d.name] (by simpa using ⟨d, hd, rfl⟩)
  have hload : Action.load [a] (s, g) = .ok () (s.withDeclared a.declares, g) := by
    rw [Action.load, bind_of_ok hcall, bind_of_ok hdeclare]
    rfl
  rw [Action.register, bind_of_ok (haddons _)]
  dsimp only
  rw [hfree]
  dsimp only
  rw [h.alone, bind_of_ok hload, bind_of_ok (haddons _), bind_of_ok (hset _ _)]

theorem add_of_ok {s' : Settings} {g' : Stage W}
    (h : Action.register a (s, g) = .ok () (s', g')) :
    Action.add a (s, g) =
      .ok () (s', { g' with addons := { g'.addons with chain := g'.addons.chain ++ [a] } }) := by
  rw [Action.add, bind_of_ok h]
  rfl

/-- Where nothing has been put off for it, adding an addon declares its settings and nothing else. -/
theorem add_eq (h : Newcomer a s g)
    (hwaiting : ∀ e ∈ s.putOff, (s.withDeclared a.declares).contains e.1 = false) :
    Action.add a (s, g) =
      .ok () (s.withDeclared a.declares, { g with addons := g.addons.withAddon a }) := by
  have hregister : Action.register a (s, g) =
      .ok () (s.withDeclared a.declares, { g with addons := g.addons.index [a] }) :=
    h.register_eq.trans (Settings.processPutOff_of_waiting hwaiting _ _)
  exact add_of_ok hregister

end Newcomer

namespace AddonTable

variable {t : AddonTable W}

theorem lookup_putName (name other : String) (a : Addon W) (l : List (String × Addon W)) :
    (putName name a l).lookup other = if other = name then some a else l.lookup other := by
  induction l with
  | nil => exact lookup_cons name other a []
  | cons e rest ih =>
    obtain ⟨k, b⟩ := e
    by_cases hk : k = name
    · subst hk
      simp only [putName, if_true, lookup_cons]
      split <;> rfl
    · simp only [putName, hk, if_false, lookup_cons, ih]
      split
      · next h => rw [if_neg (h ▸ hk)]
      · rfl

theorem contains_withAddon (a : Addon W) (name : String) :
    (t.withAddon a).contains name = (decide (name = a.name) || t.contains name) := by
  by_cases h : name = a.name <;> simp [contains, get?, withAddon, index, lookup_putName, h]

end AddonTable

/-- Addons that can be added one after the other: each is new when its turn comes, and those before
it do not care for its settings. -/
structure Newcomers (as : List (Addon W)) (s : Settings) (g : Stage W) : Prop where
  alone : ∀ a ∈ as, a.tree = [a]
  silent : ∀ a ∈ as, a.handler .load = .absent
  named : (as.map (·.name)).Nodup
  unloaded : ∀ a ∈ as, g.addons.contains a.name = false
  distinct : ((as.flatMap (·.declares)).map (·.name)).Nodup
  new : ∀ d ∈ as.flatMap (·.declares), s.contains d.name = false
  defaults : ∀ d ∈ as.flatMap (·.declares), d.type.holds d.default = true
  free : ∀ d ∈ as.flatMap (·.declares), d.choices = none
  ignored : ∀ a ∈ as, ∀ names, (∀ name ∈ names, name ∈ a.declares.map (·.name)) →
    ∀ b ∈ g.addons.chain, Dispatch.Ignores (.configure names) b
  apart : as.Pairwise fun b a => ∀ names, (∀ name ∈ names, name ∈ a.declares.map (·.name)) →
    Dispatch.Ignores (.configure names) b

namespace Newcomers

variable {rest : List (Addon W)}

theorem head (h : Newcomers (a :: rest) s g) : Newcomer a s g := by
  have hmem : ∀ d ∈ a.declares, d ∈ (a :: rest).flatMap (·.declares) := fun d hd => by simp [hd]
  have hdistinct := h.distinct
  rw [List.flatMap_cons, List.map_append] at hdistinct
  exact ⟨h.alone a (by simp), h.silent a (by simp), h.unloaded a (by simp),
    (List.nodup_append.mp hdistinct).1, fun d hd => h.new d (hmem d hd),
    fun d hd => h.defaults d (hmem d hd), fun d hd => h.free d (hmem d hd),
    h.ignored a (by simp)⟩

theorem tail (h : Newcomers (a :: rest) s g) :
    Newcomers rest (s.withDeclared a.declares) { g with addons := g.addons.withAddon a } := by
  have hmem : ∀ d ∈ rest.flatMap (·.declares), d ∈ (a :: rest).flatMap (·.declares) :=
    fun d hd => by
      rw [List.flatMap_cons]
      exact List.mem_append_right _ hd
  have hnamed := List.nodup_cons.mp h.named
  have hdistinct := h.distinct
  rw [List.flatMap_cons, List.map_append] at hdistinct
  have hapart := List.pairwise_cons.mp h.apart
  refine ⟨fun b hb => h.alone b (by simp [hb]), fun b hb => h.silent b (by simp [hb]), hnamed.2,
    fun b hb => ?_, (List.nodup_append.mp hdistinct).2.1, fun d hd => ?_,
    fun d hd => h.defaults d (hmem d hd), fun d hd => h.free d (hmem d hd),
    fun b hb names hnames c hc => ?_, hapart.2⟩
  · have hne : b.name ≠ a.name := ne_of_mem_of_not_mem (List.mem_map_of_mem hb) hnamed.1
    simpa [AddonTable.contains_withAddon, hne] using h.unloaded b (by simp [hb])
  · have hold : d.name ∉ s.names := by
      rw [← Settings.contains_iff, h.new d (hmem d hd)]
      exact Bool.false_ne_true
    have hother : d.name ∉ a.declares.map (·.name) := fun hin =>
      (List.nodup_append.mp hdistinct).2.2 d.name hin d.name (List.mem_map_of_mem hd) rfl
    rw [Bool.eq_false_iff, Ne, Settings.contains_iff, Settings.names_withDeclared, List.mem_append]
    exact not_or.mpr ⟨hold, hother⟩
  · rcases List.mem_append.mp hc with hc | hc
    · exact h.ignored b (by simp [hb]) names hnames c hc
    · obtain rfl := List.mem_singleton.mp hc
      exact hapart.1 b hb names hnames

/-- Where nothing has been put off, adding them declares their settings and nothing else. -/
theorem addAll_eq {as : List (Addon W)} (h : Newcomers as s g) (hput : s.putOff = []) :
    Action.addAll as (s, g) = .ok () (s.withDeclared (as.flatMap (·.declares)),
      { g with addons := as.foldl AddonTable.withAddon g.addons }) := by
  induction as generalizing s g with
  | nil => simp [Action.addAll, Settings.withDeclared, pure, EStateM.pure]
  | cons a rest ih =>
    have hwaiting : ∀ e ∈ s.putOff, (s.withDeclared a.declares).contains e.1 = false := by
      simp [hput]
    rw [Action.addAll, bind_of_ok (h.head.add_eq hwaiting), ih h.tail hput]
    simp [Settings.withDeclared]

end Newcomers

end Newcomer
end Detour
