import Detour.Proofs.Engine.InStep
import Detour.Proofs.Settings.Latest
import Detour.Tool

/-!
# The tool before its settings are set

The tool has the addons of the engine and before them the one of the terminal (`Tool.start_spec`).
They take over all values that are usable, and then the settings have them (`Tool.Ready.setAll`).
-/
namespace Detour

namespace Chain

open Dispatch World

variable {names : List String} {table : List Setting}

/-- A cooldown and an interval are positive, and a key is not empty. -/
structure Usable (name : String) (v : Value) : Prop where
  cooldown : name = cooldownSetting.name → 0 < v.toInt?.getD 0
  key : name = Rules.keySetting.name → v ≠ .str "" ∧ ∃ text, v = .str text
  interval : name = intervalSetting.name → 0 < v.toInt?.getD 0

theorem acceptable_of_usable (h : ∀ name, Usable name (valueIn table name)) (names : List String) :
    Acceptable names table := by
  refine ⟨fun _ => (h _).cooldown rfl, fun _ => ?_, fun _ => (h _).interval rfl⟩
  obtain ⟨hne, text, htext⟩ := (h Rules.keySetting.name).key rfl
  rw [textIn, htext]
  rintro rfl
  exact hne htext

theorem invokeSync_terminal (names : List String) (table : List Setting) :
    invokeSync (.configure names) terminal.tree table =
      if names.contains verbositySetting.name then
        change fun w => { w with terminal := { w.terminal with
          verbosity := (Level.ofName? (textIn table verbositySetting.name)).getD Level.info } }
      else pure () :=
  invokeSync_singleton (.configure names) terminal table

theorem terminal_takes (names : List String) (table : List Setting) (s : Scene World) :
    ∃ t, guarded (invokeSync (.configure names) terminal.tree) table s = .ok .goesOn t ∧
      t.world.files = s.world.files := by
  have hinvoke := invokeSync_terminal names table
  cases hnames : names.contains verbositySetting.name with
  | true =>
    rw [hnames] at hinvoke
    exact ⟨_, guarded_of_ok (congrFun hinvoke s), rfl⟩
  | false =>
    rw [hnames] at hinvoke
    exact ⟨s, guarded_of_ok (congrFun hinvoke s), rfl⟩

theorem ignores_terminal (h : names.contains verbositySetting.name = false) :
    Ignores (.configure names) terminal := by
  intro table s
  have hinvoke := invokeSync_terminal names table
  rw [h] at hinvoke
  exact guarded_of_ok (congrFun hinvoke s)

theorem ignores_readEvents (names : List String) : Ignores (.configure names) readEvents :=
  ignores_of_absent rfl rfl

/-- A change that is acceptable is taken over by the addons of the tool, which leave the files as
they are. -/
theorem configure_tool (h : Acceptable names table) (s : Scene World) :
    ∃ t, trigger (.configure names) (terminal :: standard) table s = .ok () t ∧
      t.world.files = s.world.files := by
  obtain ⟨t, hterminal, ht⟩ := terminal_takes names table s
  have hguard := loopGuard_takes h.cooldown t
  obtain ⟨u, hrules, hu⟩ := ruleStore_takes h.key { t with world := guarding names table t.world }
  obtain ⟨v, alarms, agenda, hcleanup, hv, -⟩ := cleanup_takes h.interval u
  refine ⟨v, ?_, ?_⟩
  · rw [trigger_of_goesOn hterminal, standard, core]
    simp only [List.cons_append, List.nil_append]
    rw [trigger_of_goesOn (ignores_alarms names table t), trigger_of_goesOn hguard,
      trigger_of_goesOn hrules, trigger_of_goesOn (ignores_redirector names table u),
      trigger_of_goesOn hcleanup, trigger_of_goesOn (ignores_readEvents names table v)]
    rfl
  · rw [hv, hu]
    exact ht

end Chain

namespace Tool

open Chain Settings

def declarations : List Declaration :=
  [configDirectory, redirectsEnabled] ++ (terminal :: standard).flatMap (·.declares)

def settings : Settings := Settings.empty.withDeclared declarations

theorem add_terminal (scene : Scene World) :
    Action.add terminal (Settings.empty.withDeclared [configDirectory, redirectsEnabled],
        ⟨.empty, scene⟩) =
      .ok () ((Settings.empty.withDeclared [configDirectory, redirectsEnabled]).withDeclared
        terminal.declares, ⟨AddonTable.empty.withAddon terminal, scene⟩) := by
  rfl

theorem newcomers_standard (scene : Scene World) :
    Newcomers standard ((Settings.empty.withDeclared [configDirectory, redirectsEnabled]).withDeclared
      terminal.declares) ⟨AddonTable.empty.withAddon terminal, scene⟩ where
  alone := by
    unfold standard core
    simp only [List.cons_append, List.nil_append, List.forall_mem_cons]
    exact ⟨rfl, rfl, rfl, rfl, rfl, rfl, List.forall_mem_nil _⟩
  silent := by
    unfold standard core
    simp only [List.cons_append, List.nil_append, List.forall_mem_cons]
    exact ⟨rfl, rfl, rfl, rfl, rfl, rfl, List.forall_mem_nil _⟩
  named := by decide
  unloaded := by
    unfold standard core
    simp only [List.cons_append, List.nil_append, List.forall_mem_cons]
    exact ⟨rfl, rfl, rfl, rfl, rfl, rfl, List.forall_mem_nil _⟩
  distinct := by decide
  new := by decide
  defaults := by decide
  free := by decide
  ignored a ha names hnames b hb := by
    obtain rfl := List.mem_singleton.mp hb
    have hother : ∀ a ∈ standard, verbositySetting.name ∉ a.declares.map (·.name) := by decide
    exact ignores_terminal (Engine.contains_eq_false (hother a ha) hnames)
  apart := by
    refine List.pairwise_append.mpr
      ⟨(Engine.newcomers_core scene).apart, List.pairwise_singleton _ _, fun b hb a ha => ?_⟩
    obtain rfl := List.mem_singleton.mp ha
    refine fun names hnames => ?_
    have hother : ∀ name ∈ core.flatMap fun b => b.declares.map (·.name),
        names.contains name = false := by
      have hnew : ∀ name ∈ core.flatMap fun b => b.declares.map (·.name),
        name ∉ readEvents.declares.map (·.name) := by decide
      exact fun name hname => Engine.contains_eq_false (hnew name hname) hnames
    have hall : ∀ b ∈ core, Dispatch.Ignores (.configure names) b := by
      unfold core
      simp only [List.forall_mem_cons]
      exact ⟨ignores_alarms names, ignores_loopGuard (hother _ (by decide)),
        ignores_ruleStore (hother _ (by decide)) (hother _ (by decide)),
        ignores_redirector names, ignores_cleanup (hother _ (by decide)), List.forall_mem_nil _⟩
    exact hall b hb

theorem load_eq (scene : Scene World) :
    load (.empty, ⟨.empty, scene⟩) = .ok () (settings,
      ⟨(terminal :: standard).foldl AddonTable.withAddon .empty, scene⟩) := by
  have hupdate : Action.update [] (Settings.empty.withDeclared
      [configDirectory, redirectsEnabled], ⟨.empty, scene⟩) = .ok () _ :=
    Settings.update_nil _ _ _
  rw [load, Engine.assemble, bind_of_ok (Engine.declareBase_eq scene), bind_of_ok hupdate,
    Action.addAll, bind_of_ok (add_terminal scene), (newcomers_standard scene).addAll_eq rfl]
  simp [settings, declarations, Settings.withDeclared]

/-- A value for a setting of the tool that the setting takes and no addon refuses. -/
def Valid (e : String × Value) : Prop := settings.Takes e ∧ Usable e.1 e.2

/-- The addons of the tool are in the chain, the files are untouched, and the settings usable. -/
structure Ready (files : FileTree) (x : Settings × Stage World) : Prop where
  chain : x.2.addons.chain = terminal :: standard
  files : x.2.scene.world.files = files
  declared : ∀ name, x.1.declared? name = settings.declared? name
  usable : ∀ name, Usable name (World.valueIn x.1.table name)

variable {files : FileTree} {x : Settings × Stage World} {values : List (String × Value)}

/-- Before they get values, the settings have usable ones. -/
theorem usable_settings (name : String) : Usable name (World.valueIn settings.table name) := by
  refine ⟨?_, ?_, ?_⟩
  · rintro rfl
    decide
  · rintro rfl
    exact ⟨fun h => absurd (Value.str.inj h) (by decide), _, rfl⟩
  · rintro rfl
    decide

theorem start_spec (s : Start) :
    ∃ x, start s (initial s) = .ok () x ∧ x.1 = settings ∧ Ready s.files x := by
  have hload := load_eq ⟨s.clock, .fresh s.files s.input (.ofEntries []) (.fresh .logging none), []⟩
  have hstart : start s (initial s) = _ := bind_of_ok hload
  cases hstop : s.stopAfter with
  | none =>
    rw [hstop] at hstart
    exact ⟨_, hstart, rfl, rfl, rfl, fun _ => rfl, usable_settings⟩
  | some seconds =>
    rw [hstop] at hstart
    exact ⟨_, hstart, rfl, rfl, rfl, fun _ => rfl, usable_settings⟩

/-- A usable value stays one for the settings that do not get another. -/
theorem usable_of_latest {s t : Settings} (hs : ∀ name, Usable name (World.valueIn s.table name))
    (hvalues : ∀ e ∈ values, Usable e.1 e.2) (h : Latest values s t) (name : String) :
    Usable name (World.valueIn t.table name) := by
  have hold := hs name
  have hvalue : ∀ u : Settings, World.valueIn u.table name = (u.current? name).getD .null :=
    fun _ => rfl
  rw [hvalue] at hold ⊢
  rw [h name]
  cases hcurrent : s.current? name with
  | none =>
    rw [hcurrent] at hold
    exact hold
  | some v =>
    rw [hcurrent] at hold
    cases hlast : lastFor values name with
    | none =>
      rw [Option.map_some]
      exact hold
    | some w =>
      rw [Option.map_some]
      exact hvalues (name, w) (mem_of_lastFor hlast)

theorem Ready.setAll (h : Ready files x) (hvalid : ∀ e ∈ values, Valid e) :
    ∃ y, Settings.setAll Stage.listener values x = .ok () y ∧ Ready files y ∧
      Latest values x.1 y.1 := by
  obtain ⟨s, g⟩ := x
  have htakes : ∀ e ∈ values, s.Takes e := by
    intro e he
    obtain ⟨o, o', hdeclared, ho⟩ := (hvalid e he).1
    exact ⟨o, o', (h.declared e.1).trans hdeclared, ho⟩
  obtain ⟨table, hlatest, hdeclared, hset⟩ := setAll_of_taken htakes Stage.listener g
  have husable := usable_of_latest h.usable (fun e he => (hvalid e he).2) hlatest
  obtain ⟨t, htrigger, hfiles⟩ :=
    configure_tool (acceptable_of_usable husable (values.map (·.1))) g.scene
  by_cases hempty : values = []
  · exact ⟨_, hset g (by simp [hempty]), ⟨h.chain, h.files,
      fun name => (hdeclared name).trans (h.declared name), husable⟩, hlatest⟩
  · refine ⟨_, hset { g with scene := t } ?_, ⟨h.chain, hfiles.trans h.files,
      fun name => (hdeclared name).trans (h.declared name), husable⟩, hlatest⟩
    rw [if_neg hempty]
    simp [Stage.listener, show g.addons.chain = terminal :: standard from h.chain, htrigger]

end Tool
end Detour
