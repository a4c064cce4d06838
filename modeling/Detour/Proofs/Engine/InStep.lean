import Detour.Engine.Run
import Detour.Proofs.Engine.Configure
import Detour.Proofs.Loading
import Detour.Proofs.Settings.Step

/-!
# The engine in step with its settings

The loop guard has a copy of its cooldown, and the cleanup one of its interval, as the period of an
alarm. A change that one addon refuses has been taken over by those before it, and they get the old
values back when the settings have been restored. So the copies are right after every call that
changes settings, whether it fails or not, and after the engine has been started or stopped
(`Engine.in_step`).
-/
namespace Detour.Engine

open Chain Dispatch World

/-- The settings are declared as some others are, and acceptable, and the addons have copies of
them. -/
structure Tuned (base s : Settings) (g : Stage World) : Prop where
  chain : g.addons.chain = core
  declared : ∀ name, s.declared? name = base.declared? name
  sound : s.Sound
  acceptable : ∀ names, Acceptable names s.table
  copied : Copied [] s.table g.scene.world

variable {base s t : Settings} {g : Stage World} {names : List String}

theorem valueIn_of_reassigned (h : Settings.Reassigned names s t) (name : String)
    (hname : names.contains name = false) : valueIn t.table name = valueIn s.table name := by
  have hfind := h.others name (by simpa using hname)
  exact congrArg (fun o : Option Setting => (o.map (·.current)).getD .null) hfind

theorem changed_of_trigger {table : List Setting} {u : Scene World} (hchain : g.addons.chain = core)
    (h : trigger (.configure names) core table g.scene = .ok () u) :
    (Stage.listener : Listener (Stage World)).changed table names g =
      .ok () { g with scene := u } := by
  simp [Stage.listener, hchain, h]

/-- Once they are told of the old values, the addons have their copies back. -/
theorem recovers (hchain : g.addons.chain = core)
    (hdeclared : ∀ name, s.declared? name = base.declared? name) (hsound : s.Sound)
    (hacceptable : ∀ names, Acceptable names s.table)
    (hcopied : Copied names s.table g.scene.world) :
    Settings.Recovers Stage.listener (Tuned base) names s g := by
  intro table f
  obtain ⟨u, htrigger, hu⟩ := configure_of_acceptable (hacceptable names) hcopied
  exact ⟨g, _, rfl, changed_of_trigger hchain htrigger, hchain, hdeclared, hsound, hacceptable, hu⟩

/-- The addons take changes over, or refuse them and can be told of the old values again. -/
theorem keepsStep (base : Settings) : Settings.KeepsStep Stage.listener (Tuned base) where
  sound h := h.sound
  recovers {names s g} h :=
    recovers h.chain h.declared h.sound h.acceptable (h.copied.of_same fun _ _ => rfl)
  changed {names s t g} h hst := by
    have hsame := valueIn_of_reassigned hst
    by_cases hacceptable : Acceptable names t.table
    · obtain ⟨u, htrigger, hu⟩ := configure_of_acceptable hacceptable (h.copied.of_same hsame)
      exact .inl ⟨_, changed_of_trigger h.chain htrigger, h.chain,
        fun name => (hst.declared name).trans (h.declared name), hst.sound h.sound,
        .of_named hsame h.acceptable hacceptable, hu⟩
    · obtain ⟨f, u, htrigger, hkept⟩ := configure_of_unacceptable hacceptable g.scene
      refine .inr ⟨f, { g with scene := u }, ?_, ?_⟩
      · simp [Stage.listener, h.chain, htrigger]
      · exact recovers (g := { g with scene := u }) h.chain h.declared h.sound h.acceptable
          (hkept s.table (h.copied.of_same fun _ _ => rfl))

theorem triggerEvent_running {table : List Setting} (h : 0 < wholeIn table intervalSetting.name)
    (u : Scene World) :
    ∃ v, triggerEvent .running core table u = .ok () v ∧ v.world.guard = u.world.guard ∧
      v.world.files = u.world.files ∧ v.world.rulesPath = u.world.rulesPath ∧
      v.world.alarms.Rings cleanupAlarm (.whole (wholeIn table intervalSetting.name)) := by
  have hrun : runAlarms u = .ok () { u with world := { u.world with
      alarms := u.world.alarms.run.1
      agenda := u.world.alarms.run.2.foldl (fun a t => a.spawn (.alarm t)) u.world.agenda } } := rfl
  obtain ⟨alarms, agenda, hschedule, hrings⟩ := scheduleCleanup_spec h { u with world := { u.world with
      alarms := u.world.alarms.run.1
      agenda := u.world.alarms.run.2.foldl (fun a t => a.spawn (.alarm t)) u.world.agenda } }
  refine ⟨{ u with world := { u.world with alarms, agenda, cleanupScheduled := true } }, ?_, rfl,
    rfl, rfl, hrings⟩
  unfold core
  rw [triggerEvent_of_plain rfl rfl hrun, triggerEvent_of_absent rfl rfl,
    triggerEvent_of_absent rfl rfl, triggerEvent_of_absent rfl rfl,
    triggerEvent_of_plain rfl rfl hschedule]
  rfl

theorem triggerEvent_done (table : List Setting) (u : Scene World) :
    ∃ v, triggerEvent .done core table u = .ok () v ∧
      v.world.guard.cooldown = u.world.guard.cooldown ∧ v.world.files = u.world.files ∧
      v.world.rulesPath = u.world.rulesPath ∧ v.world.cleanupScheduled = false := by
  have hstop : stopAlarms u = .ok () { u with world := { u.world with
      alarms := u.world.alarms.stop
      agenda := u.world.agenda.cancel (isStale u.world.alarms.stop) } } := rfl
  refine ⟨{ u with world := { u.world with
    alarms := u.world.alarms.stop, agenda := u.world.agenda.cancel (isStale u.world.alarms.stop)
    guard := u.world.guard.reset, cleanupScheduled := false } }, ?_, rfl, rfl, rfl,
    rfl⟩
  unfold core
  rw [triggerEvent_of_plain rfl rfl hstop, triggerEvent_of_plain (a := loopGuard) rfl rfl rfl,
    triggerEvent_of_absent rfl rfl, triggerEvent_of_absent rfl rfl,
    triggerEvent_of_plain (a := cleanup) rfl rfl rfl]
  rfl

inductive Call where
  | update (values : List (String × Value))
  | set (specs : List String)
  | running
  | done

namespace Call

def run : Call → Engine Unit
  | update values => Action.update values
  | set specs => Action.setFromTexts specs false
  | running => Action.triggerEvent .running
  | done => Action.triggerEvent .done

/-- Whether values for settings that are declared have the types that are declared. -/
def Typed (base : Settings) : Call → Prop
  | update values => ∀ e ∈ values, (base.declared? e.1).all (·.type.holds e.2) = true
  | _ => True

instance (base : Settings) : (c : Call) → Decidable (c.Typed base)
  | update values => inferInstanceAs
      (Decidable (∀ e ∈ values, (base.declared? e.1).all (·.type.holds e.2) = true))
  | set _ | running | done => inferInstanceAs (Decidable True)

end Call

def afterCalls (g : Settings × Stage World) (calls : List Call) : Settings × Stage World :=
  calls.foldl (fun g c => after c.run g) g

theorem Tuned.call (h : Tuned base s g) {c : Call} (hc : c.Typed base) :
    Tuned base (after c.run (s, g)).1 (after c.run (s, g)).2 := by
  cases c with
  | update values =>
    refine (keepsStep base).update h fun e he o hfind => ?_
    have hdeclared : base.declared? e.1 = some { o with value := none } := by
      rw [← h.declared, Settings.declared?, hfind]
      rfl
    have htype := hc e he
    rwa [hdeclared] at htype
  | set specs => exact (keepsStep base).setFromTexts h specs
  | running =>
    obtain ⟨v, htrigger, hguard, hfiles, hpath, hrings⟩ :=
      triggerEvent_running ((h.acceptable [intervalSetting.name]).interval rfl) g.scene
    rw [← h.chain] at htrigger
    have hrun := Action.triggerEvent_of_ok (g := (s, g)) htrigger
    rw [Call.run, after_of_ok hrun]
    refine ⟨h.chain, h.declared, h.sound, h.acceptable, fun _ => ?_, fun _ => ?_, fun _ _ => hrings⟩
    · exact (congrArg Guard.cooldown hguard).trans (h.copied.cooldown rfl)
    · rw [hfiles, hpath]
      exact h.copied.file rfl
  | done =>
    obtain ⟨v, htrigger, hcooldown, hfiles, hpath, hscheduled⟩ :=
      triggerEvent_done s.table g.scene
    rw [← h.chain] at htrigger
    have hrun := Action.triggerEvent_of_ok (g := (s, g)) htrigger
    rw [Call.run, after_of_ok hrun]
    refine ⟨h.chain, h.declared, h.sound, h.acceptable, fun _ => ?_, fun _ => ?_, fun _ hstill => ?_⟩
    · exact hcooldown.trans (h.copied.cooldown rfl)
    · rw [hfiles, hpath]
      exact h.copied.file rfl
    · rw [hscheduled] at hstill
      cases hstill

theorem Tuned.calls (h : Tuned base s g) {calls : List Call} (hcalls : ∀ c ∈ calls, c.Typed base) :
    Tuned base (afterCalls (s, g) calls).1 (afterCalls (s, g) calls).2 := by
  induction calls generalizing s g with
  | nil => exact h
  | cons c rest ih =>
    exact ih (h.call (hcalls c (by simp))) fun c' hc' => hcalls c' (by simp [hc'])

/-- The private copies of settings are what the settings say, and the settings are usable. -/
structure InStep (g : Settings × Stage World) : Prop where
  cooldown : g.1.current? "redirect_cooldown" = some (.int g.2.scene.world.guard.cooldown)
  positive : 0 < g.2.scene.world.guard.cooldown
  interval : ∃ n, g.1.current? "cleanup_interval" = some (.int n) ∧ 0 < n ∧
    (g.2.scene.world.cleanupScheduled = true →
      g.2.scene.world.alarms.Rings "redirectCleanup" (.whole n))
  key : ∃ key, g.1.current? "rules_key" = some (.str key) ∧ key ≠ ""

theorem valueIn_of_find? {name : String} {o : Setting} (h : s.find? name = some o) :
    valueIn s.table name = o.current := by
  have hfind : s.table.find? (·.name = name) = some o := h
  rw [valueIn, hfind]
  rfl

theorem current?_whole {name : String} {o : Setting} (hsound : s.Sound)
    (hdeclared : s.declared? name = some o) (htype : o.type = .int) :
    s.current? name = some (.int (wholeIn s.table name)) := by
  obtain ⟨o', hfind, rfl⟩ := Option.map_eq_some_iff.mp hdeclared
  have hholds := (hsound name o' hfind).1
  rw [show o'.type = .int from htype] at hholds
  rw [Settings.current?, hfind, wholeIn, valueIn_of_find? hfind, Option.map_some]
  cases hcurrent : o'.current with
  | int n => rfl
  | _ => simp [hcurrent, TypeSpec.holds, PlainType.holds] at hholds

theorem current?_text {name : String} {o : Setting} (hsound : s.Sound)
    (hdeclared : s.declared? name = some o) (htype : o.type = .str) :
    s.current? name = some (.str (textIn s.table name)) := by
  obtain ⟨o', hfind, rfl⟩ := Option.map_eq_some_iff.mp hdeclared
  have hholds := (hsound name o' hfind).1
  rw [show o'.type = .str from htype] at hholds
  rw [Settings.current?, hfind, textIn, valueIn_of_find? hfind, Option.map_some]
  cases hcurrent : o'.current with
  | str text => rfl
  | _ => simp [hcurrent, TypeSpec.holds, PlainType.holds] at hholds

structure Declares (base : Settings) : Prop where
  cooldown : base.declared? cooldownSetting.name = some cooldownSetting.setting
  key : base.declared? Rules.keySetting.name = some Rules.keySetting.setting
  interval : base.declared? intervalSetting.name = some intervalSetting.setting

theorem Tuned.inStep (h : Tuned base s g) (hbase : Declares base) : InStep (s, g) := by
  have hcooldown := current?_whole h.sound ((h.declared _).trans hbase.cooldown) rfl
  have hinterval := current?_whole h.sound ((h.declared _).trans hbase.interval) rfl
  have hkey := current?_text h.sound ((h.declared _).trans hbase.key) rfl
  have hcopy := h.copied.cooldown rfl
  refine ⟨?_, ?_, ⟨_, hinterval, (h.acceptable [intervalSetting.name]).interval rfl,
    h.copied.alarm rfl⟩, ⟨_, hkey, (h.acceptable [Rules.keySetting.name]).key rfl⟩⟩
  · rw [hcopy]
    exact hcooldown
  · rw [hcopy]
    exact (h.acceptable [cooldownSetting.name]).cooldown rfl

def standardSettings : Settings :=
  Settings.empty.withDeclared
    ([Settings.configDirectory, Settings.redirectsEnabled] ++ core.flatMap (·.declares))

theorem contains_eq_false {ds : List Declaration} {name : String} (hname : name ∉ ds.map (·.name))
    (hnames : ∀ name ∈ names, name ∈ ds.map (·.name)) : names.contains name = false := by
  rw [Bool.eq_false_iff, Ne, List.contains_iff_mem]
  exact fun h => hname (hnames name h)

theorem newcomers_core (scene : Scene World) :
    Newcomers core (Settings.empty.withDeclared [Settings.configDirectory, Settings.redirectsEnabled])
      ⟨.empty, scene⟩ where
  alone := by
    unfold core
    simp only [List.forall_mem_cons]
    exact ⟨rfl, rfl, rfl, rfl, rfl, List.forall_mem_nil _⟩
  silent := by
    unfold core
    simp only [List.forall_mem_cons]
    exact ⟨rfl, rfl, rfl, rfl, rfl, List.forall_mem_nil _⟩
  named := by decide
  unloaded _ _ := rfl
  distinct := by decide
  new := by decide
  defaults := by decide
  free := by decide
  ignored _ _ _ _ := List.forall_mem_nil _
  apart := by
    have hguard : ∀ a ∈ [ruleStore, redirector, cleanup], ∀ names,
        (∀ name ∈ names, name ∈ a.declares.map (·.name)) →
          Ignores (.configure names) loopGuard := by
      simp only [List.forall_mem_cons]
      exact ⟨fun _ h => ignores_loopGuard (contains_eq_false (by decide) h),
        fun _ h => ignores_loopGuard (contains_eq_false (by decide) h),
        fun _ h => ignores_loopGuard (contains_eq_false (by decide) h), List.forall_mem_nil _⟩
    have hrules : ∀ a ∈ [redirector, cleanup], ∀ names,
        (∀ name ∈ names, name ∈ a.declares.map (·.name)) →
          Ignores (.configure names) ruleStore := by
      simp only [List.forall_mem_cons]
      exact ⟨fun _ h => ignores_ruleStore (contains_eq_false (by decide) h)
          (contains_eq_false (by decide) h),
        fun _ h => ignores_ruleStore (contains_eq_false (by decide) h)
          (contains_eq_false (by decide) h), List.forall_mem_nil _⟩
    exact .cons (fun _ _ names _ => ignores_alarms names) (.cons hguard (.cons hrules
      (.cons (fun _ _ names _ => ignores_redirector names) (.cons (List.forall_mem_nil _) .nil))))

theorem declareBase_eq (scene : Scene World) :
    Settings.declareBase Stage.listener (.empty, ⟨.empty, scene⟩) =
      .ok () (Settings.empty.withDeclared [Settings.configDirectory, Settings.redirectsEnabled],
        ⟨.empty, scene⟩) := by
  have hconfdir : Settings.declare Stage.listener Settings.configDirectory
      (.empty, ⟨.empty, scene⟩) =
      .ok () (Settings.empty.withDeclared [Settings.configDirectory], ⟨.empty, scene⟩) :=
    Settings.declare_of_new rfl rfl rfl
  have henabled : Settings.declare Stage.listener Settings.redirectsEnabled
      (Settings.empty.withDeclared [Settings.configDirectory], ⟨.empty, scene⟩) =
      .ok () ((Settings.empty.withDeclared [Settings.configDirectory]).withDeclared
        [Settings.redirectsEnabled], ⟨.empty, scene⟩) :=
    Settings.declare_of_new rfl rfl rfl
  rw [Settings.declareBase, bind_of_ok hconfdir, henabled]
  rfl

/-- The engine with the addons that redirect has their settings, and nothing has happened yet. -/
theorem assemble_core (scene : Scene World) :
    assemble core [] (.empty, ⟨.empty, scene⟩) = .ok () (standardSettings,
      ⟨core.foldl AddonTable.withAddon .empty, scene⟩) := by
  have hupdate : Action.update [] (Settings.empty.withDeclared
      [Settings.configDirectory, Settings.redirectsEnabled], ⟨.empty, scene⟩) = .ok () _ :=
    Settings.update_nil _ _ _
  rw [assemble, bind_of_ok (declareBase_eq scene), bind_of_ok hupdate,
    (newcomers_core scene).addAll_eq rfl]
  simp [standardSettings, Settings.withDeclared]

theorem declares_standardSettings : Declares standardSettings := ⟨rfl, rfl, rfl⟩

/-- An engine that has just been assembled is tuned, if nobody has touched the world before. -/
theorem tuned_standard {scene : Scene World}
    (hcooldown : scene.world.guard.cooldown = Guard.standardCooldown)
    (hfresh : (scene.world.cleanupScheduled, scene.world.rulesPath) = (false, none)) :
    Tuned standardSettings standardSettings
      ⟨core.foldl AddonTable.withAddon .empty, scene⟩ where
  chain := rfl
  declared _ := rfl
  sound := by
    intro name o hfind
    have hmem : o ∈ standardSettings.table := List.mem_of_find?_eq_some hfind
    obtain ⟨d, hd, rfl⟩ := List.mem_map.mp hmem
    have hdefaults : ∀ d ∈ [Settings.configDirectory, Settings.redirectsEnabled] ++
        core.flatMap (·.declares), d.type.holds d.default = true ∧ d.choices = none := by decide
    obtain ⟨hdefault, hfree⟩ := hdefaults d hd
    refine ⟨hdefault, fun text hchoices => ?_⟩
    have hnone : d.setting.choices = none := hfree
    rw [hnone] at hchoices
    cases hchoices
  acceptable _ := ⟨fun _ => by decide, fun _ => by decide, fun _ => by decide⟩
  copied := by
    obtain ⟨hscheduled, hpath⟩ := Prod.mk.inj hfresh
    refine ⟨fun _ => hcooldown, fun _ => ?_, fun _ hstill => ?_⟩
    · rw [hpath]
      rfl
    · rw [hscheduled] at hstill
      cases hstill

/-- In an engine with the addons that redirect, whatever calls follow, and whether they are accepted
or not: the guard has the cooldown of the settings, which is positive, the interval is positive, the
key is not empty, and a cleanup that is scheduled has its alarm, with the interval as its period. -/
theorem in_step (files : FileTree) (input : String) (memory : RuleMemory) (tabs : Tabs) (clock : Rat)
    (log : List (Rat × LogRecord)) (calls : List Call)
    (htyped : ∀ c ∈ calls, c.Typed standardSettings) :
    ∃ g, assemble core [] (.empty, ⟨.empty, ⟨clock, .fresh files input memory tabs, log⟩⟩) =
        .ok () g ∧ ∀ made, made <+: calls → InStep (afterCalls g made) := by
  refine ⟨_, assemble_core ⟨clock, .fresh files input memory tabs, log⟩, fun made hmade => ?_⟩
  have htuned : Tuned standardSettings standardSettings
      ⟨core.foldl AddonTable.withAddon .empty, ⟨clock, .fresh files input memory tabs, log⟩⟩ :=
    tuned_standard rfl rfl
  exact (htuned.calls fun c hc => htyped c (hmade.subset hc)).inStep declares_standardSettings

/-- A change of two settings that the second addon refuses, one that the cleanup takes over, and a
stop. -/
theorem in_step_after_refusal :
    (∀ c ∈ [Call.running, .update [("redirect_cooldown", .int 500), ("cleanup_interval", .int 0)],
      .set ["cleanup_interval=60"], .done], c.Typed standardSettings) ∧
    ∃ g, assemble core [] (.empty, ⟨.empty, ⟨0, .fresh .empty "" (.ofEntries [])
        (.fresh .recording none), []⟩⟩) = .ok () g ∧
      InStep (afterCalls g [.running,
        .update [("redirect_cooldown", .int 500), ("cleanup_interval", .int 0)],
        .set ["cleanup_interval=60"]]) := by
  refine ⟨by decide, ?_⟩
  obtain ⟨g, hassemble, hstep⟩ := in_step .empty "" (.ofEntries []) (.fresh .recording none) 0 []
    [.running, .update [("redirect_cooldown", .int 500), ("cleanup_interval", .int 0)],
      .set ["cleanup_interval=60"], .done] (by decide)
  exact ⟨g, hassemble, hstep _ ⟨[.done], rfl⟩⟩

end Detour.Engine
