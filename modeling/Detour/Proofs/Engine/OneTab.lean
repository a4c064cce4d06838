import Detour.Proofs.Engine.About
import Detour.Proofs.Respect

/-!
# The engine, as one tab sees it

Every event but a navigation does the same to a scene as to one that is reduced to a tab
(`respects_core`), and so do the two halves of a redirect of this tab, its commands, and the alarms.
What another tab does, by its navigations, its commands and its removal, does not show
(`Scene.Unseen`).
-/
namespace Detour

variable {tab other : Id}

section Scenes

open Dispatch

/-- A change of the world may be made before or after the world is reduced. -/
theorem respects_change {f : World → World}
    (hf : ∀ w lookups reads, ∃ lookups' reads',
      f ((w.about tab).counting lookups reads) = ((f w).about tab).counting lookups' reads') :
    Respects (Scene.Reduces tab) (World.change f) := by
  refine respects_modify fun s t hst => ⟨hst.clock, ?_⟩
  obtain ⟨lookups, reads, hworld⟩ := hst.world
  obtain ⟨lookups', reads', hf'⟩ := hf s.world lookups reads
  exact ⟨lookups', reads', by rw [← hf', hworld]⟩

theorem respects_log (rs : List LogRecord) : Respects (Scene.Reduces tab) (World.log rs) := by
  refine respects_modify fun s t hst => ?_
  obtain ⟨log, hs⟩ := noteAll_eq s rs
  obtain ⟨log', ht⟩ := noteAll_eq t rs
  rw [hs, ht]
  exact ⟨hst.clock, hst.world⟩

theorem respects_setAlarms (alarms : Alarms) :
    Respects (Scene.Reduces tab) (Chain.setAlarms alarms) := by
  refine respects_change fun w lookups reads => ⟨lookups, reads, ?_⟩
  simp only [World.about, World.counting, Agenda.about_cancel]

theorem respects_startTasks (tasks : List AlarmTask) :
    Respects (Scene.Reduces tab) (Chain.startTasks tasks) := by
  refine respects_change fun w lookups reads => ⟨lookups, reads, ?_⟩
  simp only [World.about, World.counting, Agenda.about_spawnAll]

theorem respects_createAlarm (name : String) (period : Period) :
    Respects (Scene.Reduces tab) (Chain.createAlarm name period) := by
  refine respects_get (fun s t hst => by simp only [hst.alarms]) fun s => ?_
  split
  · exact respects_throw _
  · exact (respects_setAlarms _).bind fun _ => respects_startTasks _

theorem respects_scheduleCleanup (table : List Setting) :
    Respects (Scene.Reduces tab) (Chain.scheduleCleanup table) :=
  (respects_createAlarm _ _).bind fun _ =>
    respects_change fun _ lookups reads => ⟨lookups, reads, rfl⟩

theorem respects_requirePositive (d : Declaration) (table : List Setting) :
    Respects (Scene.Reduces tab) (Chain.requirePositive d table) := by
  unfold Chain.requirePositive
  simp only
  split
  · exact (respects_throw _).bind fun _ => respects_pure _
  · exact (respects_pure _).bind fun _ => respects_pure _

theorem respects_useFile (path : String) : Respects (Scene.Reduces tab) (Rules.useFile path) := by
  have hpath : ∀ path : Option Path,
      Respects (Scene.Reduces tab) (World.change fun w => { w with rulesPath := path }) :=
    fun _ => respects_change fun _ lookups reads => ⟨lookups, reads, rfl⟩
  unfold Rules.useFile
  split
  · exact hpath none
  · refine respects_get (fun s t hst => by simp only [hst.files]) fun s => ?_
    split
    · exact hpath _
    · exact respects_pure ()
    · exact respects_throw _

theorem alarms_respects (event : Event) :
    HandlerRespects (Scene.Reduces tab) (Chain.alarms.handler event) := by
  cases event with
  | running =>
    intro table
    refine respects_get (fun s t hst => by simp only [hst.alarms]) fun s => ?_
    refine Respects.bind ?_ fun _ => respects_startTasks _
    exact respects_change fun _ lookups reads => ⟨lookups, reads, rfl⟩
  | done =>
    exact fun table => respects_get (fun s t hst => by simp only [hst.alarms])
      fun s => respects_setAlarms _
  | load | configure | tabRemoved | navigationCompleted | alarm => trivial

theorem loopGuard_respects (event : Event) :
    HandlerRespects (Scene.Reduces tab) (Chain.loopGuard.handler event) := by
  cases event with
  | configure names =>
    intro table
    dsimp only
    split
    · refine (respects_requirePositive _ table).bind fun cooldown => ?_
      exact respects_change fun _ lookups reads => ⟨lookups, reads, rfl⟩
    · exact respects_pure ()
  | tabRemoved other =>
    intro table
    refine respects_change fun w lookups reads => ⟨lookups, reads, ?_⟩
    simp only [World.mapGuard, World.about, World.counting, Guard.about_clear]
  | done => exact fun table => respects_change fun _ lookups reads => ⟨lookups, reads, rfl⟩
  | load | running | navigationCompleted | alarm => trivial

theorem ruleStore_respects (event : Event) :
    HandlerRespects (Scene.Reduces tab) (Chain.ruleStore.handler event) := by
  cases event with
  | configure names =>
    intro table
    have hfile : Respects (Scene.Reduces tab) (if names.contains Rules.fileSetting.name = true then
        Rules.useFile (World.textIn table Rules.fileSetting.name) else pure ()) := by
      split
      · exact respects_useFile _
      · exact respects_pure ()
    unfold Rules.configure
    simp only
    split
    · exact (respects_throw _).bind fun _ => hfile
    · exact hfile
  | load | running | done | tabRemoved | navigationCompleted | alarm => trivial

theorem cleanup_respects (event : Event) :
    HandlerRespects (Scene.Reduces tab) (Chain.cleanup.handler event) := by
  cases event with
  | configure names =>
    intro table
    dsimp only
    split
    · refine (respects_requirePositive _ table).bind fun _ => ?_
      refine respects_get (fun s t hst => by simp only [hst.cleanupScheduled]) fun s => ?_
      split
      · exact respects_scheduleCleanup table
      · exact respects_pure ()
    · exact respects_pure ()
  | running => exact respects_scheduleCleanup
  | alarm a =>
    -- The two sweeps may count different numbers of entries, and then only one is logged.
    have hswept : ∀ s : Scene World, ∃ log, (do
        let evicted ← Chain.sweep
        if evicted != 0 then
          World.log [.plain Level.debug s!"Evicted {evicted} expired loop guard entries."]) s =
        .ok () { after Chain.sweep s with log } := by
      intro s
      have hsweep : Chain.sweep s = .ok (s.world.guard.sweep s.millis).1 (after Chain.sweep s) := rfl
      rw [bind_of_ok hsweep]
      split
      · exact log_spec _ _
      · exact ⟨s.log, rfl⟩
    intro table
    dsimp only
    split
    · intro s t hst
      obtain ⟨log, hs⟩ := hswept s
      obtain ⟨log', ht⟩ := hswept t
      rw [hs, ht]
      exact .ok () ⟨hst.sweep.clock, hst.sweep.world⟩
    · exact respects_pure ()
  | done => exact fun table => respects_change fun _ lookups reads => ⟨lookups, reads, rfl⟩
  | load | tabRemoved | navigationCompleted => trivial

theorem respects_core {event : Event} (h : ∀ n, event ≠ .navigationCompleted n) :
    ChainRespects (Scene.Reduces tab) event Chain.core := by
  have hredirector : HandlerRespects (Scene.Reduces tab) (Chain.redirector.handler event) := by
    cases event with
    | navigationCompleted n => exact absurd rfl (h n)
    | load | configure | running | done | tabRemoved | alarm => trivial
  have haddons : HandlerRespects (Scene.Reduces tab) (Chain.alarms.handler event) ∧
      HandlerRespects (Scene.Reduces tab) (Chain.loopGuard.handler event) ∧
      HandlerRespects (Scene.Reduces tab) (Chain.ruleStore.handler event) ∧
      HandlerRespects (Scene.Reduces tab) (Chain.redirector.handler event) ∧
      HandlerRespects (Scene.Reduces tab) (Chain.cleanup.handler event) :=
    ⟨alarms_respects event, loopGuard_respects event, ruleStore_respects event, hredirector,
      cleanup_respects event⟩
  simpa [ChainRespects, Chain.core, Chain.alarms, Chain.loopGuard, Chain.ruleStore,
    Chain.redirector, Chain.cleanup, Chain.addon, Addon.tree, Addon.forest] using haddons

/-- A navigation of the tab is looked at in the same way without the others. -/
theorem respects_ask {n : Navigation} (hn : n.tab.same tab = true) (table : List Setting) :
    Respects (Scene.Reduces tab) (Redirect.ask n table) := by
  intro s t hst
  have hguard := hst.isSuppressed hn
  cases hwatched : n.isWatched table with
  | false =>
    rw [ask_of_ignored hwatched, ask_of_ignored hwatched]
    exact .ok none hst
  | true =>
    cases hs : (s.world.guard.isSuppressed s.millis n.tab).1 with
    | true =>
      obtain ⟨log, hask⟩ := ask_of_suppressed hwatched hs
      obtain ⟨log', hask'⟩ := ask_of_suppressed (s := t) hwatched (by rw [hguard, hs])
      rw [hask, hask']
      exact .ok none ⟨hst.clock, hst.world⟩
    | false =>
      obtain ⟨lookups, reads, hworld⟩ := hst.world
      have hpath : t.world.rulesPath = s.world.rulesPath := by
        rw [hworld]
        rfl
      obtain ⟨i, j, hcount⟩ := World.countLookup_eq
        { s.world with guard := (s.world.guard.isSuppressed s.millis n.tab).2 }
      obtain ⟨i', j', hcount'⟩ := World.countLookup_eq
        { t.world with guard := (t.world.guard.isSuppressed t.millis n.tab).2 }
      rw [ask_of_free hwatched hs, ask_of_free (s := t) hwatched (by rw [hguard, hs]), hpath, hcount,
        hcount', hguard, hworld]
      exact .ok _ ⟨hst.clock, i', j', rfl⟩

theorem respects_finish {n : Navigation} (hn : n.tab.same tab = true) (r : Rules.Request)
    (table : List Setting) : Respects (Scene.Reduces tab) (Redirect.finish n r table) := by
  intro s t hst
  obtain ⟨log, hfinish⟩ := finish_spec n r table s
  obtain ⟨log', hfinish'⟩ := finish_spec n r table t
  obtain ⟨lookups, reads, hworld⟩ := hst.world
  have hnow : t.millis = s.millis := congrArg (· * 1000) hst.clock
  rw [hfinish, hfinish', hworld, hnow]
  have husable : r.usable table ((s.world.about tab).counting lookups reads) =
      r.usable table s.world := rfl
  refine .ok () ⟨hst.clock, lookups, reads, ?_⟩
  rw [husable]
  cases Rule.targetOf (r.usable table s.world) n.url with
  | none => rfl
  | some url => exact World.redirecting_about hn s.world lookups reads url

theorem respects_navigate (hother : other.same tab = true) (url : String) :
    Respects (Scene.Reduces tab) (Redirect.navigate other url) := by
  intro s t hst
  obtain ⟨log, hnavigate⟩ := navigate_spec other url s
  obtain ⟨log', hnavigate'⟩ := navigate_spec other url t
  obtain ⟨lookups, reads, hworld⟩ := hst.world
  rw [hnavigate, hnavigate', hworld]
  refine .ok () ⟨hst.clock, lookups, reads, ?_⟩
  simp [World.about, World.counting, Tabs.issue, hother]

/-- What has happened between two scenes does not show on the tab. -/
def Scene.Unseen (tab : Id) (s s' : Scene World) : Prop := ∀ t, s.Reduces tab t → s'.Reduces tab t

instance : IsPreorder (Scene World) (Scene.Unseen tab) where
  refl _ _ h := h
  trans _ _ _ h h' t ht := h' t (h t ht)

theorem Scene.Unseen.of_about {s s' : Scene World} (clock : s'.clock = s.clock)
    (world : ∃ lookups reads, s'.world.about tab = (s.world.about tab).counting lookups reads) :
    s.Unseen tab s' := by
  intro t ht
  obtain ⟨i, j, hworld⟩ := world
  obtain ⟨lookups, reads, ht'⟩ := ht.world
  refine ⟨ht.clock.trans clock.symm, lookups, reads, ?_⟩
  rw [hworld]
  exact ht'

theorem Scene.Unseen.note (s : Scene World) (r : LogRecord) : s.Unseen tab (s.note r) :=
  .of_about rfl ⟨s.world.lookups, s.world.memory.reads, rfl⟩

theorem ask_unseen {n : Navigation} (hn : n.tab.same tab = false) (table : List Setting) :
    Within (Scene.Unseen tab) (Redirect.ask n table) := by
  intro s
  cases hwatched : n.isWatched table with
  | false =>
    rw [after_of_ok (ask_of_ignored hwatched)]
    exact refl_of (Scene.Unseen tab) s
  | true =>
    cases hs : (s.world.guard.isSuppressed s.millis n.tab).1 with
    | true =>
      obtain ⟨log, hask⟩ := ask_of_suppressed hwatched hs
      rw [after_of_ok hask]
      exact .of_about rfl ⟨_, _, rfl⟩
    | false =>
      obtain ⟨i, j, hcount⟩ := World.countLookup_eq
        { s.world with guard := (s.world.guard.isSuppressed s.millis n.tab).2 }
      rw [after_of_ok (ask_of_free hwatched hs), hcount]
      refine .of_about rfl ⟨i, j, ?_⟩
      simp only [World.about, World.counting, Guard.about_isSuppressed_other hn]

theorem finish_unseen {n : Navigation} (hn : n.tab.same tab = false) (r : Rules.Request)
    (table : List Setting) : Within (Scene.Unseen tab) (Redirect.finish n r table) := by
  intro s
  obtain ⟨log, hfinish⟩ := finish_spec n r table s
  rw [after_of_ok hfinish]
  refine .of_about rfl ⟨s.world.lookups, s.world.memory.reads, ?_⟩
  cases Rule.targetOf (r.usable table s.world) n.url with
  | none => rfl
  | some url => exact World.about_redirecting_other hn s.world url

theorem navigate_unseen (h : other.same tab = false) (url : String) :
    Within (Scene.Unseen tab) (Redirect.navigate other url) := by
  intro s
  obtain ⟨log, hnavigate⟩ := navigate_spec other url s
  rw [after_of_ok hnavigate]
  refine .of_about rfl ⟨s.world.lookups, s.world.memory.reads, ?_⟩
  simp [World.about, World.counting, Tabs.issue, h]

theorem tabRemoved_unseen (h : other.same tab = false) :
    ChainWithin (Scene.Unseen tab) (.tabRemoved other) Chain.core := by
  refine chainWithin_core.mpr ⟨trivial, fun table => ?_, trivial, trivial, trivial⟩
  refine within_modify fun s =>
    .of_about rfl ⟨s.world.lookups, s.world.memory.reads, ?_⟩
  simp only [World.mapGuard, World.about, World.counting, Guard.about_clear_other h]

end Scenes

namespace Engine

/-- The engine is the same but for what concerns other tabs only. -/
abbrev Sharing (tab : Id) : Settings × Stage World → Settings × Stage World → Prop :=
  Action.Sharing Chain.core (Scene.Reduces tab)

variable {α : Type}

theorem respects_clock : Respects (Sharing tab) clock := by
  refine respects_get (fun g h hgh => ?_) fun g => respects_pure _
  rw [hgh.2.scene.clock]

theorem respects_onScene {h : EStateM Failure (Scene World) α}
    (hh : Respects (Scene.Reduces tab) h) : Respects (Sharing tab) (onScene h) :=
  Action.respects_onScene fun _ => hh

theorem respects_triggerEvent {event : Event} (h : ∀ n, event ≠ .navigationCompleted n) :
    Respects (Sharing tab) (Action.triggerEvent event) :=
  Action.respects_triggerEvent (fun _ _ r hst => hst.note r) (respects_core h)

theorem respects_sleepUntil (due : Rat) (x : AlarmTask) :
    Respects (Sharing tab) (sleepUntil due (.alarm x)) := by
  refine respects_clock.bind fun now => respects_onScene ?_
  refine respects_change fun w lookups reads => ⟨lookups, reads, ?_⟩
  by_cases h : due ≤ now
  · have hspawn : (w.agenda.spawn (.alarm x)).about tab = (w.agenda.about tab).spawn (.alarm x) :=
      Agenda.about_spawn rfl w.agenda
    simp only [h, if_true, World.about, World.counting, hspawn]
  · simp only [h, if_false]
    rfl

theorem respects_scheduleAfter (x : AlarmTask) (time : Rat) :
    Respects (Sharing tab) (scheduleAfter x time) := by
  unfold scheduleAfter
  split
  · exact respects_sleepUntil _ _
  · exact respects_pure ()

theorem respects_fire (x : AlarmTask) (due : Rat) : Respects (Sharing tab) (fire x due) := by
  have hfired : Respects (Sharing tab)
      (change fun w => { w with fired := x.firing due :: w.fired }) :=
    respects_onScene (respects_change fun _ lookups reads => ⟨lookups, reads, rfl⟩)
  exact (respects_onScene (respects_log _)).bind fun _ => hfired.bind fun _ =>
    respects_triggerEvent nofun

theorem respects_runAlarm (x : AlarmTask) : Respects (Sharing tab) (runAlarm x) := by
  unfold runAlarm
  cases x.due with
  | none => exact respects_clock.bind fun now => respects_scheduleAfter x now
  | some due =>
    refine (respects_fire x due).bind fun _ => ?_
    change Respects (Sharing tab) (get >>= fun g : Settings × Stage World =>
      if g.2.scene.world.alarms.isCurrent x then scheduleAfter x due else pure ())
    refine respects_get (fun g h hgh => by rw [hgh.2.scene.alarms]) fun g => ?_
    split
    · exact respects_scheduleAfter x due
    · exact respects_pure ()

end Engine
end Detour
