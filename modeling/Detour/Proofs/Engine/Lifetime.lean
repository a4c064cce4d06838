import Detour.Proofs.Record.Playback

/-!
# The lifetime of an engine

An engine that has been started with its addons has no alarm that is late and reads no record for a
caller, and so it is again after every task that runs, every event and change of settings, however
much time passes, and whenever a record has been replayed (`Engine.Lives.free`). For all that an addon
does about tasks is to have one started that is new, or to have one forgotten (`Paces`).
-/
namespace Detour

namespace Agenda

variable {a : Agenda Task} {t : Task} {now time : Rat}

theorem Timely.cancel (h : a.Timely now) (p : Task → Bool) : (a.cancel p).Timely now where
  sorted := h.sorted.sublist List.filter_sublist
  later e he := h.later e (List.mem_of_mem_filter he)
  ready x hx := h.ready x (List.mem_of_mem_filter hx)
  asleep due x hx := h.asleep due x (List.mem_of_mem_filter hx)

theorem Timely.forward (h : a.Timely now) (hidle : a.ready = [])
    (hlater : ∀ e ∈ a.sleeping, time < e.1) : a.Timely time where
  sorted := h.sorted
  later := hlater
  ready x hx := by
    rw [hidle] at hx
    cases hx
  asleep := h.asleep

def Uncalled (a : Agenda Task) : Prop := ∀ r, .read .caller r ∉ a.tasks

theorem Uncalled.spawn (h : a.Uncalled) (ht : ∀ r, t ≠ .read .caller r) : (a.spawn t).Uncalled := by
  intro r hr
  rcases mem_tasks_spawn.mp hr with hr | hr
  · exact ht r hr.symm
  · exact h r hr

theorem Uncalled.cancel (h : a.Uncalled) (p : Task → Bool) : (a.cancel p).Uncalled := by
  intro r hr
  rw [tasks_cancel] at hr
  exact h r (List.mem_of_mem_filter hr)

end Agenda

theorem Engine.calls_eq_nil_iff {g : Settings × Stage World} :
    Engine.calls g = [] ↔ g.2.scene.world.agenda.Uncalled := by
  simp only [calls, List.append_eq_nil_iff, List.filterMap_eq_nil_iff, Option.map_eq_none_iff,
    not_call_iff, Agenda.Uncalled, Agenda.tasks, List.mem_append, List.mem_map]
  constructor
  · rintro ⟨hready, hasleep⟩ r (hr | ⟨e, he, hr⟩)
    · exact hready _ hr r rfl
    · exact hasleep e he r hr
  · intro h
    refine ⟨fun t ht r hr => h r (.inl (hr ▸ ht)), fun e he r hr => h r (.inr ⟨e, he, hr⟩)⟩

/-- No time passes, no alarm gets late, and no record is read for a caller. -/
structure Paces (s t : Scene World) : Prop where
  clock : t.clock = s.clock
  timely : s.world.agenda.Timely s.clock → t.world.agenda.Timely t.clock
  uncalled : s.world.agenda.Uncalled → t.world.agenda.Uncalled

namespace Paces

open Dispatch

variable {event : Event}

theorem of_agenda {s t : Scene World} (clock : t.clock = s.clock)
    (agenda : t.world.agenda = s.world.agenda) : Paces s t :=
  ⟨clock, fun h => by rwa [agenda, clock], fun h => by rwa [agenda]⟩

instance : Tolerant Paces where
  refl _ := .of_agenda rfl rfl
  trans _ _ _ h h' :=
    ⟨h'.clock.trans h.clock, h'.timely ∘ h.timely, h'.uncalled ∘ h.uncalled⟩
  note _ _ := .of_agenda rfl rfl
  aside _ _ h := .of_agenda rfl h.agenda
  start _ _ hpositive hdue := by
    refine ⟨rfl, fun h => h.spawn fun y hy => ?_, fun h => h.spawn fun r hr => ?_⟩
    · cases hy
      exact ⟨hpositive, .inl hdue⟩
    · cases hr
  cancel _ _ := ⟨rfl, fun h => h.cancel _, fun h => h.cancel _⟩

theorem within_startReading (path : String) : Within Paces (Chain.startReading path) := by
  refine fun _ => ⟨rfl, fun h => h.spawn fun x hx => ?_, fun h => h.spawn fun r hr => ?_⟩
  · cases hx
  · cases hr

/-- The addons behind the alarms keep to this, but for a redirect, which is a matter of its own. -/
theorem others_within (h : ∀ n, event ≠ .navigationCompleted n) :
    ChainWithin Paces event Chain.standard.tail := by
  have hguard : HandlerWithin Paces (Chain.loopGuard.handler event) :=
    loopGuard_within (fun _ _ => .of_agenda rfl rfl) event
  have hrules : HandlerWithin Paces (Chain.ruleStore.handler event) := ruleStore_within event
  have hredirector : HandlerWithin Paces (Chain.redirector.handler event) := by
    cases event with
    | navigationCompleted n => exact absurd rfl (h n)
    | load | configure | running | done | tabRemoved | alarm => trivial
  have hcleanup : HandlerWithin Paces (Chain.cleanup.handler event) :=
    cleanup_within fun _ _ _ => .of_agenda rfl rfl
  have hread : HandlerWithin Paces (Chain.readEvents.handler event) :=
    readEvents_within within_startReading event
  have hone : ∀ a : Addon World, a.tree = [a] → HandlerWithin Paces (a.handler event) →
      ∀ b ∈ a.tree, HandlerWithin Paces (b.handler event) := fun a htree ha b hb => by
    rw [htree, List.mem_singleton] at hb
    exact hb ▸ ha
  simp only [ChainWithin, Chain.standard, Chain.core, List.cons_append, List.nil_append,
    List.tail_cons, List.forall_mem_cons]
  exact ⟨hone _ rfl hguard, hone _ rfl hrules, hone _ rfl hredirector, hone _ rfl hcleanup,
    hone _ rfl hread, List.forall_mem_nil _⟩

/-- So do the alarms, unless all of them are started. -/
theorem chainWithin_standard (hnavigation : ∀ n, event ≠ .navigationCompleted n)
    (hrunning : event ≠ .running) : ChainWithin Paces event Chain.standard := by
  have halarms : HandlerWithin Paces (Chain.alarms.handler event) :=
    alarms_within_of fun heq => absurd heq hrunning
  intro a ha
  rcases List.mem_cons.mp ha with rfl | ha
  · exact List.forall_mem_singleton.mpr halarms
  · exact others_within hnavigation a ha

theorem paces_running (table : List Setting) {s : Scene World}
    (h : ∀ e ∈ s.world.alarms.periods, e.2.isPositive = true) :
    Paces s (after (triggerEvent .running Chain.standard table) s) := by
  have hstart : Within Paces (Chain.startTasks s.world.alarms.run.2) :=
    within_startTasks fun x hx t => by
      obtain ⟨hdue, hmem⟩ := Alarms.of_mem_startAll hx
      exact Tolerant.start t x (h _ hmem) hdue
  let begun : Scene World :=
    { s with world := { s.world with alarms := s.world.alarms.run.1 } }
  have hbegun : Paces s begun := .of_agenda rfl rfl
  have hrun : Chain.runAlarms s = .ok () (after (Chain.startTasks s.world.alarms.run.2) begun) := rfl
  have hevent : triggerEvent .running Chain.standard table s = triggerEvent .running
      Chain.standard.tail table (after (Chain.startTasks s.world.alarms.run.2) begun) :=
    triggerEvent_of_plain (a := Chain.alarms) rfl rfl hrun Chain.standard.tail
  have hothers : ChainWithin Paces .running Chain.standard.tail :=
    others_within fun n hn => by cases hn
  have hrest := within_triggerEvent Tolerant.note hothers table
  rw [after_of_eq hevent]
  exact trans_of Paces hbegun (trans_of Paces (hstart begun) (hrest _))

end Paces

namespace Engine

open Relation (ReflTransGen)
open Line (Measured)

variable {g h : Settings × Stage World}

structure Free (g : Settings × Stage World) : Prop extends InTime g where
  uncalled : calls g = []

theorem Free.of_moves (hg : Free g) (hmoves : Action.Moves Chain.standard Paces g h) : Free h := by
  obtain ⟨haddons, hpaces⟩ := hmoves
  obtain ⟨-, htimely, huncalled⟩ := hpaces hg.chain
  exact ⟨⟨haddons ▸ hg.chain, htimely hg.timely⟩,
    calls_eq_nil_iff.mpr (huncalled (calls_eq_nil_iff.mp hg.uncalled))⟩

theorem Free.of_redirects (hg : Free g) {n : Nat} (hredirects : Redirects n g h) : Free h := by
  have hcalls := calls_of_redirects hredirects
  obtain ⟨new, -, hnew, hleads, -⟩ := hredirects
  have hsleeping : h.2.scene.world.agenda.sleeping = g.2.scene.world.agenda.sleeping :=
    hleads.sleeping
  refine ⟨⟨hleads.addons ▸ hg.chain, ?_⟩, hcalls.trans hg.uncalled⟩
  rw [hleads.clock]
  refine ⟨?_, ?_, fun x hx => ?_, ?_⟩
  · rw [hsleeping]
    exact hg.timely.sorted
  · rw [hsleeping]
    exact hg.timely.later
  · rw [hleads.ready] at hx
    rcases List.mem_append.mp hx with hx | hx
    · exact hg.timely.ready x hx
    · obtain ⟨tab, url, hnavigate⟩ := hnew _ hx
      cases hnavigate
  · rw [hsleeping]
    exact hg.timely.asleep

theorem Free.triggerEvent (hg : Free g) {event : Event} (hrunning : event ≠ .running) :
    Free (after (Action.triggerEvent event) g) := by
  by_cases hnavigation : ∃ n, event = .navigationCompleted n
  · obtain ⟨n, rfl⟩ := hnavigation
    obtain ⟨h, hhand, hredirects⟩ := hand_spec hg.chain (.navigation n)
    have hafter : after (Action.triggerEvent (.navigationCompleted n)) g = h := after_of_ok hhand
    rw [hafter]
    exact hg.of_redirects hredirects
  · exact hg.of_moves (Action.within_triggerEvent Tolerant.note
      (Paces.chainWithin_standard (not_exists.mp hnavigation) hrunning) g)

theorem Free.update (hg : Free g) (values : List (String × Value)) :
    Free (after (Action.update values) g) := by
  refine hg.of_moves (Action.within_update Tolerant.note (fun names => ?_) values g)
  exact Paces.chainWithin_standard (fun n hn => by cases hn) fun hrunning => by cases hrunning

theorem Free.running (hg : Free g)
    (hpositive : ∀ e ∈ g.2.scene.world.alarms.periods, e.2.isPositive = true) :
    Free (after (Action.triggerEvent .running) g) := by
  refine hg.of_moves ?_
  rw [Action.after_triggerEvent]
  refine ⟨rfl, fun hchain => ?_⟩
  rw [hchain]
  exact Paces.paces_running g.1.table hpositive

/-- As long as no caller waits, no turn is a reading for one. -/
theorem Free.tick (hg : Free g) (htick : Tick g h) : Free h := by
  have hother : ∀ r rest, g.2.scene.world.agenda.ready ≠ .read .caller r :: rest := by
    intro r rest hready
    refine calls_eq_nil_iff.mp hg.uncalled r (List.mem_append_left _ ?_)
    rw [hready]
    exact List.mem_cons_self
  exact ⟨hg.toInTime.tick htick, (calls_of_between hg.toInTime ⟨htick, hother⟩).trans hg.uncalled⟩

theorem Free.ticks (hg : Free g) (hticks : ReflTransGen Tick g h) : Free h := by
  induction hticks with
  | refl => exact hg
  | tail _ htick ih => exact ih.tick htick

theorem Free.advance (hg : Free g) (seconds : Rat) : Free (after (advance seconds) g) := by
  obtain ⟨h, hrun, hticks, hidle, hend⟩ := runFor_of_inTime hg.toInTime seconds fun _ => false
  have hfree := hg.ticks hticks
  have huncalled := calls_eq_nil_iff.mp hfree.uncalled
  have hlater := hend.resolve_left Bool.false_ne_true
  have hbefore : clock g = .ok g.2.scene.clock g := rfl
  have hbehind : clock h = .ok h.2.scene.clock h := rfl
  rw [Engine.advance, after_bind_of_ok hbefore, after_bind_of_ok hrun, after_bind_of_ok hbehind]
  split
  · exact ⟨⟨hfree.chain, hfree.timely.forward hidle hlater⟩, calls_eq_nil_iff.mpr huncalled⟩
  · exact hfree

/-- When a record has been replayed, another can be. -/
theorem Free.replay (hg : Free g) {text : String} (hmeasured : ∀ line ∈ lines text, Measured line) :
    Free (after (replay (.ofText text)) g) := by
  obtain ⟨told, bad, hrecord⟩ := exists_recounts 1 (lines text)
  obtain ⟨result, last, -, -, -, -, hinTime, huncalled⟩ :=
    replay_spec hg.toInTime hg.uncalled hmeasured hrecord
  exact ⟨hinTime, huncalled⟩

/-- The engines that come of one that has been started with its addons and without alarms: tasks
run, time passes, there are events, changes of settings, and records that are replayed. -/
inductive Lives : Settings × Stage World → Prop
  | started {g : Settings × Stage World} (chain : g.2.addons.chain = Chain.standard)
    (agenda : g.2.scene.world.agenda = .empty) (alarms : g.2.scene.world.alarms.periods = []) :
    Lives (after (Action.triggerEvent .running) g)
  | tick {g h : Settings × Stage World} (before : Lives g) (tick : Tick g h) : Lives h
  | advanced {g : Settings × Stage World} (before : Lives g) (seconds : Rat) :
    Lives (after (advance seconds) g)
  | told {g : Settings × Stage World} (before : Lives g) {event : Event}
    (other : event ≠ .running) : Lives (after (Action.triggerEvent event) g)
  | set {g : Settings × Stage World} (before : Lives g) (values : List (String × Value)) :
    Lives (after (Action.update values) g)
  | replayed {g : Settings × Stage World} (before : Lives g) {text : String}
    (measured : ∀ line ∈ lines text, Measured line) : Lives (after (replay (.ofText text)) g)

theorem free_of_empty (hchain : g.2.addons.chain = Chain.standard)
    (hagenda : g.2.scene.world.agenda = .empty) : Free g := by
  have htimely : (Agenda.empty : Agenda Task).Timely g.2.scene.clock :=
    ⟨.nil, List.forall_mem_nil _, fun _ => List.not_mem_nil.elim, fun _ _ => List.not_mem_nil.elim⟩
  refine ⟨⟨hchain, hagenda ▸ htimely⟩, calls_eq_nil_iff.mpr ?_⟩
  rw [hagenda]
  exact fun r => List.not_mem_nil

/-- In such an engine a record can be played back at any time. -/
theorem Lives.free (h : Lives g) : Free g := by
  induction h with
  | started chain agenda alarms =>
    refine (free_of_empty chain agenda).running ?_
    rw [alarms]
    exact List.forall_mem_nil _
  | tick _ htick ih => exact ih.tick htick
  | advanced _ seconds ih => exact ih.advance seconds
  | told _ other ih => exact ih.triggerEvent other
  | set _ values ih => exact ih.update values
  | replayed _ measured ih => exact ih.replay measured

end Engine
end Detour
