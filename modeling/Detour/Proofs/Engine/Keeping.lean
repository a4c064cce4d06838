import Detour.Proofs.Engine.Turn

/-!
# What stays, whatever happens

Tasks that are no alarms leave the agenda only to be run, a stop that has been asked for is not
taken back, and what has been logged stays in the log (`Keeps`). All addons of the engine keep to
this, whatever the event is (`Keeps.chainWithin_standard`), and so do the tasks that read no record
(`Engine.keeping_runAlarm`, `Engine.keeping_navigate`).
-/
namespace Detour

def Task.isAlarm : Task → Bool
  | .alarm _ => true
  | _ => false

namespace Agenda

/-- What is no alarm is still there, and still ready if it was. -/
structure Keeps (a b : Agenda Task) : Prop where
  ready : ∀ t ∈ a.ready, t.isAlarm = false → t ∈ b.ready
  tasks : ∀ t ∈ a.tasks, t.isAlarm = false → t ∈ b.tasks

variable {a b c : Agenda Task}

theorem Keeps.rfl : Keeps a a := ⟨fun _ h _ => h, fun _ h _ => h⟩

theorem Keeps.trans (h : Keeps a b) (h' : Keeps b c) : Keeps a c :=
  ⟨fun t ht halarm => h'.ready t (h.ready t ht halarm) halarm,
    fun t ht halarm => h'.tasks t (h.tasks t ht halarm) halarm⟩

theorem mem_tasks_sleepUntil {due : Rat} {t u : Task} :
    u ∈ (a.sleepUntil due t).tasks ↔ u = t ∨ u ∈ a.tasks := by
  simp only [tasks, sleepUntil, List.mem_append, List.mem_map, mem_insertSleeper]
  grind

theorem mem_tasks_spawn {t u : Task} : u ∈ (a.spawn t).tasks ↔ u = t ∨ u ∈ a.tasks := by
  simp only [tasks, spawn, List.mem_append, List.mem_singleton]
  tauto

theorem keeps_spawn (a : Agenda Task) (t : Task) : Keeps a (a.spawn t) :=
  ⟨fun _ hu _ => List.mem_append_left _ hu, fun _ hu _ => mem_tasks_spawn.mpr (.inr hu)⟩

theorem keeps_sleepUntil (a : Agenda Task) (due : Rat) (t : Task) : Keeps a (a.sleepUntil due t) :=
  ⟨fun _ hu _ => hu, fun _ hu _ => mem_tasks_sleepUntil.mpr (.inr hu)⟩

theorem keeps_cancel (a : Agenda Task) (alarms : Alarms) :
    Keeps a (a.cancel (Chain.isStale alarms)) := by
  have hstale : ∀ t : Task, t.isAlarm = false → (!Chain.isStale alarms t) = true := by
    intro t ht
    cases t with
    | alarm x => cases ht
    | navigate | openRecord | read | exit => rfl
  refine ⟨fun t ht halarm => List.mem_filter.mpr ⟨ht, hstale t halarm⟩, fun t ht halarm => ?_⟩
  rw [tasks_cancel]
  exact List.mem_filter.mpr ⟨ht, hstale t halarm⟩

theorem keeps_wakeAt (a : Agenda Task) (time : Rat) : Keeps a (a.wakeAt time) := by
  refine ⟨fun t ht _ => List.mem_append_left _ ht, fun t ht _ => ?_⟩
  rwa [tasks_wakeAt]

end Agenda

/-- Whatever else has changed between two scenes. -/
structure Keeps (s t : Scene World) : Prop where
  agenda : s.world.agenda.Keeps t.world.agenda
  exiting : s.world.exiting = true → t.world.exiting = true
  log : s.log <:+ t.log

namespace Keeps

open Dispatch

theorem of_agenda {s t : Scene World} (agenda : s.world.agenda.Keeps t.world.agenda)
    (exiting : t.world.exiting = s.world.exiting) (log : t.log = s.log) : Keeps s t :=
  ⟨agenda, fun h => exiting.trans h, log ▸ List.suffix_rfl⟩

theorem of_same {s t : Scene World} (agenda : t.world.agenda = s.world.agenda)
    (exiting : t.world.exiting = s.world.exiting) (log : t.log = s.log) : Keeps s t :=
  .of_agenda (agenda ▸ .rfl) exiting log

theorem note (s : Scene World) (r : LogRecord) : Keeps s (s.note r) :=
  ⟨.rfl, id, List.suffix_cons _ _⟩

instance : Lenient Keeps where
  refl _ := .of_same rfl rfl rfl
  trans _ _ _ h h' := ⟨h.agenda.trans h'.agenda, h'.exiting ∘ h.exiting, h.log.trans h'.log⟩
  note := note
  aside _ _ h := .of_same h.agenda h.exiting rfl
  spawn s _ := .of_agenda (Agenda.keeps_spawn s.world.agenda _) rfl rfl
  cancel s alarms := .of_agenda (Agenda.keeps_cancel s.world.agenda alarms) rfl rfl

theorem within_sweep : Within Keeps Chain.sweep := fun _ => .of_same rfl rfl rfl

theorem within_suppressed (tab : Id) : Within Keeps (Redirect.suppressed tab) :=
  fun _ => .of_same rfl rfl rfl

theorem within_ask (n : Navigation) (table : List Setting) :
    Within Keeps (Redirect.ask n table) := by
  intro s
  cases hwatched : n.isWatched table with
  | false =>
    rw [after_of_ok (ask_of_ignored hwatched)]
    exact refl_of Keeps s
  | true =>
    rw [ask_of_watched hwatched]
    refine (within_suppressed n.tab).bind (fun answer => ?_) s
    split
    · exact (within_log _).bind fun _ => within_pure none
    · refine Within.bind (fun s => ?_) fun r => within_pure (some r)
      exact .of_same rfl rfl rfl

theorem within_finishEnabled (r : Rules.Request) (table : List Setting) :
    Within Keeps (r.finishEnabled table) := by
  refine within_get.bind fun s => ?_
  split
  · exact (within_log _).bind fun _ => within_pure _
  · exact (within_log _).bind fun _ => within_pure _

theorem within_redirect (n : Navigation) (r : Rule) : Within Keeps (Redirect.redirect n r) := by
  refine (within_suppressed n.tab).bind fun answer => ?_
  split
  · refine (within_log _).bind fun _ => fun s => ?_
    exact .of_agenda (Agenda.keeps_spawn _ _) rfl rfl
  · exact within_pure ()

theorem within_finish (n : Navigation) (r : Rules.Request) (table : List Setting) :
    Within Keeps (Redirect.finish n r table) := by
  refine (within_finishEnabled r table).bind fun rules => ?_
  unfold Redirect.apply
  refine (within_log _).bind fun _ => ?_
  split
  · exact within_pure ()
  · exact within_redirect n _

theorem loopGuard_handler (event : Event) :
    HandlerWithin Keeps (Chain.loopGuard.handler event) :=
  loopGuard_within (fun _ _ => .of_same rfl rfl rfl) event

/-- What is left of a navigation that has been suspended is its second half. -/
theorem eq_finish_of_begin {n : Navigation} {table : List Setting} {s t : Scene World}
    {finish : WorldHandling Unit} (h : Redirect.begin n table s = .ok (some finish) t) :
    ∃ r, finish = Redirect.finish n r := by
  obtain ⟨request, u, hask⟩ := ask_spec n table s
  rw [Redirect.begin, bind_of_ok hask] at h
  cases request with
  | none => cases h
  | some r =>
    dsimp only at h
    rw [get_bind] at h
    cases hheld : r.isHeld u.world with
    | true =>
      rw [hheld, if_pos rfl] at h
      cases h
      exact ⟨r, rfl⟩
    | false =>
      obtain ⟨log, hfinish⟩ := finish_spec n r table u
      rw [hheld, if_neg Bool.false_ne_true, bind_of_ok hfinish] at h
      cases h

theorem redirector_handler (event : Event) :
    HandlerWithin Keeps (Chain.redirector.handler event) := by
  cases event with
  | navigationCompleted n =>
    -- The navigation may be suspended between its halves.
    refine ⟨fun table => ?_, fun table s t finish hs table' => ?_⟩
    · refine (within_ask n table).bind fun request => ?_
      split
      · exact within_pure none
      · refine within_get.bind fun s => ?_
        split
        · exact within_pure _
        · exact (within_finish n _ table).bind fun _ => within_pure none
    · obtain ⟨r, rfl⟩ := eq_finish_of_begin hs
      exact within_finish n r table'
  | load | configure | running | done | tabRemoved | alarm => trivial

theorem within_startReading (path : String) : Within Keeps (Chain.startReading path) :=
  fun _ => .of_agenda (Agenda.keeps_spawn _ _) rfl rfl

theorem readEvents_handler (event : Event) :
    HandlerWithin Keeps (Chain.readEvents.handler event) :=
  readEvents_within within_startReading event

/-- Whatever the event is, no addon of the engine forgets anything. -/
theorem chainWithin_standard (event : Event) : ChainWithin Keeps event Chain.standard := by
  intro a ha
  rcases List.mem_append.mp ha with ha | ha
  · exact chainWithin_core.mpr ⟨alarms_within event, loopGuard_handler event,
      ruleStore_within event, redirector_handler event, cleanup_within fun _ _ => within_sweep⟩ a ha
  · obtain rfl := List.mem_singleton.mp ha
    exact List.forall_mem_singleton.mpr (readEvents_handler event)

end Keeps

namespace Engine

/-- Nothing but the scene changes, and with the addons of the engine that forgets nothing. -/
def Keeping (g h : Settings × Stage World) : Prop :=
  h.1 = g.1 ∧ Stage.Moves Chain.standard Keeps g.2 h.2

instance : IsPreorder (Settings × Stage World) Keeping where
  refl g := ⟨rfl, refl_of (Stage.Moves Chain.standard Keeps) g.2⟩
  trans _ _ _ h h' :=
    ⟨h'.1.trans h.1, trans_of (Stage.Moves Chain.standard Keeps) h.2 h'.2⟩

theorem keeping_onScene {α : Type} {h : EStateM Failure (Scene World) α} (hh : Within Keeps h) :
    Within Keeping (onScene h) := by
  intro g
  rw [onScene, Action.after_onScene]
  exact ⟨rfl, rfl, fun _ => hh g.2.scene⟩

theorem keeping_triggerEvent (event : Event) : Within Keeping (Action.triggerEvent event) := by
  intro g
  rw [Action.after_triggerEvent]
  refine ⟨rfl, rfl, fun hchain => ?_⟩
  rw [hchain]
  exact Dispatch.within_triggerEvent Keeps.note (Keeps.chainWithin_standard event) g.1.table g.2.scene

theorem keeping_change {f : World → World} (agenda : ∀ w : World, w.agenda.Keeps (f w).agenda)
    (exiting : ∀ w, (f w).exiting = w.exiting) : Within Keeping (change f) :=
  keeping_onScene fun s => .of_agenda (agenda s.world) (exiting s.world) rfl

theorem keeping_log (r : LogRecord) : Within Keeping (log r) := keeping_onScene (within_log _)

theorem keeping_sleepUntil (due : Rat) (t : Task) : Within Keeping (sleepUntil due t) := by
  refine within_clock.bind fun now => keeping_change (fun w => ?_) fun w => rfl
  by_cases h : due ≤ now
  · simpa [h] using Agenda.keeps_spawn w.agenda t
  · simpa [h] using Agenda.keeps_sleepUntil w.agenda due t

theorem keeping_scheduleAfter (x : AlarmTask) (time : Rat) :
    Within Keeping (scheduleAfter x time) := by
  unfold scheduleAfter
  split
  · exact keeping_sleepUntil _ _
  · exact within_pure ()

theorem keeping_runAlarm (x : AlarmTask) : Within Keeping (runAlarm x) := by
  unfold runAlarm
  cases x.due with
  | none => exact within_clock.bind fun now => keeping_scheduleAfter x now
  | some due =>
    have hfired : Within Keeping
        (change fun w => { w with fired := x.firing due :: w.fired }) :=
      keeping_change (fun _ => .rfl) fun _ => rfl
    have hfire : Within Keeping (fire x due) :=
      (keeping_log _).bind fun _ => hfired.bind fun _ => keeping_triggerEvent _
    refine hfire.bind fun _ => within_world.bind fun w => ?_
    split
    · exact keeping_scheduleAfter x due
    · exact within_pure ()

theorem keeping_navigate (tab : Id) (url : String) :
    Within Keeping (onScene (Redirect.navigate tab url)) := by
  refine keeping_onScene (within_get.bind fun s => ?_)
  have hissue : Within Keeps
      (World.change fun w => { w with tabs := s.world.tabs.issue tab url }) :=
    fun _ => .of_same rfl rfl rfl
  refine hissue.bind fun _ => (within_log _).bind fun _ => ?_
  split
  · exact within_pure ()
  · exact within_log _

theorem within_attempt {R : Settings × Stage World → Settings × Stage World → Prop} {α : Type}
    {e : Engine α} (h : Within R e) : Within R (attempt e) := by
  intro g
  obtain ⟨r, hr⟩ := attempt_spec e g
  rw [after_of_ok hr]
  exact h g

end Engine
end Detour
