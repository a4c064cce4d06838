import Detour.Proofs.Alarm.Change
import Detour.Proofs.Alarm.Settling
import Detour.Proofs.Engine.Cleanup

/-!
# Alarms go off on schedule

After any operations on alarms, each followed by all that is ready, what has gone off is what the
operations say ought to have (`Engine.alarms_on_schedule`). One operation keeps the scene on schedule
(`Scene.OnSchedule.perform`), and so do all of them one after the other.
-/
namespace Detour

open Timetable

namespace AlarmOp

/-- The operation on the engine. -/
def action : AlarmOp → Engine Unit
  | create name period => Engine.onScene (Chain.createAlarm name period)
  | clear name => do
    let _ ← Engine.onScene (Chain.clearAlarm name)
  | running => Action.onScene (Dispatch.callSync .running Chain.alarms)
  | done => Action.onScene (Dispatch.callSync .done Chain.alarms)
  | advance seconds => Engine.advance seconds

/-- The engine after the operation, whether it fails or not, and then all that is ready. -/
def perform (op : AlarmOp) (g : Settings × Stage World) : Settings × Stage World :=
  after Engine.settle (after op.action g)

end AlarmOp

def Engine.afterAlarmOps (g : Settings × Stage World) (ops : List AlarmOp) : Settings × Stage World :=
  ops.foldl (fun g op => op.perform g) g

open Engine (withScene)

variable {start : Rat} {ops : List AlarmOp} {g : Settings × Stage World} {s : Scene World}

theorem AlarmOp.create_of_refused {period : Period} (h : period.isPositive = false) (name : String)
    (g : Settings × Stage World) :
    (create name period).action g = .error (.periodNotPositive period.shown) g := by
  have hcreate : Chain.createAlarm name period g.2.scene =
      .error (.periodNotPositive period.shown) g.2.scene := by
    rw [Chain.createAlarm, get_bind, Alarms.create_of_not_positive h]
    rfl
  simp only [action, Engine.onScene, Action.onScene, hcreate]

/-- Any other is taken, and the alarm replaces the one of its name. -/
theorem AlarmOp.create_of_accepted {period : Period} (h : period.isPositive = true) (name : String)
    (g : Settings × Stage World) :
    (create name period).action g = .ok () (withScene g { g.2.scene with world :=
      { g.2.scene.world with
        alarms := g.2.scene.world.alarms.withAlarm name period
        agenda := (g.2.scene.world.alarms.newTask? name period).toList.foldl
          (fun a t => a.spawn (.alarm t)) (g.2.scene.world.agenda.cancel
            (Chain.isStale (g.2.scene.world.alarms.withAlarm name period))) } }) := by
  have hcreate := Alarms.create_of_positive h g.2.scene.world.alarms name
  simp only [action, Engine.onScene, Action.onScene, Chain.createAlarm, get_bind, hcreate]
  rfl

namespace Scene.OnSchedule

theorem refuse (h : OnSchedule start ops s) (hidle : s.world.agenda.ready = []) {period : Period}
    (hp : period.isPositive = false) (name : String) :
    OnSchedule start (ops ++ [.create name period]) s := by
  have hactive : Active start (ops ++ [.create name period]) = Active start ops := by
    funext other p since
    simp only [active_concat, AlarmOp.ends, hp, Bool.and_false, and_true, eq_iff_iff,
      or_iff_left_iff_imp]
    rintro ⟨⟨-, -, hsame, hpositive⟩, -⟩
    rw [← hsame, hp] at hpositive
    cases hpositive
  refine h.concat hidle rfl ?_ (by simp [hidle]) ?_
  · refine ⟨?_, fun other p => ?_, h.alarms.distinct, h.alarms.tasks, h.alarms.single,
      h.alarms.serials⟩
    · rw [isRunning_concat]
      exact h.alarms.running
    · simp only [held_concat, hp, Bool.and_false, Bool.false_eq_true, if_false]
      exact h.alarms.periods other p
  · rw [hactive]
    exact h.onTime.punctual

theorem advance (h : OnSchedule start ops s) {seconds : Rat} {t : Scene World}
    (hclock : t.clock = s.clock + max 0 seconds) (halarms : t.world.alarms = s.world.alarms)
    (hidle : t.world.agenda.ready = []) (ht : t.OnTime (Active start ops) (Due start ops)) :
    OnSchedule start (ops ++ [.advance seconds]) t := by
  have hactive : Active start (ops ++ [.advance seconds]) = Active start ops := by
    funext name period since
    simp [active_concat, AlarmOp.ends, Begins]
  have hnow : t.clock = now start (ops ++ [.advance seconds]) := by
    rw [now_concat, hclock, h.clock]
    rfl
  refine ⟨hnow, ?_, ?_, ?_⟩
  · rw [halarms]
    exact Alarms.follows_advance h.alarms seconds
  · rw [hactive]
    exact ht.punctual
  · have htally := ht.tally
    rw [hidle, hnow] at htally
    have hconcat : Tally (Active start (ops ++ [.advance seconds]))
        (Due start (ops ++ [.advance seconds])) (now start (ops ++ [.advance seconds]))
        t.world.agenda.ready t.world.fired t.log := htally.concat (by simp [hidle])
    rwa [← hnow] at hconcat

/-- An operation on alarms, before anything else runs. -/
theorem action (h : OnSchedule start ops g.2.scene) (hidle : g.2.scene.world.agenda.ready = [])
    (hchain : Dispatch.Obliging g.2.addons.chain) (op : AlarmOp) :
    ∃ s, after op.action g = withScene g s ∧ OnSchedule start (ops ++ [op]) s := by
  cases op with
  | create name period =>
    cases hp : period.isPositive with
    | false =>
      refine ⟨g.2.scene, ?_, h.refuse hidle hp name⟩
      rw [after_of_error (AlarmOp.create_of_refused hp name g)]
      rfl
    | true =>
      exact ⟨_, after_of_ok (AlarmOp.create_of_accepted hp name g), h.create hidle hp name⟩
  | clear name => exact ⟨_, rfl, h.clear hidle name⟩
  | running => exact ⟨_, rfl, h.run hidle⟩
  | done => exact ⟨_, rfl, h.stop hidle⟩
  | advance seconds =>
    obtain ⟨s, hadvance, hclock, halarms, hready, hs⟩ :=
      Engine.advance_spec hchain (definite_active start ops) h.onTime seconds
    exact ⟨s, after_of_ok hadvance, h.advance hclock halarms hready hs⟩

theorem settle (h : OnSchedule start ops s) {t : Scene World}
    (ht : Engine.Settled (Active start ops) (Due start ops) s t) : OnSchedule start ops t := by
  refine ⟨ht.clock.trans h.clock, ?_, ht.onTime⟩
  rw [ht.alarms]
  exact h.alarms

/-- An operation on alarms, and then all that is ready. -/
theorem perform (h : OnSchedule start ops g.2.scene) (hidle : g.2.scene.world.agenda.ready = [])
    (hchain : Dispatch.Obliging g.2.addons.chain) (op : AlarmOp) :
    ∃ s, op.perform g = withScene g s ∧ OnSchedule start (ops ++ [op]) s ∧
      s.world.agenda.ready = [] := by
  obtain ⟨s, haction, hs⟩ := h.action hidle hchain op
  obtain ⟨t, hsettle, ht⟩ :=
    Engine.settle_spec (g := withScene g s) hchain (definite_active start _) hs.onTime
  refine ⟨t, ?_, hs.settle ht, ht.idle⟩
  rw [AlarmOp.perform, haction, after_of_ok hsettle]
  rfl

end Scene.OnSchedule

/-- No alarm has been created yet, nothing waits to run and nothing has gone off. -/
structure Scene.Untouched (s : Scene World) : Prop where
  alarms : s.world.alarms = .fresh
  agenda : s.world.agenda = .empty
  fired : s.world.fired = []

theorem Scene.Untouched.onSchedule (h : s.Untouched) : s.OnSchedule s.clock [] := by
  have hactive : ∀ {name period since}, ¬ Active s.clock [] name period since := by
    intro name period since hactive
    cases hactive.isRunning
  have hdue : ∀ {a}, ¬ Due s.clock [] a := by
    rintro a ⟨x, -⟩
    have hwhole := x.whole
    simp at hwhole
  refine ⟨rfl, ?_, ⟨?_, ?_⟩⟩
  · rw [h.alarms]
    exact Alarms.follows_fresh
  · rw [h.agenda]
    exact ⟨List.forall_mem_nil _, List.forall_mem_nil _, .nil, .nil,
      fun hx => absurd hx hactive⟩
  · rw [h.agenda, h.fired]
    exact ⟨List.forall_mem_nil _, .nil, .nil, List.forall_mem_nil _, List.forall_mem_nil _,
      fun hx => absurd hx hdue, fun ⟨_, hx, _⟩ => absurd hx hactive, fun ht => nomatch ht⟩

/-- Operations one after the other keep an engine on schedule. -/
theorem Engine.afterAlarmOps_spec (hchain : Dispatch.Obliging g.2.addons.chain)
    (h : g.2.scene.OnSchedule start ops) (hidle : g.2.scene.world.agenda.ready = [])
    (more : List AlarmOp) :
    ∃ s, afterAlarmOps g more = withScene g s ∧ s.OnSchedule start (ops ++ more) ∧
      s.world.agenda.ready = [] := by
  induction more generalizing g ops with
  | nil => exact ⟨g.2.scene, rfl, by rwa [List.append_nil], hidle⟩
  | cons op more ih =>
    obtain ⟨s, hperform, hs, hready⟩ := h.perform hidle hchain op
    obtain ⟨t, hmore, ht, hidle⟩ := ih (g := withScene g s) hchain hs hready
    refine ⟨t, ?_, ?_, hidle⟩
    · change afterAlarmOps (op.perform g) more = _
      rw [hperform, hmore]
      rfl
    · rwa [← List.append_cons] at ht

/-- After any operations on alarms, each followed by all that is ready, every period of a stretch in
which an alarm has been active has set it off once, at its end and in order, and nothing else has.
The alarms are those that have been created and not cleared since, each has a task while alarms run
and none otherwise, and a period that is not positive is refused and changes nothing. -/
theorem Engine.alarms_on_schedule (settings : Settings) (addons : AddonTable World) (s : Scene World)
    (hchain : Dispatch.Obliging addons.chain) (hs : s.Untouched) (ops : List AlarmOp) :
    let g := afterAlarmOps (settings, ⟨addons, s⟩) ops
    let w := g.2.scene.world
    g.2.scene.clock = now s.clock ops ∧ w.agenda.ready = [] ∧
      (∀ a ∈ w.fired, ∃! e : Stretch ops × Nat, e.1.Fires s.clock e.2 a) ∧
      (∀ (x : Stretch ops) k a, x.Fires s.clock k a → a ∈ w.fired) ∧ w.fired.Nodup ∧
      w.fired.Pairwise (fun a b => b.scheduled ≤ a.scheduled) ∧
      (∀ a ∈ w.fired, (a.scheduled, firedNotice a.name) ∈ g.2.scene.log) ∧
      w.alarms.running = isRunning ops ∧
      (∀ name period, (name, period) ∈ w.alarms.periods ↔ held name ops = some period) ∧
      (∀ name, (∃ serial, (name, serial) ∈ w.alarms.tasks) ↔
        w.alarms.running = true ∧ ∃ period, (name, period) ∈ w.alarms.periods) ∧
      (w.alarms.tasks.map (·.1)).Nodup ∧
      ∀ name period, period.isPositive = false →
        (AlarmOp.create name period).action g = .error (.periodNotPositive period.shown) g := by
  obtain ⟨t, hops, ht, hidle⟩ := afterAlarmOps_spec (g := (settings, ⟨addons, s⟩)) hchain
    hs.onSchedule (by rw [hs.agenda]; rfl) ops
  rw [List.nil_append] at ht
  have htally := ht.onTime.tally
  have hdue : ∀ a, a ∈ t.world.fired ↔ Due s.clock ops a := by
    intro a
    refine ⟨fun ha => ?_, htally.kept⟩
    rcases htally.sound a ha with hdue | ⟨since, hactive, hmarks, hnow⟩
    · exact hdue
    · exact due_of_active hactive hmarks (ht.clock ▸ hnow)
  rw [hops]
  refine ⟨ht.clock, hidle, fun a ha => ?_, fun x k a hx => (hdue a).mpr ⟨x, k, hx⟩, htally.once,
    htally.order, htally.logged, ht.alarms.running, ht.alarms.periods, ht.alarms.tasks,
    ht.alarms.single, fun name period hp => AlarmOp.create_of_refused hp name _⟩
  obtain ⟨x, k, hx⟩ := (hdue a).mp ha
  refine ⟨(x, k), hx, fun e he => ?_⟩
  obtain ⟨hstretch, hk⟩ := fires_unique he hx
  exact Prod.ext hstretch hk

/-- An alarm that goes off twice before it is replaced, and once more after a period is refused. -/
theorem Engine.alarms_on_schedule_when_replaced :
    let ops : List AlarmOp := [.create "tick" (.whole 10), .running, .advance 25,
      .create "tick" (.whole 3), .create "tick" (.whole 0), .advance 4]
    let w := (afterAlarmOps (.empty, ⟨⟨[], Chain.core⟩, Course.sampleScene⟩) ops).2.scene.world
    Dispatch.Obliging Chain.core ∧ Course.sampleScene.Untouched ∧ w.fired.Nodup ∧
      ⟨"tick", .whole 10, 10⟩ ∈ w.fired ∧ ⟨"tick", .whole 10, 20⟩ ∈ w.fired ∧
      ⟨"tick", .whole 3, 28⟩ ∈ w.fired := by
  intro ops w
  have hsample : Course.sampleScene.Untouched := ⟨rfl, rfl, rfl⟩
  obtain ⟨-, -, -, hfires, honce, -⟩ :=
    alarms_on_schedule .empty ⟨[], Chain.core⟩ Course.sampleScene obliging_core hsample ops
  let first : Stretch ops := ⟨[.create "tick" (.whole 10)], .running, _, "tick", .whole 10, rfl, rfl, rfl⟩
  let second : Stretch ops := ⟨[.create "tick" (.whole 10), .running, .advance 25],
    .create "tick" (.whole 3), _, "tick", .whole 3, rfl, rfl, rfl, rfl, rfl⟩
  refine ⟨obliging_core, hsample, honce, hfires first 1 _ ?_, hfires first 2 _ ?_,
    hfires second 1 _ ?_⟩
  · exact ⟨by decide, 10, rfl, by decide +kernel, by decide +kernel⟩
  · exact ⟨by decide, 10, rfl, by decide +kernel, by decide +kernel⟩
  · exact ⟨by decide, 3, rfl, by decide +kernel, by decide +kernel⟩

end Detour
