import Detour.Proofs.Alarm.Clockwork
import Detour.Proofs.Sending

/-!
# Cleanup when an alarm goes off

The addons that redirect deal with an alarm without a wait and without a failure: if it is the
cleanup's, expired entries of the loop guard are dropped, and otherwise nothing changes
(`sweeps_core`). So it is known what becomes of the scene when the task of an alarm runs, on
time or late (`Engine.runAlarm_core`).
-/
namespace Detour

open Chain Dispatch

def Scene.cleanedUp (s : Scene World) (x : Alarm) : Scene World :=
  { s with world := { s.world with
    guard := if x.name = cleanupAlarm then (s.world.guard.sweep s.millis).2 else s.world.guard } }

theorem cleanup_alarm (x : Alarm) : ∃ run, cleanup.handler (.alarm x) = .plain run ∧
    ∀ table s, ∃ log, s.log <:+ log ∧ run table s = .ok () { s.cleanedUp x with log } := by
  refine ⟨_, rfl, fun table s => ?_⟩
  by_cases hname : x.name = cleanupAlarm
  · have hsweep : sweep s = .ok (s.world.guard.sweep s.millis).1 (s.cleanedUp x) := by
      rw [Scene.cleanedUp, if_pos hname]
      rfl
    simp only [hname, if_true]
    rw [bind_of_ok hsweep]
    split
    · exact ⟨_, List.suffix_cons _ _, rfl⟩
    · exact ⟨s.log, List.suffix_rfl, rfl⟩
  · refine ⟨s.log, List.suffix_rfl, ?_⟩
    simp only [Scene.cleanedUp, hname, if_false]
    rfl

/-- All that the addons of a chain do about an alarm is to drop what has expired. -/
def Dispatch.Sweeps (chain : List (Addon World)) : Prop :=
  ∀ x table s, ∃ log, triggerEvent (.alarm x) chain table s = .ok () { s.cleanedUp x with log }

theorem sweeps_core : Sweeps core := by
  intro x table s
  obtain ⟨run, hhandler, hrun⟩ := cleanup_alarm x
  obtain ⟨log, -, hrun⟩ := hrun table s
  refine ⟨log, ?_⟩
  unfold core
  rw [triggerEvent_of_absent rfl rfl, triggerEvent_of_absent rfl rfl, triggerEvent_of_absent rfl rfl,
    triggerEvent_of_absent rfl rfl, triggerEvent_of_plain hhandler rfl hrun]
  rfl

theorem sweeps_standard : Sweeps standard := by
  intro x table s
  obtain ⟨log, h⟩ := sweeps_core x table s
  have habsent : readEvents.handler (.alarm x) = .absent := rfl
  rw [← triggerEvent_concat_of_absent habsent rfl] at h
  exact ⟨log, h⟩

theorem obliging_of_alone {a : Addon World} (htree : a.tree = [a])
    (h : ∀ x, HandlerObliging (a.handler (.alarm x))) :
    ∀ b ∈ a.tree, ∀ x, HandlerObliging (b.handler (.alarm x)) := by
  rw [htree]
  exact List.forall_mem_singleton.mpr h

/-- The addons that redirect leave the alarms alone when one goes off. -/
theorem obliging_core : Obliging core := by
  have hcleanup : ∀ x, HandlerObliging (cleanup.handler (.alarm x)) := by
    intro x
    obtain ⟨run, hhandler, hrun⟩ := cleanup_alarm x
    rw [hhandler]
    intro table s
    obtain ⟨log, hlog, hrun⟩ := hrun table s
    rw [after_of_ok hrun, hrun]
    refine ⟨⟨rfl, rfl, rfl, rfl, hlog⟩, fun f t h => ?_⟩
    cases h
  exact List.forall_mem_cons.mpr ⟨obliging_of_alone rfl fun _ => trivial,
    List.forall_mem_cons.mpr ⟨obliging_of_alone rfl fun _ => trivial,
      List.forall_mem_cons.mpr ⟨obliging_of_alone rfl fun _ => trivial,
        List.forall_mem_cons.mpr ⟨obliging_of_alone rfl fun _ => trivial,
          List.forall_mem_singleton.mpr (obliging_of_alone rfl hcleanup)⟩⟩⟩⟩

/-- The scene when an alarm has gone off, but for the log. -/
def Scene.afterFire (s : Scene World) (t : AlarmTask) (due : Rat) : Scene World :=
  ({ s with world := { s.world with fired := t.firing due :: s.world.fired } } :
    Scene World).cleanedUp (t.firing due)

/-- The scene when the task of an alarm has run, but for the log. -/
def Scene.afterAlarm (s : Scene World) (t : AlarmTask) : Scene World :=
  match t.due with
  | none => s.withNext t s.clock
  | some due =>
    if s.world.alarms.isCurrent t then (s.afterFire t due).withNext t due else s.afterFire t due

namespace Engine

variable {g : Settings × Stage World}

theorem fire_of_sweeps (hchain : Sweeps g.2.addons.chain) (t : AlarmTask) (due : Rat) :
    ∃ log, fire t due g = .ok () (withScene g { g.2.scene.afterFire t due with log }) := by
  let noted : Scene World := g.2.scene.note (firedNotice t.name)
  let fired : Scene World :=
    { noted with world := { noted.world with fired := t.firing due :: noted.world.fired } }
  obtain ⟨log, htrigger⟩ := hchain (t.firing due) g.1.table fired
  have hlog : Engine.log (firedNotice t.name) g = .ok () (withScene g noted) := rfl
  have hfired : change (fun w => { w with fired := t.firing due :: w.fired })
      (withScene g noted) = .ok () (withScene g fired) := rfl
  have hsend : Action.triggerEvent (.alarm (t.firing due)) (withScene g fired) = _ :=
    Action.triggerEvent_of_ok htrigger
  exact ⟨log, (bind_of_ok hlog).trans ((bind_of_ok hfired).trans hsend)⟩

theorem runAlarm_of_sweeps (hchain : Sweeps g.2.addons.chain) (t : AlarmTask) :
    ∃ log, runAlarm t g = .ok () (withScene g { g.2.scene.afterAlarm t with log }) := by
  unfold runAlarm Scene.afterAlarm
  cases t.due with
  | none => exact ⟨g.2.scene.log, scheduleAfter_eq t g.2.scene.clock g⟩
  | some due =>
    obtain ⟨log, hfire⟩ := fire_of_sweeps hchain t due
    let told : Scene World := { g.2.scene.afterFire t due with log }
    have hworld : world (withScene g told) = .ok told.world (withScene g told) := rfl
    refine ⟨log, (bind_of_ok hfire).trans ((bind_of_ok hworld).trans ?_)⟩
    have hcurrent : told.world.alarms.isCurrent t = g.2.scene.world.alarms.isCurrent t := rfl
    rw [hcurrent]
    cases g.2.scene.world.alarms.isCurrent t with
    | true => exact scheduleAfter_eq t due (withScene g told)
    | false => rfl

theorem runAlarm_core (hchain : g.2.addons.chain = core) (t : AlarmTask) :
    ∃ log, runAlarm t g = .ok () (withScene g { g.2.scene.afterAlarm t with log }) :=
  runAlarm_of_sweeps (hchain ▸ sweeps_core) t

end Engine
end Detour
