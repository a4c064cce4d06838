import Detour.Proofs.Alarm.Clockwork
import Detour.Proofs.Alarm.Keeping

/-!
# No alarm is early

A task of an alarm that is ready and knows when it is due is due by now (`Agenda.Ripe`). No addon
has one ready before (`ripens_core`), nor does a task that is put off (`Agenda.Ripe.again`).
-/
namespace Detour

namespace Agenda

structure Ripe (now : Rat) (a : Agenda Task) : Prop where
  ready : ∀ x due, .alarm x ∈ a.ready → x.due = some due → due ≤ now
  asleep : ∀ e ∈ a.sleeping, ∀ x due, e.2 = .alarm x → x.due = some due → due ≤ e.1

variable {a b : Agenda Task} {t : Task} {now : Rat}

theorem Ripe.of_subset (h : a.Ripe now) (hready : ∀ x, .alarm x ∈ b.ready → .alarm x ∈ a.ready)
    (hsleeping : b.sleeping ⊆ a.sleeping) : b.Ripe now :=
  ⟨fun x due hx => h.ready x due (hready x hx), fun e he => h.asleep e (hsleeping he)⟩

theorem Ripe.cancel (h : a.Ripe now) (p : Task → Bool) : (a.cancel p).Ripe now :=
  h.of_subset (fun _ hx => List.mem_of_mem_filter hx) fun _ he => List.mem_of_mem_filter he

theorem Ripe.spawn (h : a.Ripe now) (ht : ∀ x due, t = .alarm x → x.due = some due → due ≤ now) :
    (a.spawn t).Ripe now := by
  refine ⟨fun x due hx hdue => ?_, h.asleep⟩
  rcases List.mem_append.mp hx with hx | hx
  · exact h.ready x due hx hdue
  · exact ht x due (List.mem_singleton.mp hx).symm hdue

theorem Ripe.again (h : a.Ripe now) (x : AlarmTask) (time : Rat) :
    (a.again x time now).Ripe now := by
  unfold Agenda.again
  split
  · exact h
  · next due _ =>
    dsimp only
    split
    · next hle =>
      refine h.spawn fun y d hy hd => ?_
      cases hy
      cases hd
      exact hle
    · refine ⟨h.ready, fun e he y d hy hd => ?_⟩
      rcases mem_insertSleeper.mp he with rfl | he
      · cases hy
        cases hd
        exact le_refl due
      · exact h.asleep e he y d hy hd

theorem Ripe.wakeAt (h : a.Ripe now) {time : Rat} (hlater : now ≤ time) :
    (a.wakeAt time).Ripe time := by
  refine ⟨fun x due hx hdue => ?_, fun e he =>
    h.asleep e ((sleeping_wakeAt_sublist a time).subset he)⟩
  rw [ready_wakeAt] at hx
  rcases List.mem_append.mp hx with hx | hx
  · exact (h.ready x due hx hdue).trans hlater
  · obtain ⟨e, he, hex⟩ := List.mem_map.mp hx
    have hwoken : e.1 ≤ time := by simpa using List.mem_takeWhile_imp he
    exact (h.asleep e ((List.takeWhile_prefix _).subset he) x due hex hdue).trans hwoken

end Agenda

/-- No time passes, and no alarm gets early. -/
def Scene.Ripens (s t : Scene World) : Prop :=
  t.clock = s.clock ∧ (s.world.agenda.Ripe s.clock → t.world.agenda.Ripe t.clock)

namespace Scene

theorem Ripens.of_agenda {s t : Scene World} (clock : t.clock = s.clock)
    (agenda : t.world.agenda = s.world.agenda) : Ripens s t :=
  ⟨clock, fun h => by rwa [agenda, clock]⟩

instance : Tolerant Ripens where
  refl _ := .of_agenda rfl rfl
  trans _ _ _ h h' := ⟨h'.1.trans h.1, h'.2 ∘ h.2⟩
  note _ _ := .of_agenda rfl rfl
  aside _ _ h := .of_agenda rfl h.agenda
  start _ x _ hdue := by
    refine ⟨rfl, fun h => h.spawn fun y due hy hsome => ?_⟩
    cases hy
    cases hdue.symm.trans hsome
  cancel _ _ := ⟨rfl, fun h => h.cancel _⟩

theorem ripens_runAlarms : Within Ripens Chain.runAlarms := by
  refine within_get.bind fun s => Within.bind ?_ fun _ => ?_
  · exact within_aside fun _ => ⟨rfl, rfl, rfl, rfl, rfl⟩
  · refine within_startTasks fun x hx t => ⟨rfl, fun h => h.spawn fun y due hy hsome => ?_⟩
    cases hy
    cases (Alarms.of_mem_startAll hx).1.symm.trans hsome

theorem ripens_core (event : Event) (h : ∀ n, event ≠ .navigationCompleted n) :
    Dispatch.ChainWithin Ripens event Chain.core := by
  have hredirector : Dispatch.HandlerWithin Ripens (Chain.redirector.handler event) := by
    cases event with
    | navigationCompleted n => exact absurd rfl (h n)
    | load | configure | running | done | tabRemoved | alarm => trivial
  exact chainWithin_core.mpr ⟨alarms_within_of fun _ => ripens_runAlarms,
    loopGuard_within (fun _ _ => .of_agenda rfl rfl) event, ruleStore_within event, hredirector,
    cleanup_within fun _ _ _ => .of_agenda rfl rfl⟩

end Scene
end Detour
