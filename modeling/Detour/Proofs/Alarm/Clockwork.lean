import Detour.Engine.Run
import Detour.Proofs.Alarm.Punctual
import Detour.Proofs.Engine.Turn

/-!
# An alarm goes off

Where no handler waits, changes alarms or refuses settings when an alarm goes off
(`Dispatch.Obliging`), the task of an alarm that is due sets it off and goes to sleep for another
period (`Engine.runAlarm_spec`).
-/
namespace Detour

/-- No time passes, alarms and their tasks stay as they are, and what has been logged stays. -/
structure Scene.Still (s t : Scene World) : Prop where
  clock : t.clock = s.clock
  alarms : t.world.alarms = s.world.alarms
  agenda : t.world.agenda = s.world.agenda
  fired : t.world.fired = s.world.fired
  log : s.log <:+ t.log

namespace Scene

theorem Still.rfl {s : Scene World} : Still s s :=
  ⟨Eq.refl _, Eq.refl _, Eq.refl _, Eq.refl _, List.suffix_rfl⟩

theorem Still.trans {s t u : Scene World} (h : Still s t) (h' : Still t u) : Still s u :=
  ⟨h'.clock.trans h.clock, h'.alarms.trans h.alarms, h'.agenda.trans h.agenda,
    h'.fired.trans h.fired, h.log.trans h'.log⟩

instance : IsPreorder (Scene World) Still where
  refl _ := .rfl
  trans _ _ _ := .trans

theorem still_note (s : Scene World) (r : LogRecord) : Still s (s.note r) :=
  ⟨rfl, rfl, rfl, rfl, List.suffix_cons _ _⟩

end Scene

namespace Dispatch

open Scene (Still still_note)

/-- The handler returns at once, or fails without refusing settings, and leaves the alarms alone. -/
def HandlerObliging : Handler World → Prop
  | .absent | .notCallable => True
  | .plain run | .awaitable run => ∀ table s, Still s (after (run table) s) ∧
      ∀ f t, run table s = .error f t → f.isRefusal = false
  | .suspending _ => False

/-- So does every handler of alarms in a chain. -/
def Obliging (chain : List (Addon World)) : Prop :=
  ∀ a ∈ chain, ∀ b ∈ a.tree, ∀ x, HandlerObliging (b.handler (.alarm x))

variable {x : Alarm} {chain tree : List (Addon World)} {table : List Setting} {s t : Scene World}
  {f : Failure}

theorem HandlerObliging.within {h : Handler World} (hh : HandlerObliging h) :
    HandlerWithin Still h := by
  cases h with
  | absent | notCallable => trivial
  | plain run | awaitable run => exact fun table s => (hh table s).1
  | suspending start => exact hh.elim

theorem start_of_obliging {a : Addon World} (h : HandlerObliging (a.handler (.alarm x)))
    (table : List Setting) (s : Scene World) : (∃ t, start (.alarm x) a table s = .ok none t) ∨
      ∃ f t, start (.alarm x) a table s = .error f t ∧ f.isRefusal = false := by
  unfold start
  cases ha : a.handler (.alarm x) with
  | absent => exact .inl ⟨s, rfl⟩
  | notCallable => exact .inr ⟨_, s, rfl, rfl⟩
  | plain run | awaitable run =>
    rw [ha] at h
    cases hr : run table s with
    | ok u t => exact .inl ⟨t, bind_of_ok hr⟩
    | error f t => exact .inr ⟨f, t, bind_of_error hr, (h table s).2 f t hr⟩
  | suspending start =>
    rw [ha] at h
    exact h.elim

theorem invoke_of_obliging (h : ∀ b ∈ tree, HandlerObliging (b.handler (.alarm x)))
    (table : List Setting) (s : Scene World) : (∃ t, invoke (.alarm x) tree table s = .ok () t) ∨
      ∃ f t, invoke (.alarm x) tree table s = .error f t ∧ f.isRefusal = false := by
  induction tree generalizing s with
  | nil => exact .inl ⟨s, rfl⟩
  | cons a rest ih =>
    rw [invoke]
    rcases start_of_obliging (h a (by simp)) table s with ⟨t, hs⟩ | ⟨f, t, hs, hf⟩
    · rw [bind_of_ok hs]
      exact ih (fun b hb => h b (by simp [hb])) t
    · exact .inr ⟨f, t, bind_of_error hs, hf⟩

theorem guarded_of_obliging {part : Handling World Unit} (h : (∃ t, part table s = .ok () t) ∨
    ∃ f t, part table s = .error f t ∧ f.isRefusal = false) :
    ∃ o t, guarded part table s = .ok o t := by
  unfold guarded
  rcases h with ⟨t, hs⟩ | ⟨f, t, hs, hf⟩
  · exact ⟨.goesOn, t, by rw [hs]⟩
  · rw [hs]
    cases f with
    | setting f => cases hf
    | _ => exact ⟨_, _, rfl⟩

theorem triggerEvent_of_obliging (h : Obliging chain) (x : Alarm) (table : List Setting)
    (s : Scene World) : ∃ t, triggerEvent (.alarm x) chain table s = .ok () t ∧ Still s t := by
  have hok : ∃ t, triggerEvent (.alarm x) chain table s = .ok () t := by
    induction chain generalizing s with
    | nil => exact ⟨s, rfl⟩
    | cons a rest ih =>
      obtain ⟨o, t, hg⟩ := guarded_of_obliging
        (invoke_of_obliging (fun b hb => h a (by simp) b hb x) table s)
      rw [triggerEvent, bind_of_ok hg]
      cases o with
      | goesOn => exact ih (fun b hb => h b (by simp [hb])) t
      | halted => exact ⟨t, rfl⟩
  obtain ⟨t, ht⟩ := hok
  have hwithin := within_triggerEvent still_note (fun a ha b hb => (h a ha b hb x).within) table s
  rw [after_of_ok ht] at hwithin
  exact ⟨t, ht, hwithin⟩

end Dispatch

/-- The agenda with a task that is due a period after some time, which may be over by now. -/
def Agenda.again (g : Agenda Task) (t : AlarmTask) (time now : Rat) : Agenda Task :=
  match t.dueAfter? time with
  | none => g
  | some due =>
    let t : Task := .alarm { t with due := some due }
    if due ≤ now then g.spawn t else g.sleepUntil due t

def Scene.withNext (s : Scene World) (t : AlarmTask) (time : Rat) : Scene World :=
  { s with world := { s.world with agenda := s.world.agenda.again t time s.clock } }

theorem Agenda.again_of_later {g : Agenda Task} {t : AlarmTask} {now : Rat}
    (h : ∀ due, t.dueAfter? now = some due → now < due) :
    g.again t now now = g.afterRun t now g.ready := by
  unfold again afterRun
  cases hdue : t.dueAfter? now with
  | none => rfl
  | some due => simp [not_le.mpr (h due hdue)]

namespace Engine

variable {active : String → Period → Rat → Prop} {was : Alarm → Prop} {g : Settings × Stage World}
  {t : AlarmTask} {rest : List Task}

def withScene (g : Settings × Stage World) (s : Scene World) : Settings × Stage World :=
  (g.1, { g.2 with scene := s })

theorem change_eq (f : World → World) (g : Settings × Stage World) :
    change f g = .ok () (withScene g { g.2.scene with world := f g.2.scene.world }) := rfl

/-- An alarm that goes off is noted and leaves the alarms alone. -/
theorem fire_spec (h : Dispatch.Obliging g.2.addons.chain) (t : AlarmTask) (due : Rat) :
    ∃ s, fire t due g = .ok () (withScene g s) ∧ s.clock = g.2.scene.clock ∧
      s.world.alarms = g.2.scene.world.alarms ∧ s.world.agenda = g.2.scene.world.agenda ∧
      s.world.fired = t.firing due :: g.2.scene.world.fired ∧ g.2.scene.log <:+ s.log ∧
      (g.2.scene.clock, firedNotice t.name) ∈ s.log := by
  let noted : Scene World := g.2.scene.note (firedNotice t.name)
  let fired : Scene World :=
    { noted with world := { noted.world with fired := t.firing due :: noted.world.fired } }
  obtain ⟨s, htrigger, hstill⟩ :=
    Dispatch.triggerEvent_of_obliging h (t.firing due) g.1.table fired
  have hlog : log (firedNotice t.name) g = .ok () (withScene g noted) := rfl
  have hfired : change (fun w => { w with fired := t.firing due :: w.fired }) (withScene g noted) =
      .ok () (withScene g fired) := rfl
  have hsend : Action.triggerEvent (.alarm (t.firing due)) (withScene g fired) =
      .ok () (withScene g s) := Action.triggerEvent_of_ok htrigger
  refine ⟨s, ?_, hstill.clock, hstill.alarms, hstill.agenda, hstill.fired,
    (List.suffix_cons _ _).trans hstill.log, hstill.log.subset (List.mem_cons_self ..)⟩
  exact (bind_of_ok hlog).trans ((bind_of_ok hfired).trans hsend)

theorem scheduleAfter_eq (t : AlarmTask) (time : Rat) (g : Settings × Stage World) :
    scheduleAfter t time g = .ok () (withScene g (g.2.scene.withNext t time)) := by
  unfold scheduleAfter Scene.withNext Agenda.again
  cases hdue : t.dueAfter? time with
  | none => rfl
  | some due =>
    have hclock : clock g = .ok g.2.scene.clock g := rfl
    change sleepUntil due (.alarm { t with due := some due }) g = _
    rw [sleepUntil, bind_of_ok hclock, change_eq]

theorem scheduleAfter_spec (h : ∀ due, t.dueAfter? g.2.scene.clock = some due →
      g.2.scene.clock < due) :
    scheduleAfter t g.2.scene.clock g = .ok () (withScene g { g.2.scene with
      world := { g.2.scene.world with
        agenda := g.2.scene.world.agenda.afterRun t g.2.scene.clock
          g.2.scene.world.agenda.ready } }) := by
  rw [scheduleAfter_eq, Scene.withNext, Agenda.again_of_later h]

/-- The task of an alarm runs on time: it sets the alarm off if it is due, and goes to sleep. -/
theorem runAlarm_spec (hchain : Dispatch.Obliging g.2.addons.chain) (hd : Definite active)
    (h : g.2.scene.OnTime active was) (hready : g.2.scene.world.agenda.ready = .alarm t :: rest) :
    ∃ s, runAlarm t (withReady g rest) = .ok () (withScene g s) ∧
      s.clock = g.2.scene.clock ∧ s.world.alarms = g.2.scene.world.alarms ∧
      s.world.agenda = g.2.scene.world.agenda.afterRun t g.2.scene.clock rest ∧
      s.OnTime active was := by
  have hpunctual := h.punctual.afterRun hd hready
  have htally := h.tally
  rw [hready] at htally
  have hlater : ∀ due, t.dueAfter? g.2.scene.clock = some due → g.2.scene.clock < due :=
    fun due => h.punctual.lt_dueAfter hd (by simp [Agenda.tasks, hready])
  obtain ⟨u, hu, hcurrent, hdue⟩ := h.punctual.ready (.alarm t) (by simp [hready])
  obtain rfl := Task.alarm.inj hu
  unfold runAlarm
  rcases hdue with ⟨hnone, -⟩ | ⟨hsome, hnext⟩
  · have hclock : clock (withReady g rest) = .ok g.2.scene.clock (withReady g rest) := rfl
    have hsleep := scheduleAfter_spec (g := withReady g rest) hlater
    rw [hnone]
    refine ⟨_, (bind_of_ok hclock).trans hsleep, rfl, rfl, rfl, hpunctual, ?_⟩
    have hstart := htally.start hnone
    rwa [← Agenda.ready_afterRun g.2.scene.world.agenda t g.2.scene.clock rest] at hstart
  · obtain ⟨s, hfire, hclock, halarms, hagenda, hfired, hlog, hnotice⟩ :=
      fire_spec (g := withReady g rest) hchain t g.2.scene.clock
    change s.clock = g.2.scene.clock at hclock
    have hworld : world (withScene g s) = .ok s.world (withScene g s) := rfl
    have hstill : s.world.alarms.isCurrent t = true := by rw [halarms]; exact hcurrent
    rw [← hclock] at hlater
    have hsleep := scheduleAfter_spec (g := withScene g s) hlater
    rw [hsome]
    have hafter : s.world.agenda.afterRun t s.clock s.world.agenda.ready =
        g.2.scene.world.agenda.afterRun t g.2.scene.clock rest := by
      rw [hagenda, hclock]
      rfl
    refine ⟨{ s with world := { s.world with
      agenda := s.world.agenda.afterRun t s.clock s.world.agenda.ready } }, ?_, hclock, halarms, hafter,
      ?_, ?_⟩
    · refine (bind_of_ok hfire).trans ((bind_of_ok hworld).trans ?_)
      rw [if_pos hstill, ← hclock]
      exact hsleep
    · rw [hafter, hclock, halarms]
      exact hpunctual
    · have hset := htally.fire hd hsome hnext (fun u => h.punctual.alone hready) hlog hnotice
      rw [hafter, hclock, hfired, Agenda.ready_afterRun]
      exact hset

end Engine
end Detour
