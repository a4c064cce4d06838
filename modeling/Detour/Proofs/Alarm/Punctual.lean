import Detour.Proofs.Alarm.Timetable
import Detour.Proofs.Engine.Ledger
import Mathlib.Data.List.Nodup

/-!
# Tasks that are on time

Each alarm that is active has one task (`Punctual`). A task that sleeps is due at the first time
after now at which its alarm ought to go off, and one that is ready either has just been started or
is due now. What has gone off is all that ought to have, but for the tasks that are ready (`Tally`).
Both are kept when a task runs and when time goes on to the next sleeper.
-/
namespace Detour

open Timetable

def Task.alarmName? : Task → Option String
  | .alarm t => some t.name
  | _ => none

/-- The agenda when the first task that is ready has run: it sleeps for a period from now. -/
def Agenda.afterRun (g : Agenda Task) (t : AlarmTask) (now : Rat) (rest : List Task) : Agenda Task :=
  match t.dueAfter? now with
  | none => { g with ready := rest }
  | some due =>
    ({ g with ready := rest } : Agenda Task).sleepUntil due (.alarm { t with due := some due })

theorem Agenda.ready_afterRun (g : Agenda Task) (t : AlarmTask) (now : Rat) (rest : List Task) :
    (g.afterRun t now rest).ready = rest := by
  unfold afterRun
  split <;> rfl

section Times

variable (active : String → Period → Rat → Prop)

/-- The first time after now at which the alarm of a task ought to go off. -/
def NextAt (now : Rat) (t : AlarmTask) (due : Rat) : Prop :=
  ∃ since p, ∃ k : Nat, active t.name t.period since ∧ t.period.seconds? = some p ∧
    due = since + (k + 1) * p ∧ since + k * p ≤ now

/-- Every alarm has a positive period, and has been active since one time. -/
structure Definite : Prop where
  positive : ∀ {name period since}, active name period since → period.isPositive = true
  unique : ∀ {name period period' since since'}, active name period since →
    active name period' since' → period = period' ∧ since = since'

structure Punctual (now : Rat) (a : Alarms) (g : Agenda Task) : Prop where
  ready : ∀ u ∈ g.ready, ∃ t, u = .alarm t ∧ a.isCurrent t = true ∧
    (t.due = none ∧ active t.name t.period now ∨ t.due = some now ∧ NextAt active now t now)
  sleeping : ∀ e ∈ g.sleeping, ∃ t, e.2 = .alarm t ∧ a.isCurrent t = true ∧ t.due = some e.1 ∧
    now < e.1 ∧ NextAt active now t e.1
  sorted : g.sleeping.Pairwise fun e f => e.1 ≤ f.1
  single : (g.tasks.filterMap Task.alarmName?).Nodup
  served : ∀ {name period since p}, active name period since → period.seconds? = some p →
    ∃ t, .alarm t ∈ g.tasks ∧ t.name = name ∧ t.period = period

/-- The alarm ought to have gone off by now in the time that it is active. -/
def Reached (now : Rat) (x : Alarm) : Prop :=
  ∃ since, active x.name x.period since ∧ Marks x.period since x.scheduled ∧ x.scheduled ≤ now

def firedNotice (name : String) : LogRecord := .plain Level.debug s!"Alarm {name} fired."

/-- What has gone off, the latest first, where `was` tells what ought to have before. -/
structure Tally (was : Alarm → Prop) (now : Rat) (ready : List Task) (fired : List Alarm)
    (log : List (Rat × LogRecord)) : Prop where
  past : ∀ x ∈ fired, x.scheduled ≤ now
  order : fired.Pairwise fun x y => y.scheduled ≤ x.scheduled
  once : fired.Nodup
  logged : ∀ x ∈ fired, (x.scheduled, firedNotice x.name) ∈ log
  sound : ∀ x ∈ fired, was x ∨ Reached active now x
  kept : ∀ {x}, was x → x ∈ fired
  complete : ∀ {x}, Reached active now x →
    x ∈ fired ∨ ∃ t, .alarm t ∈ ready ∧ t.name = x.name ∧ t.due = some x.scheduled
  fresh : ∀ {t due}, .alarm t ∈ ready → t.due = some due →
    ∀ x ∈ fired, x.name = t.name → x.scheduled < due

/-- The tasks are on time, and what ought to have gone off has. -/
structure Scene.OnTime (was : Alarm → Prop) (s : Scene World) : Prop where
  punctual : Punctual active s.clock s.world.alarms s.world.agenda
  tally : Tally active was s.clock s.world.agenda.ready s.world.fired s.log

end Times

variable {active : String → Period → Rat → Prop} {now time due : Rat} {a : Alarms}
  {g : Agenda Task} {t : AlarmTask} {rest : List Task}

theorem NextAt.mono (h : NextAt active now t due) (hle : now ≤ time) : NextAt active time t due := by
  obtain ⟨since, p, k, hactive, hp, hdue, hnow⟩ := h
  exact ⟨since, p, k, hactive, hp, hdue, hnow.trans hle⟩

theorem NextAt.marks (h : NextAt active now t due) :
    ∃ since, active t.name t.period since ∧ Marks t.period since due := by
  obtain ⟨since, p, k, hactive, hp, rfl, -⟩ := h
  exact ⟨since, hactive, p, hp, k + 1, by omega, by push_cast; rfl⟩

/-- No time at which the alarm ought to go off lies between. -/
theorem NextAt.le_of_marks (hd : Definite active) (h : NextAt active now t due) {since at' : Rat}
    (hactive : active t.name t.period since) (hmarks : Marks t.period since at') (hlt : now < at') :
    due ≤ at' := by
  obtain ⟨since', p, k, hactive', hp, rfl, hnow⟩ := h
  obtain ⟨q, hq, l, hl, rfl⟩ := hmarks
  obtain rfl := (hd.unique hactive hactive').2
  obtain rfl := Option.some.inj (hp.symm.trans hq)
  have hpos := Period.seconds_pos (hd.positive hactive) hp
  have hkl : (k : Rat) < l := by
    by_contra hle
    have := mul_le_mul_of_nonneg_right (not_lt.mp hle) hpos.le
    linarith
  have hkl' : (k : Rat) + 1 ≤ l := by exact_mod_cast hkl
  have := mul_le_mul_of_nonneg_right hkl' hpos.le
  linarith

theorem NextAt.next (hd : Definite active) (h : NextAt active now t now) :
    ∃ p, t.period.seconds? = some p ∧ now < now + p ∧ NextAt active now t (now + p) := by
  obtain ⟨since, p, k, hactive, hp, hnow, -⟩ := h
  have hpos := Period.seconds_pos (hd.positive hactive) hp
  refine ⟨p, hp, by linarith, since, p, k + 1, hactive, hp, ?_, ?_⟩
  · push_cast
    linarith
  · push_cast
    linarith

namespace Punctual

theorem active_of_mem (h : Punctual active now a g) {u : Task} (hu : u ∈ g.tasks) :
    ∃ t, u = .alarm t ∧ a.isCurrent t = true ∧ ∃ since, active t.name t.period since := by
  rcases List.mem_append.mp hu with hu | hu
  · obtain ⟨t, rfl, hcurrent, ⟨-, hactive⟩ | ⟨-, hnext⟩⟩ := h.ready u hu
    · exact ⟨t, rfl, hcurrent, now, hactive⟩
    · obtain ⟨since, hactive, -⟩ := hnext.marks
      exact ⟨t, rfl, hcurrent, since, hactive⟩
  · obtain ⟨e, he, rfl⟩ := List.mem_map.mp hu
    obtain ⟨t, ht, hcurrent, -, -, hnext⟩ := h.sleeping e he
    obtain ⟨since, hactive, -⟩ := hnext.marks
    exact ⟨t, ht, hcurrent, since, hactive⟩

theorem lt_dueAfter (h : Punctual active now a g) (hd : Definite active)
    (ht : .alarm t ∈ g.tasks) (hdue : t.dueAfter? time = some due) : time < due := by
  obtain ⟨u, hu, -, since, hactive⟩ := h.active_of_mem ht
  obtain rfl := Task.alarm.inj hu
  obtain ⟨p, hp, rfl⟩ := Option.map_eq_some_iff.mp hdue
  have hpos := Period.seconds_pos (hd.positive hactive) hp
  linarith

theorem alone (h : Punctual active now a g) (hg : g.ready = .alarm t :: rest) {u : AlarmTask}
    (hu : .alarm u ∈ rest) : u.name ≠ t.name := by
  have hsingle := h.single
  rw [Agenda.tasks, hg] at hsingle
  have hnot := (List.nodup_cons.mp hsingle).1
  rintro hname
  exact hnot (List.mem_filterMap.mpr
    ⟨.alarm u, List.mem_append_left _ hu, congrArg some hname⟩)

theorem sleep (h : Punctual active now a g) (hg : g.ready = .alarm t :: rest) (hlt : now < due)
    (hnext : NextAt active now t due) :
    Punctual active now a
      (({ g with ready := rest } : Agenda Task).sleepUntil due (.alarm { t with due := some due })) := by
  have hcurrent : a.isCurrent t = true := by
    obtain ⟨u, hu, hcurrent, -⟩ := h.ready (.alarm t) (by simp [hg])
    cases hu
    exact hcurrent
  have htasks : g.tasks = .alarm t :: (rest ++ g.sleeping.map (·.2)) := by simp [Agenda.tasks, hg]
  have hperm : (({ g with ready := rest } : Agenda Task).sleepUntil due
      (.alarm { t with due := some due })).tasks.Perm
      (.alarm { t with due := some due } :: (rest ++ g.sleeping.map (·.2))) := by
    have hsleep := (Agenda.perm_insertSleeper due (Task.alarm { t with due := some due })
      g.sleeping).map (·.2)
    exact (hsleep.append_left rest).trans List.perm_middle
  refine ⟨fun u hu => ?_, fun e he => ?_, Agenda.sorted_insertSleeper h.sorted, ?_, ?_⟩
  · exact h.ready u (by rw [hg]; exact List.mem_cons_of_mem _ hu)
  · rcases Agenda.mem_insertSleeper.mp he with rfl | he
    · exact ⟨_, rfl, hcurrent, rfl, hlt, hnext⟩
    · exact h.sleeping e he
  · have hsingle := h.single
    rw [htasks] at hsingle
    exact (hperm.filterMap Task.alarmName?).nodup_iff.mpr hsingle
  · intro name period since p hactive hp
    obtain ⟨u, hu, hname, hperiod⟩ := h.served hactive hp
    rw [htasks] at hu
    rcases List.mem_cons.mp hu with hu | hu
    · cases hu
      exact ⟨_, hperm.mem_iff.mpr (List.mem_cons_self ..), hname, hperiod⟩
    · exact ⟨u, hperm.mem_iff.mpr (List.mem_cons_of_mem _ hu), hname, hperiod⟩

theorem drop (h : Punctual active now a g) (hg : g.ready = .alarm t :: rest)
    (hp : t.period.seconds? = none) : Punctual active now a { g with ready := rest } := by
  have htasks : g.tasks = .alarm t :: (rest ++ g.sleeping.map (·.2)) := by simp [Agenda.tasks, hg]
  refine ⟨fun u hu => ?_, h.sleeping, h.sorted, ?_, ?_⟩
  · exact h.ready u (by rw [hg]; exact List.mem_cons_of_mem _ hu)
  · have hsingle := h.single
    rw [htasks] at hsingle
    exact (List.nodup_cons.mp hsingle).2
  · intro name period since p hactive' hp'
    obtain ⟨u, hu, hname, hperiod⟩ := h.served hactive' hp'
    rw [htasks] at hu
    rcases List.mem_cons.mp hu with hu | hu
    · cases hu
      rw [hperiod, hp'] at hp
      cases hp
    · exact ⟨u, hu, hname, hperiod⟩

/-- When the first task that is ready has run, its alarm is due again a period from now. -/
theorem afterRun (h : Punctual active now a g) (hd : Definite active)
    (hg : g.ready = .alarm t :: rest) : Punctual active now a (g.afterRun t now rest) := by
  obtain ⟨u, hu, -, hready⟩ := h.ready (.alarm t) (by simp [hg])
  obtain rfl := Task.alarm.inj hu
  unfold Agenda.afterRun AlarmTask.dueAfter?
  rcases hready with ⟨-, hactive⟩ | ⟨-, hnext⟩
  · cases hp : t.period.seconds? with
    | none => exact h.drop hg hp
    | some p =>
      have hpos := Period.seconds_pos (hd.positive hactive) hp
      exact h.sleep hg (by linarith) ⟨now, p, 0, hactive, hp, by simp, by simp⟩
  · obtain ⟨p, hp, hlt, hnext⟩ := hnext.next hd
    rw [hp]
    exact h.sleep hg hlt hnext

/-- Time may go on to the next sleeper, which then is ready. -/
theorem forward (h : Punctual active now a g) (hg : g.ready = []) (hle : now ≤ time)
    (hfirst : ∀ e ∈ g.sleeping, time ≤ e.1) : Punctual active time a (g.wakeAt time) := by
  refine ⟨fun u hu => ?_, fun e he => ?_, ?_, ?_, ?_⟩
  · rcases (Agenda.mem_ready_wakeAt h.sorted).mp hu with hu | ⟨due, hdue, hmem⟩
    · rw [hg] at hu
      cases hu
    · obtain ⟨t, ht, hcurrent, hsome, -, hnext⟩ := h.sleeping _ hmem
      obtain rfl : due = time := le_antisymm hdue (hfirst _ hmem)
      exact ⟨t, ht, hcurrent, .inr ⟨hsome, hnext.mono hle⟩⟩
  · obtain ⟨t, ht, hcurrent, hsome, -, hnext⟩ :=
      h.sleeping e ((Agenda.sleeping_wakeAt_sublist g time).subset he)
    exact ⟨t, ht, hcurrent, hsome, Agenda.lt_of_mem_sleeping_wakeAt h.sorted he, hnext.mono hle⟩
  · exact h.sorted.sublist (Agenda.sleeping_wakeAt_sublist g time)
  · rw [Agenda.tasks_wakeAt]
    exact h.single
  · intro name period since p hactive hp
    rw [Agenda.tasks_wakeAt]
    exact h.served hactive hp

end Punctual

namespace Tally

variable {was : Alarm → Prop} {fired : List Alarm} {log log' : List (Rat × LogRecord)}

theorem start (h : Tally active was now (.alarm t :: rest) fired log) (hdue : t.due = none) :
    Tally active was now rest fired log where
  past := h.past
  order := h.order
  once := h.once
  logged := h.logged
  sound := h.sound
  kept := h.kept
  complete hx := by
    rcases h.complete hx with hx | ⟨u, hu, hname, hscheduled⟩
    · exact .inl hx
    · rcases List.mem_cons.mp hu with hu | hu
      · cases hu
        rw [hdue] at hscheduled
        cases hscheduled
      · exact .inr ⟨u, hu, hname, hscheduled⟩
  fresh hu := h.fresh (List.mem_cons_of_mem _ hu)

/-- A task that is due sets its alarm off, which has not gone off at this time before. -/
theorem fire (h : Tally active was now (.alarm t :: rest) fired log) (hd : Definite active)
    (hdue : t.due = some now) (hnext : NextAt active now t now)
    (halone : ∀ u, .alarm u ∈ rest → u.name ≠ t.name) (hlog : log <:+ log')
    (hnotice : (now, firedNotice t.name) ∈ log') :
    Tally active was now rest (t.firing now :: fired) log' := by
  obtain ⟨since, hactive, hmarks⟩ := hnext.marks
  have hfresh := h.fresh (List.mem_cons_self ..) hdue
  refine ⟨?_, ?_, ?_, ?_, ?_, fun hx => List.mem_cons_of_mem _ (h.kept hx), ?_, ?_⟩
  · exact List.forall_mem_cons.mpr ⟨le_refl now, h.past⟩
  · exact List.pairwise_cons.mpr ⟨h.past, h.order⟩
  · exact List.nodup_cons.mpr ⟨fun hmem => lt_irrefl now (hfresh _ hmem rfl), h.once⟩
  · exact List.forall_mem_cons.mpr ⟨hnotice, fun x hx => hlog.subset (h.logged x hx)⟩
  · exact List.forall_mem_cons.mpr ⟨.inr ⟨since, hactive, hmarks, le_refl now⟩, h.sound⟩
  · intro x hx
    rcases h.complete hx with hmem | ⟨u, hu, hname, hscheduled⟩
    · exact .inl (List.mem_cons_of_mem _ hmem)
    · rcases List.mem_cons.mp hu with hu | hu
      · -- What the task has still had to set off is what it sets off now.
        cases hu
        obtain ⟨since', hactive', -⟩ := hx
        obtain ⟨name, period, scheduled⟩ := x
        obtain rfl : t.name = name := hname
        obtain rfl : now = scheduled := Option.some.inj (hdue.symm.trans hscheduled)
        obtain rfl := (hd.unique hactive hactive').1
        exact .inl (List.mem_cons_self ..)
      · exact .inr ⟨u, hu, hname, hscheduled⟩
  · intro u due hu hsome
    refine List.forall_mem_cons.mpr ⟨fun hname => ?_, h.fresh (List.mem_cons_of_mem _ hu) hsome⟩
    exact absurd hname.symm (halone u hu)

/-- When time goes on to the next sleeper, what ought to go off by then is ready. -/
theorem forward (h : Tally active was now [] fired log) (hd : Definite active)
    (hp : Punctual active now a g) (hg : g.ready = []) (hle : now ≤ time)
    (hfirst : ∀ e ∈ g.sleeping, time ≤ e.1) :
    Tally active was time (g.wakeAt time).ready fired log where
  past x hx := (h.past x hx).trans hle
  order := h.order
  once := h.once
  logged := h.logged
  sound x hx := (h.sound x hx).imp_right fun ⟨since, hactive, hmarks, hnow⟩ =>
    ⟨since, hactive, hmarks, hnow.trans hle⟩
  kept := h.kept
  complete {x} hx := by
    obtain ⟨since, hactive, hmarks, htime⟩ := hx
    rcases le_or_gt x.scheduled now with hnow | hnow
    · rcases h.complete ⟨since, hactive, hmarks, hnow⟩ with hx | ⟨u, hu, -⟩
      · exact .inl hx
      · cases hu
    · have ⟨p, hperiod, _⟩ := hmarks
      obtain ⟨t, ht, hname, hsame⟩ := hp.served hactive hperiod
      rw [Agenda.tasks, hg, List.nil_append] at ht
      obtain ⟨e, he, hte⟩ := List.mem_map.mp ht
      obtain ⟨u, hu, -, hsome, -, hnext⟩ := hp.sleeping e he
      obtain rfl : t = u := by
        rw [hte] at hu
        exact Task.alarm.inj hu
      rw [← hname, ← hsame] at hactive
      rw [← hsame] at hmarks
      have hdue : e.1 ≤ x.scheduled := hnext.le_of_marks hd hactive hmarks hnow
      have hscheduled : e.1 = x.scheduled := le_antisymm hdue (htime.trans (hfirst e he))
      refine .inr ⟨t, (Agenda.mem_ready_wakeAt hp.sorted).mpr (.inr ⟨e.1, ?_, ?_⟩), hname, ?_⟩
      · rwa [hscheduled]
      · rw [← hte]
        exact he
      · rw [hsome, hscheduled]
  fresh {t due} ht hdue x hx _ := by
    rcases (Agenda.mem_ready_wakeAt hp.sorted).mp ht with ht | ⟨due', -, hmem⟩
    · rw [hg] at ht
      cases ht
    · obtain ⟨u, hu, -, hsome, hlt, -⟩ := hp.sleeping _ hmem
      cases hu
      obtain rfl : due' = due := Option.some.inj (hsome.symm.trans hdue)
      exact (h.past x hx).trans_lt hlt

end Tally
end Detour
