import Detour.Proofs.Alarm.Timetable
import Mathlib.Data.List.Nodup

/-!
# The table of alarms follows the operations

`Alarms.Follows` says that the table of alarms is what the operations make of it: it has the alarms
that there are, each one once, and while alarms run each of them has one task; otherwise none has.
-/
namespace Detour

open Timetable

namespace Alarms

structure Follows (a : Alarms) (ops : List AlarmOp) : Prop where
  running : a.running = isRunning ops
  periods : ∀ name period, (name, period) ∈ a.periods ↔ held name ops = some period
  distinct : (a.periods.map (·.1)).Nodup
  tasks : ∀ name, (∃ serial, (name, serial) ∈ a.tasks) ↔
    a.running = true ∧ ∃ period, (name, period) ∈ a.periods
  single : (a.tasks.map (·.1)).Nodup
  serials : ∀ e ∈ a.tasks, e.2 < a.nextSerial

variable {a : Alarms} {ops : List AlarmOp} {name : String} {period : Period}

theorem follows_fresh : Alarms.fresh.Follows [] where
  running := rfl
  periods _ _ := by simp [fresh, held]
  distinct := .nil
  tasks _ := by simp [fresh]
  single := .nil
  serials := List.forall_mem_nil _

theorem hasTask_iff : a.hasTask name = true ↔ ∃ serial, (name, serial) ∈ a.tasks := by
  simp [hasTask]

theorem isCurrent_iff {t : AlarmTask} : a.isCurrent t = true ↔ (t.name, t.serial) ∈ a.tasks := by
  simp [isCurrent]

theorem create_of_not_positive (h : period.isPositive = false) (a : Alarms) (name : String) :
    a.create name period = none := by
  simp [create, h]

def withAlarm (a : Alarms) (name : String) (period : Period) : Alarms where
  periods := a.periods.filter (·.1 != name) ++ [(name, period)]
  tasks := a.tasks.filter (·.1 != name) ++ if a.running then [(name, a.nextSerial)] else []
  running := a.running
  nextSerial := if a.running then a.nextSerial + 1 else a.nextSerial

def newTask? (a : Alarms) (name : String) (period : Period) : Option AlarmTask :=
  if a.running then some ⟨a.nextSerial, name, period, none⟩ else none

theorem create_of_positive (h : period.isPositive = true) (a : Alarms) (name : String) :
    a.create name period = some (a.withAlarm name period, a.newTask? name period) := by
  cases hr : a.running <;> simp [create, clear, begin, withAlarm, newTask?, h, hr]

theorem mem_newTask? {t : AlarmTask} : t ∈ (a.newTask? name period).toList ↔
    a.running = true ∧ t = ⟨a.nextSerial, name, period, none⟩ := by
  cases hr : a.running <;> simp [newTask?, hr]

theorem follows_create (h : a.Follows ops) (hp : period.isPositive = true) (name : String) :
    (a.withAlarm name period).Follows (ops ++ [.create name period]) where
  running := by
    rw [isRunning_concat]
    exact h.running
  periods other p := by
    rw [held_concat]
    have := h.periods other p
    simp only [withAlarm, List.mem_append, List.mem_filter, List.mem_singleton, hp]
    grind
  distinct := by
    simp only [withAlarm, List.map_append, List.map_cons, List.map_nil]
    refine List.Nodup.append (h.distinct.sublist (List.filter_sublist.map _))
      (List.nodup_singleton name) ?_
    simp
  tasks other := by
    have hother := h.tasks other
    by_cases hname : other = name
    · subst hname
      cases hr : a.running <;> simp [withAlarm, hr]
    · cases hr : a.running <;> simpa [withAlarm, hr, hname] using hother
  single := by
    cases hr : a.running with
    | true =>
      simp only [withAlarm, hr, if_true, List.map_append, List.map_cons, List.map_nil]
      refine List.Nodup.append (h.single.sublist (List.filter_sublist.map _))
        (List.nodup_singleton name) ?_
      simp
    | false =>
      simp only [withAlarm, hr, Bool.false_eq_true, if_false, List.append_nil]
      exact h.single.sublist (List.filter_sublist.map _)
  serials e he := by
    have := h.serials
    simp only [withAlarm, List.mem_append, List.mem_filter] at he ⊢
    grind

theorem follows_clear (h : a.Follows ops) (name : String) :
    (a.clear name).2.Follows (ops ++ [.clear name]) where
  running := by
    rw [isRunning_concat]
    exact h.running
  periods other p := by
    rw [held_concat]
    have := h.periods other p
    simp only [clear, List.mem_filter]
    grind
  distinct := h.distinct.sublist (List.filter_sublist.map _)
  tasks other := by
    have := h.tasks other
    simp only [clear, List.mem_filter]
    grind
  single := h.single.sublist (List.filter_sublist.map _)
  serials e he := h.serials e (List.mem_of_mem_filter he)

theorem follows_stop (h : a.Follows ops) : a.stop.Follows (ops ++ [.done]) where
  running := by
    rw [isRunning_concat]
    rfl
  periods other p := by
    rw [held_concat]
    exact h.periods other p
  distinct := h.distinct
  tasks other := by simp [stop]
  single := .nil
  serials := List.forall_mem_nil _

theorem follows_advance (h : a.Follows ops) (seconds : Rat) :
    a.Follows (ops ++ [.advance seconds]) where
  running := by
    rw [isRunning_concat]
    exact h.running
  periods other p := by
    rw [held_concat]
    exact h.periods other p
  distinct := h.distinct
  tasks := h.tasks
  single := h.single
  serials := h.serials

theorem startAll_of_started {l : List (String × Period)}
    (h : ∀ e ∈ l, a.hasTask e.1 = true) : a.startAll l = (a, []) := by
  induction l with
  | nil => rfl
  | cons e rest ih =>
    rw [startAll, if_pos (h e (by simp))]
    exact ih fun e' he' => h e' (by simp [he'])

/-- A task that is new is one of the alarms that are started, and is to find out when it is due. -/
theorem of_mem_startAll {l : List (String × Period)} {t : AlarmTask} (h : t ∈ (a.startAll l).2) :
    t.due = none ∧ (t.name, t.period) ∈ l := by
  induction l generalizing a with
  | nil => cases h
  | cons e rest ih =>
    obtain ⟨name, period⟩ := e
    unfold startAll at h
    split at h
    · obtain ⟨hdue, hmem⟩ := ih h
      exact ⟨hdue, List.mem_cons_of_mem _ hmem⟩
    · rcases List.mem_cons.mp h with rfl | h
      · exact ⟨rfl, List.mem_cons_self⟩
      · obtain ⟨hdue, hmem⟩ := ih h
        exact ⟨hdue, List.mem_cons_of_mem _ hmem⟩

theorem startAll_of_new {l : List (String × Period)} (hd : (l.map (·.1)).Nodup) :
    ∀ a : Alarms, (∀ e ∈ l, a.hasTask e.1 = false) → ∃ ts : List AlarmTask,
      a.startAll l = ({ a with
        tasks := a.tasks ++ ts.map fun t => (t.name, t.serial)
        nextSerial := a.nextSerial + l.length }, ts) ∧
      ts.map (fun t => (t.name, t.period)) = l ∧
      ∀ t ∈ ts, t.due = none ∧ t.serial < a.nextSerial + l.length := by
  induction l with
  | nil => exact fun a _ => ⟨[], by simp [startAll], rfl, List.forall_mem_nil _⟩
  | cons e rest ih =>
    intro a h
    obtain ⟨name, period⟩ := e
    obtain ⟨hname, hrest⟩ := List.nodup_cons.mp hd
    have hbegun : ∀ e ∈ rest, (a.begin name period).1.hasTask e.1 = false := by
      intro e he
      have hne : name ≠ e.1 := by
        rintro rfl
        exact hname (List.mem_map.mpr ⟨e, he, rfl⟩)
      have hold := h e (by simp [he])
      simp only [hasTask, begin, List.any_append, List.any_cons, List.any_nil] at hold ⊢
      simp [hold, hne]
    obtain ⟨ts, hstart, hnames, hts⟩ := ih hrest (a.begin name period).1 hbegun
    refine ⟨(a.begin name period).2 :: ts, ?_, ?_, ?_⟩
    · rw [startAll, if_neg (by simp [h (name, period) (by simp)])]
      dsimp only
      rw [hstart]
      simp [begin, Nat.add_assoc, Nat.add_comm 1]
    · rw [List.map_cons, hnames]
      rfl
    · intro t ht
      rcases List.mem_cons.mp ht with rfl | ht
      · exact ⟨rfl, by simp [begin]⟩
      · obtain ⟨hdue, hserial⟩ := hts t ht
        refine ⟨hdue, ?_⟩
        simp only [begin, List.length_cons] at hserial ⊢
        omega

/-- When alarms start to run, each of them gets a task. -/
theorem follows_run (h : a.Follows ops) :
    a.run.1.Follows (ops ++ [.running]) ∧ (∀ t ∈ a.run.2, t.due = none) ∧
      a.run.1.tasks = a.tasks ++ a.run.2.map (fun t => (t.name, t.serial)) ∧
      a.run.2.map (fun t => (t.name, t.period)) = if isRunning ops then [] else a.periods := by
  have hperiods : ∀ other p, (other, p) ∈ a.periods ↔ held other (ops ++ [.running]) = some p := by
    intro other p
    rw [held_concat]
    exact h.periods other p
  cases hr : isRunning ops with
  | true =>
    have hrun : a.run = ({ a with running := true }, []) := by
      refine startAll_of_started fun e he => hasTask_iff.mpr ?_
      exact (h.tasks e.1).mpr ⟨h.running.trans hr, e.2, he⟩
    have ha : ({ a with running := true } : Alarms) = a := by rw [← hr, ← h.running]
    rw [hrun, ha]
    refine ⟨⟨?_, hperiods, h.distinct, h.tasks, h.single, h.serials⟩, List.forall_mem_nil _, by simp,
      rfl⟩
    rw [isRunning_concat]
    exact h.running.trans hr
  | false =>
    have hnone : a.tasks = [] := by
      rw [List.eq_nil_iff_forall_not_mem]
      intro e he
      have := ((h.tasks e.1).mp ⟨e.2, he⟩).1
      rw [h.running, hr] at this
      cases this
    obtain ⟨ts, hstart, hnames, hts⟩ :=
      startAll_of_new h.distinct { a with running := true } (by simp [hasTask, hnone])
    have hrun : a.run = _ := hstart
    have hsame : (ts.map fun t => (t.name, t.serial)).map (·.1) = a.periods.map (·.1) := by
      rw [← hnames, List.map_map, List.map_map]
      rfl
    rw [hrun, hnone]
    refine ⟨⟨?_, hperiods, h.distinct, fun other => ?_, ?_, fun e he => ?_⟩,
      fun t ht => (hts t ht).1, rfl, by simpa using hnames⟩
    · rw [isRunning_concat]
    · have hmem : other ∈ (ts.map fun t => (t.name, t.serial)).map (·.1) ↔
          other ∈ a.periods.map (·.1) := by rw [hsame]
      simpa using hmem
    · rw [List.nil_append, hsame]
      exact h.distinct
    · obtain ⟨t, ht, rfl⟩ := List.mem_map.mp he
      exact (hts t ht).2

end Alarms
end Detour
