import Detour.Agenda
import Mathlib.Algebra.Order.Ring.Rat
import Mathlib.Data.List.Basic
import Mathlib.Data.List.TakeDrop
import Mathlib.Data.List.TakeWhile
import Mathlib.Tactic.Tauto

/-!
# Agendas

What becomes of the tasks of an agenda when one is added, some are forgotten and some are woken.
Sleepers are kept in order, so that those that are woken by some time are all that are due by then
(`Agenda.mem_ready_wakeAt`) and those that sleep on are due later
(`Agenda.lt_of_mem_sleeping_wakeAt`).
-/
namespace Detour.Agenda

variable {T : Type} {a : Agenda T} {due time : Rat} {t : T} {l : List (Rat × T)}

theorem mem_insertSleeper {p : Rat × T} : p ∈ insertSleeper due t l ↔ p = (due, t) ∨ p ∈ l := by
  induction l with
  | nil => simp [insertSleeper]
  | cons e rest ih =>
    by_cases h : due < e.1
    · simp [insertSleeper, h]
    · simp only [insertSleeper, h, if_false, List.mem_cons, ih]
      tauto

theorem perm_insertSleeper (due : Rat) (t : T) (l : List (Rat × T)) :
    (insertSleeper due t l).Perm ((due, t) :: l) := by
  induction l with
  | nil => exact .refl _
  | cons e rest ih =>
    rw [insertSleeper]
    split
    · exact .refl _
    · exact (ih.cons e).trans (.swap _ _ _)

theorem filterMap_insertSleeper {β : Type} {f : Rat × T → Option β} (ht : f (due, t) = none)
    (l : List (Rat × T)) : (insertSleeper due t l).filterMap f = l.filterMap f := by
  induction l with
  | nil => simp [insertSleeper, ht]
  | cons e rest ih =>
    by_cases h : due < e.1
    · simp [insertSleeper, h, ht]
    · simp only [insertSleeper, h, if_false, List.filterMap_cons, ih]

theorem filter_insertSleeper {p : Rat × T → Bool} (ht : p (due, t) = false) (l : List (Rat × T)) :
    (insertSleeper due t l).filter p = l.filter p := by
  rw [← List.filterMap_eq_filter]
  exact filterMap_insertSleeper (by simp [Option.guard, ht]) l

/-- A sleeper that is the first of its kind. -/
theorem filter_insertSleeper_of_nil {p : Rat × T → Bool} (ht : p (due, t) = true)
    (hl : l.filter p = []) : (insertSleeper due t l).filter p = [(due, t)] := by
  have hperm := (perm_insertSleeper due t l).filter p
  rw [List.filter_cons_of_pos ht, hl] at hperm
  exact List.perm_singleton.mp hperm

theorem foldl_spawn {α : Type} (f : α → T) (a : Agenda T) (xs : List α) :
    xs.foldl (fun a x => a.spawn (f x)) a = { a with ready := a.ready ++ xs.map f } := by
  induction xs generalizing a with
  | nil => simp
  | cons x xs ih =>
    rw [List.foldl_cons, ih]
    simp [spawn]

theorem tasks_cancel (a : Agenda T) (p : T → Bool) : (a.cancel p).tasks = a.tasks.filter (!p ·) := by
  simp [tasks, cancel, List.filter_map, Function.comp_def]

theorem tasks_wakeAt (a : Agenda T) (time : Rat) : (a.wakeAt time).tasks = a.tasks := by
  simp [tasks, wakeAt, List.span_eq_takeWhile_dropWhile, List.append_assoc, ← List.map_append]

theorem ready_wakeAt (a : Agenda T) (time : Rat) : (a.wakeAt time).ready =
    a.ready ++ (a.sleeping.takeWhile fun e => decide (e.1 ≤ time)).map (·.2) := by
  simp only [wakeAt, List.span_eq_takeWhile_dropWhile]

theorem sleeping_wakeAt (a : Agenda T) (time : Rat) :
    (a.wakeAt time).sleeping = a.sleeping.dropWhile fun e => decide (e.1 ≤ time) := by
  simp only [wakeAt, List.span_eq_takeWhile_dropWhile]

theorem sleeping_wakeAt_sublist (a : Agenda T) (time : Rat) :
    (a.wakeAt time).sleeping.Sublist a.sleeping := by
  rw [sleeping_wakeAt]
  exact List.dropWhile_sublist _

theorem wakeAt_of_later (h : ∀ e ∈ a.sleeping, time < e.1) : a.wakeAt time = a := by
  have htake : a.sleeping.takeWhile (fun e => decide (e.1 ≤ time)) = [] := by
    rw [List.takeWhile_eq_nil_iff]
    intro hlength
    simpa using h _ (List.getElem_mem hlength)
  have hdrop := List.takeWhile_append_dropWhile (p := fun e : Rat × T => decide (e.1 ≤ time))
    (l := a.sleeping)
  rw [htake, List.nil_append] at hdrop
  rw [wakeAt, List.span_eq_takeWhile_dropWhile, htake, hdrop]
  dsimp only
  rw [List.map_nil, List.append_nil]

/-- The first sleeper is woken when it is due. -/
theorem length_sleeping_wakeAt_lt {e : Rat × T} {later : List (Rat × T)}
    (h : a.sleeping = e :: later) : (a.wakeAt e.1).sleeping.length < a.sleeping.length := by
  rw [sleeping_wakeAt, h, List.dropWhile_cons_of_pos (by simp), List.length_cons]
  exact Nat.lt_succ_of_le (List.dropWhile_sublist _).length_le

theorem sorted_insertSleeper (h : l.Pairwise fun e f => e.1 ≤ f.1) :
    (insertSleeper due t l).Pairwise fun e f => e.1 ≤ f.1 := by
  induction l with
  | nil => simp [insertSleeper]
  | cons e rest ih =>
    obtain ⟨he, hrest⟩ := List.pairwise_cons.mp h
    rw [insertSleeper]
    split
    · next hlt =>
      refine List.pairwise_cons.mpr ⟨fun f hf => ?_, h⟩
      rcases List.mem_cons.mp hf with rfl | hf
      · exact hlt.le
      · exact hlt.le.trans (he f hf)
    · next hle =>
      refine List.pairwise_cons.mpr ⟨fun f hf => ?_, ih hrest⟩
      rcases mem_insertSleeper.mp hf with rfl | hf
      · exact not_lt.mp hle
      · exact he f hf

theorem takeWhile_due (h : l.Pairwise fun e f => e.1 ≤ f.1) (time : Rat) :
    l.takeWhile (fun e => decide (e.1 ≤ time)) = l.filter fun e => decide (e.1 ≤ time) := by
  induction l with
  | nil => rfl
  | cons e rest ih =>
    obtain ⟨he, hrest⟩ := List.pairwise_cons.mp h
    by_cases hdue : e.1 ≤ time
    · simp [hdue, ih hrest]
    · have hlater : ∀ f ∈ rest, ¬ f.1 ≤ time := fun f hf hle => hdue ((he f hf).trans hle)
      simpa [hdue] using hlater

theorem dropWhile_due (h : l.Pairwise fun e f => e.1 ≤ f.1) (time : Rat) :
    l.dropWhile (fun e => decide (e.1 ≤ time)) = l.filter fun e => decide (time < e.1) := by
  induction l with
  | nil => rfl
  | cons e rest ih =>
    obtain ⟨he, hrest⟩ := List.pairwise_cons.mp h
    by_cases hdue : e.1 ≤ time
    · simp [hdue, ih hrest]
    · have hlater : ∀ f ∈ rest, time < f.1 := fun f hf => (not_le.mp hdue).trans_le (he f hf)
      have hall : rest.filter (fun f => decide (time < f.1)) = rest := by simpa using hlater
      simp [hdue, not_le.mp hdue, hall]

/-- Those that are not woken sleep longer. -/
theorem lt_of_mem_sleeping_wakeAt (h : a.sleeping.Pairwise fun e f => e.1 ≤ f.1) {e : Rat × T}
    (he : e ∈ (a.wakeAt time).sleeping) : time < e.1 := by
  rw [sleeping_wakeAt, dropWhile_due h] at he
  simpa using List.of_mem_filter he

theorem mem_ready_wakeAt (h : a.sleeping.Pairwise fun e f => e.1 ≤ f.1) :
    t ∈ (a.wakeAt time).ready ↔ t ∈ a.ready ∨ ∃ due ≤ time, (due, t) ∈ a.sleeping := by
  rw [ready_wakeAt, takeWhile_due h]
  simp [and_comm]

end Detour.Agenda
