import Detour.Engine.Chain
import Detour.Proofs.Alarm.Keeping
import Detour.Proofs.Alarm.Punctual

/-!
# Alarms created, cleared, started and stopped

An operation on alarms cancels the tasks of those that it ends and starts tasks for those that it
begins; the tasks of all others stay as they are. So a table that follows the operations, with tasks
that are on time, still does after one more (`Alarms.Kept`).
-/
namespace Detour

open Timetable

variable {active active' : String → Period → Rat → Prop} {now : Rat} {a a' : Alarms}
  {g : Agenda Task}

namespace Punctual

theorem cancel (h : Punctual active now a g) (hg : g.ready = []) (kept : String → Prop)
    (hkept : ∀ t, a.isCurrent t = true → (a'.isCurrent t = true ↔ kept t.name))
    (hactive : ∀ name period since,
      active' name period since ↔ active name period since ∧ kept name) :
    Punctual active' now a' (g.cancel (Chain.isStale a')) where
  ready u hu := by
    rw [Agenda.cancel, hg] at hu
    cases hu
  sleeping e he := by
    obtain ⟨he, hstale⟩ := List.mem_filter.mp he
    obtain ⟨t, ht, hcurrent, hdue, hlt, since, p, k, hold, hnext⟩ := h.sleeping e he
    have hcurrent' : a'.isCurrent t = true := by simpa [ht, Chain.isStale] using hstale
    exact ⟨t, ht, hcurrent', hdue, hlt, since, p, k,
      (hactive _ _ _).mpr ⟨hold, (hkept t hcurrent).mp hcurrent'⟩, hnext⟩
  sorted := h.sorted.sublist List.filter_sublist
  single := by
    rw [Agenda.tasks_cancel]
    exact h.single.sublist (List.filter_sublist.filterMap _)
  served {name period since p} hnew hp := by
    obtain ⟨hold, hname⟩ := (hactive _ _ _).mp hnew
    obtain ⟨t, ht, rfl, rfl⟩ := h.served hold hp
    obtain ⟨u, hu, hcurrent, -⟩ := h.active_of_mem ht
    obtain rfl := Task.alarm.inj hu
    refine ⟨t, ?_, rfl, rfl⟩
    rw [Agenda.tasks_cancel]
    exact List.mem_filter.mpr ⟨ht, by simpa [Chain.isStale] using (hkept t hcurrent).mpr hname⟩

theorem spawn (h : Punctual active now a g) {ts : List AlarmTask}
    (hdue : ∀ t ∈ ts, t.due = none) (hnew : ∀ t ∈ ts, ∀ period since, ¬ active t.name period since)
    (hnames : (ts.map (·.name)).Nodup)
    (hold : ∀ t, a.isCurrent t = true → a'.isCurrent t = true)
    (hcurrent : ∀ t ∈ ts, a'.isCurrent t = true)
    (hactive : ∀ name period since, active' name period since ↔
      active name period since ∨ since = now ∧ (name, period) ∈ ts.map fun t => (t.name, t.period)) :
    Punctual active' now a' (ts.foldl (fun g t => g.spawn (.alarm t)) g) := by
  have hweaker : ∀ {name period since}, active name period since → active' name period since :=
    fun hold => (hactive _ _ _).mpr (.inl hold)
  have hperm : (ts.foldl (fun g t => g.spawn (.alarm t)) g).tasks.Perm
      (g.tasks ++ ts.map Task.alarm) := by
    rw [Agenda.foldl_spawn, Agenda.tasks, Agenda.tasks, List.append_assoc, List.append_assoc]
    exact List.perm_append_comm.append_left g.ready
  refine ⟨fun u hu => ?_, fun e he => ?_, ?_, ?_, ?_⟩
  · rw [Agenda.foldl_spawn] at hu
    rcases List.mem_append.mp hu with hu | hu
    · obtain ⟨t, rfl, ht, ⟨hnone, hbegun⟩ | ⟨hsome, since, p, k, hbegun, hnext⟩⟩ := h.ready u hu
      · exact ⟨t, rfl, hold t ht, .inl ⟨hnone, hweaker hbegun⟩⟩
      · exact ⟨t, rfl, hold t ht, .inr ⟨hsome, since, p, k, hweaker hbegun, hnext⟩⟩
    · obtain ⟨t, ht, rfl⟩ := List.mem_map.mp hu
      exact ⟨t, rfl, hcurrent t ht,
        .inl ⟨hdue t ht, (hactive _ _ _).mpr (.inr ⟨rfl, List.mem_map.mpr ⟨t, ht, rfl⟩⟩)⟩⟩
  · rw [Agenda.foldl_spawn] at he
    obtain ⟨t, ht, hcur, hsome, hlt, since, p, k, hbegun, hnext⟩ := h.sleeping e he
    exact ⟨t, ht, hold t hcur, hsome, hlt, since, p, k, hweaker hbegun, hnext⟩
  · rw [Agenda.foldl_spawn]
    exact h.sorted
  · refine (hperm.filterMap _).nodup_iff.mpr ?_
    rw [List.filterMap_append, List.filterMap_map]
    change (g.tasks.filterMap Task.alarmName? ++ ts.filterMap (some ∘ (·.name))).Nodup
    rw [List.filterMap_eq_map]
    refine h.single.append hnames fun name hname hname' => ?_
    obtain ⟨u, hu, huname⟩ := List.mem_filterMap.mp hname
    obtain ⟨t, rfl, -, since, hbegun⟩ := h.active_of_mem hu
    obtain ⟨t', ht', rfl⟩ := List.mem_map.mp hname'
    obtain hsame : t.name = t'.name := Option.some.inj huname
    rw [hsame] at hbegun
    exact hnew t' ht' _ _ hbegun
  · intro name period since p hbegun hp
    rcases (hactive _ _ _).mp hbegun with hbegun | ⟨-, hmem⟩
    · obtain ⟨t, ht, hsame⟩ := h.served hbegun hp
      exact ⟨t, hperm.mem_iff.mpr (List.mem_append_left _ ht), hsame⟩
    · obtain ⟨t, ht, hsame⟩ := List.mem_map.mp hmem
      obtain ⟨rfl, rfl⟩ := Prod.mk.inj hsame
      exact ⟨t, hperm.mem_iff.mpr (List.mem_append_right _ (List.mem_map_of_mem ht)), rfl, rfl⟩

end Punctual

namespace Tally

variable {start : Rat} {ops : List AlarmOp} {op : AlarmOp} {fired : List Alarm}
  {log : List (Rat × LogRecord)}

/-- When nothing is ready, what has gone off is what is due, also after one more operation. -/
theorem concat (h : Tally (Active start ops) (Due start ops) (Timetable.now start (ops ++ [op])) []
    fired log) {ready : List Task} (hready : ∀ t, .alarm t ∈ ready → t.due = none) :
    Tally (Active start (ops ++ [op])) (Due start (ops ++ [op]))
      (Timetable.now start (ops ++ [op])) ready fired log := by
  have hkept : ∀ {x}, Due start (ops ++ [op]) x → x ∈ fired := by
    intro x hx
    rcases due_concat.mp hx with hx | hx
    · exact h.kept hx
    · rcases h.complete hx with hx | ⟨t, ht, -⟩
      · exact hx
      · cases ht
  refine ⟨h.past, h.order, h.once, h.logged, fun x hx => .inl (due_concat.mpr (h.sound x hx)), hkept,
    fun hx => ?_, fun ht hdue => ?_⟩
  · obtain ⟨since, hactive, hmarks, hnow⟩ := hx
    exact .inl (hkept (due_of_active hactive hmarks hnow))
  · rw [hready _ ht] at hdue
    cases hdue

end Tally

/-- What has been done to alarms is what the scene shows. -/
structure Scene.OnSchedule (start : Rat) (ops : List AlarmOp) (s : Scene World) : Prop where
  clock : s.clock = Timetable.now start ops
  alarms : s.world.alarms.Follows ops
  onTime : s.OnTime (Active start ops) (Due start ops)

theorem definite_active (start : Rat) (ops : List AlarmOp) : Definite (Active start ops) :=
  ⟨Active.isPositive, Active.unique⟩

namespace Scene.OnSchedule

variable {start : Rat} {ops : List AlarmOp} {s : Scene World} {name : String} {period : Period}

/-- An operation that takes no time changes the table of alarms and the tasks that are ready. -/
theorem concat (h : OnSchedule start ops s) (hidle : s.world.agenda.ready = []) {op : AlarmOp}
    (hspan : op.span = 0) {agenda : Agenda Task} (halarms : a.Follows (ops ++ [op]))
    (hready : ∀ t, .alarm t ∈ agenda.ready → t.due = none)
    (hpunctual : Punctual (Active start (ops ++ [op])) s.clock a agenda) :
    OnSchedule start (ops ++ [op]) { s with world := { s.world with alarms := a, agenda } } := by
  have hclock : s.clock = Timetable.now start (ops ++ [op]) := by
    rw [now_concat, hspan, add_zero, h.clock]
  refine ⟨hclock, halarms, hpunctual, ?_⟩
  have htally := h.onTime.tally
  rw [hidle, hclock] at htally
  have := htally.concat hready
  rwa [← hclock] at this

theorem create (h : OnSchedule start ops s) (hidle : s.world.agenda.ready = [])
    (hp : period.isPositive = true) (name : String) :
    OnSchedule start (ops ++ [.create name period]) { s with world := { s.world with
      alarms := s.world.alarms.withAlarm name period
      agenda := (s.world.alarms.newTask? name period).toList.foldl
        (fun g t => g.spawn (.alarm t))
        (s.world.agenda.cancel (Chain.isStale (s.world.alarms.withAlarm name period))) } } := by
  have hcancel : Punctual (fun other p since => Active start ops other p since ∧ other ≠ name)
      s.clock (s.world.alarms.withAlarm name period)
      (s.world.agenda.cancel (Chain.isStale (s.world.alarms.withAlarm name period))) := by
    refine h.onTime.punctual.cancel hidle (· ≠ name) (fun t ht => ?_) fun _ _ _ => Iff.rfl
    -- The serial number of the new task has not been given before.
    rw [Alarms.isCurrent_iff] at ht
    have hserial := h.alarms.serials _ ht
    cases hr : s.world.alarms.running <;>
      simp [Alarms.isCurrent_iff, Alarms.withAlarm, ht, hr, hserial.ne]
  refine h.concat hidle rfl (Alarms.follows_create h.alarms hp name) (fun t ht => ?_)
    (hcancel.spawn (fun t ht => ?_) (fun t ht p since hold => ?_) ?_ (fun _ => id) (fun t ht => ?_)
      fun other p since => ?_)
  · simp only [Agenda.foldl_spawn, Agenda.cancel, hidle, List.filter_nil, List.nil_append, List.mem_map,
      Task.alarm.injEq, exists_eq_right] at ht
    rw [(Alarms.mem_newTask?.mp ht).2]
  · rw [(Alarms.mem_newTask?.mp ht).2]
  · rw [(Alarms.mem_newTask?.mp ht).2] at hold
    exact hold.2 rfl
  · cases hr : s.world.alarms.running <;> simp [Alarms.newTask?, hr]
  · obtain ⟨hr, rfl⟩ := Alarms.mem_newTask?.mp ht
    simp [Alarms.isCurrent_iff, Alarms.withAlarm, hr]
  · have hmem : (other, p) ∈ (s.world.alarms.newTask? name period).toList.map
        (fun t => (t.name, t.period)) ↔ isRunning ops = true ∧ name = other ∧ period = p := by
      rw [← h.alarms.running]
      cases hr : s.world.alarms.running <;> simp [Alarms.newTask?, hr, eq_comm]
    rw [active_concat, hmem, h.clock]
    simp only [AlarmOp.ends, Begins, hp, Bool.and_true, decide_eq_false_iff_not]
    grind

theorem clear (h : OnSchedule start ops s) (hidle : s.world.agenda.ready = []) (name : String) :
    OnSchedule start (ops ++ [.clear name]) { s with world := { s.world with
      alarms := (s.world.alarms.clear name).2
      agenda := s.world.agenda.cancel (Chain.isStale (s.world.alarms.clear name).2) } } := by
  refine h.concat hidle rfl (Alarms.follows_clear h.alarms name) (fun t ht => ?_) ?_
  · rw [Agenda.cancel, hidle] at ht
    cases ht
  · refine h.onTime.punctual.cancel hidle (· ≠ name) (fun t ht => ?_) fun other p since => ?_
    · rw [Alarms.isCurrent_iff] at ht
      simp [Alarms.isCurrent_iff, Alarms.clear, ht]
    · rw [active_concat]
      simp [AlarmOp.ends, Begins, eq_comm]

theorem stop (h : OnSchedule start ops s) (hidle : s.world.agenda.ready = []) :
    OnSchedule start (ops ++ [.done]) { s with world := { s.world with
      alarms := s.world.alarms.stop
      agenda := s.world.agenda.cancel (Chain.isStale s.world.alarms.stop) } } := by
  refine h.concat hidle rfl (Alarms.follows_stop h.alarms) (fun t ht => ?_) ?_
  · rw [Agenda.cancel, hidle] at ht
    cases ht
  · refine h.onTime.punctual.cancel hidle (fun _ => False) (fun t ht => ?_) fun other p since => ?_
    · simp [Alarms.isCurrent_iff, Alarms.stop]
    · rw [active_concat]
      simp [AlarmOp.ends, Begins]

theorem run (h : OnSchedule start ops s) (hidle : s.world.agenda.ready = []) :
    OnSchedule start (ops ++ [.running]) { s with world := { s.world with
      alarms := s.world.alarms.run.1
      agenda := s.world.alarms.run.2.foldl (fun g t => g.spawn (.alarm t)) s.world.agenda } } := by
  obtain ⟨hfollows, hdue, htasks, hnames⟩ := Alarms.follows_run h.alarms
  have hmem : ∀ other p, (other, p) ∈ s.world.alarms.run.2.map (fun t => (t.name, t.period)) ↔
      isRunning ops = false ∧ held other ops = some p := by
    intro other p
    rw [hnames, ← h.alarms.periods]
    cases isRunning ops <;> simp
  refine h.concat hidle rfl hfollows (fun t ht => ?_)
    (h.onTime.punctual.spawn hdue (fun t ht p since hold => ?_) ?_ (fun t ht => ?_) (fun t ht => ?_)
      fun other p since => ?_)
  · simp only [Agenda.foldl_spawn, hidle, List.nil_append, List.mem_map, Task.alarm.injEq,
      exists_eq_right] at ht
    exact hdue t ht
  · have hnew := (hmem t.name t.period).mp (List.mem_map.mpr ⟨t, ht, rfl⟩)
    rw [hold.isRunning] at hnew
    cases hnew.1
  · have hsame := congrArg (List.map Prod.fst) hnames
    rw [List.map_map] at hsame
    change (s.world.alarms.run.2.map (Prod.fst ∘ fun t => (t.name, t.period))).Nodup
    rw [hsame]
    split
    · exact .nil
    · exact h.alarms.distinct
  · rw [Alarms.isCurrent_iff] at ht ⊢
    rw [htasks]
    exact List.mem_append_left _ ht
  · rw [Alarms.isCurrent_iff, htasks]
    exact List.mem_append_right _ (List.mem_map.mpr ⟨t, ht, rfl⟩)
  · rw [active_concat, hmem, h.clock]
    simp [AlarmOp.ends, Begins, and_comm]

end Scene.OnSchedule
end Detour
