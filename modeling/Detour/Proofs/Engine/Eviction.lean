import Detour.Proofs.Engine.Serving
import Mathlib.Data.Rat.Floor
import Mathlib.Logic.Relation

/-!
# Entries of the guard do not stay

Whenever the alarm of the cleanup goes off, what has expired is dropped, so that whatever the guard
holds then has been recorded after a cooldown before the time at which the alarm was due
(`Scene.Tended`). When it has gone off for all times at which it is due, counted from the start,
entries are younger than a cooldown and an interval together (`Course.entries_stay_young`). It goes
off for all these times as long as its task begins before time passes (`Scene.Watched`).
-/
namespace Detour

open Chain

open Relation (ReflTransGen)

/-- The cleanup's alarm has gone off for each time up to now at which it is due, an interval after the
start and at every interval from then on. -/
def AllFired (start : Rat) (interval : Int) (fired : List Alarm) (now : Rat) : Prop :=
  ∀ k : ℕ, start + (k + 1) * interval ≤ now →
    ∃ a ∈ fired, a.name = cleanupAlarm ∧ start + (k + 1) * interval ≤ a.scheduled

namespace Course

/-- What moves and questions lead to while the engine serves and neither the cooldown nor the interval
is changed. -/
inductive Serving (c : Course) : Course → Prop
  | start : Serving c c
  | step {d : Course} (m : Move) (hm : m.serves = true) (h : Serving c d) : Serving c (d.step m)
  | query {d : Course} (tab : Id) (h : Serving c d) :
    Serving c (d.act (Engine.onScene (Redirect.suppressed tab)))
  | update {d : Course} (values : List (String × Value))
    (hcooldown : "redirect_cooldown" ∉ values.map (·.1))
    (hinterval : "cleanup_interval" ∉ values.map (·.1)) (h : Serving c d) :
    Serving c (d.step (.update values))
  | set {d : Course} (specs : List String)
    (hcooldown : "redirect_cooldown" ∉ (Settings.groupSpecs specs).map (·.1))
    (hinterval : "cleanup_interval" ∉ (Settings.groupSpecs specs).map (·.1)) (h : Serving c d) :
    Serving c (d.act (Action.setFromTexts specs false))

/-- Every task of an alarm that is ready has found out when it is due. -/
def Begun (c : Course) : Prop := ∀ x, .alarm x ∈ c.world.agenda.ready → x.due ≠ none

/-- No task of an alarm is ready or due. -/
structure Rested (c : Course) : Prop where
  ready : ∀ x, .alarm x ∉ c.world.agenda.ready
  sleeping : ∀ e ∈ c.world.agenda.sleeping, ∀ x, e.2 = .alarm x → c.scene.clock < e.1

end Course

namespace Scene

variable {cooldown interval : Int} {start s t : Scene World} {begun : Rat} {x : AlarmTask}
  {a : Alarm} {m : Move}

/-- What is in the guard and has not been there at some scene has been recorded since, and whatever has
gone off since has had the guard swept. -/
structure Tended (cooldown : Int) (start s : Scene World) : Prop where
  copied : s.world.guard.cooldown = cooldown
  later : start.clock ≤ s.clock
  ripe : s.world.agenda.Ripe s.clock
  redirects : ∃ since, s.world.redirects = since ++ start.world.redirects ∧
    (∀ e ∈ since, start.millis ≤ e.recordedAt) ∧
    ∀ p ∈ s.world.guard.entries, p ∈ start.world.guard.entries ∨ p.2 ∈ since
  fired : ∃ fired, s.world.fired = fired ++ start.world.fired ∧ ∀ a ∈ fired, a.Swept s

theorem swept_calm (h : a.Swept s) (hcooldown : 0 < s.world.guard.cooldown) (hst : Calm s t) :
    a.Swept t := by
  refine ⟨hst.clock ▸ h.due, fun hname p hp => ?_⟩
  rw [hst.cooldown]
  obtain ⟨new, -, hrecorded, hentries⟩ := hst.entries
  rcases hentries p hp with hp | hp
  · exact h.young hname p hp
  · -- An entry is recorded now, and by now the alarm was due.
    have hpos : (0 : Rat) < s.world.guard.cooldown := by exact_mod_cast hcooldown
    have hdue : a.scheduled * 1000 ≤ s.millis := mul_le_mul_of_nonneg_right h.due (by norm_num)
    rw [hrecorded _ hp]
    linarith

theorem Tended.calm (h : Tended cooldown start s) (hcooldown : 0 < cooldown) (hst : Calm s t) :
    Tended cooldown start t := by
  refine ⟨hst.cooldown.trans h.copied, hst.clock ▸ h.later, hst.clock ▸ hst.ripe h.ripe, ?_, ?_⟩
  · obtain ⟨since, hsince, hrecorded, hold⟩ := h.redirects
    obtain ⟨new, hnew, hnow, hentries⟩ := hst.entries
    refine ⟨new ++ since, ?_, fun e he => ?_, fun p hp => ?_⟩
    · rw [hnew, hsince, List.append_assoc]
    · rcases List.mem_append.mp he with he | he
      · rw [hnow e he]
        exact mul_le_mul_of_nonneg_right h.later (by norm_num)
      · exact hrecorded e he
    · rcases hentries p hp with hp | hp
      · exact (hold p hp).imp_right (List.mem_append_right new)
      · exact .inr (List.mem_append_left since hp)
  · obtain ⟨fired, hfired, hswept⟩ := h.fired
    obtain ⟨new, hnew, hnow⟩ := hst.fired
    refine ⟨new ++ fired, ?_, fun a ha => ?_⟩
    · rw [hnew, hfired, List.append_assoc]
    · rcases List.mem_append.mp ha with ha | ha
      · exact hnow a ha
      · exact swept_calm (hswept a ha) (h.copied.symm ▸ hcooldown) hst

theorem Tended.wakes (h : Tended cooldown start s) (time : Rat) :
    Tended cooldown start (s.wokenAt time) := by
  have hclock : s.clock ≤ (s.wokenAt time).clock := le_max_left _ _
  obtain ⟨fired, hfired, hswept⟩ := h.fired
  exact ⟨h.copied, h.later.trans hclock, h.ripe.wakeAt hclock, h.redirects, fired, hfired,
    fun a ha => (hswept a ha).of_guard hclock rfl⟩

theorem Tended.shift (h : Tended cooldown start s) (hcooldown : 0 < cooldown) (hst : Shift m s t) :
    Tended cooldown start t := by
  cases hst with
  | calm hst => exact h.calm hcooldown hst
  | wakes time hm => exact h.wakes time
  | rings x rest log hready =>
    obtain ⟨fired, hfired, hswept⟩ := h.fired
    have hpop : Tended cooldown start (s.withReady rest) :=
      ⟨h.copied, h.later, ripe_withReady (s := s) h.ripe hready, h.redirects, fired, hfired,
        fun a ha => (hswept a ha).of_guard (le_refl _) rfl⟩
    have hrung := hpop.calm hcooldown
      (calm_afterAlarm x fun due => h.ripe.ready x due (hready ▸ List.mem_cons_self))
    exact hrung.calm hcooldown (.of_world rfl rfl)

theorem Tended.refiled (h : Tended cooldown start s) (hst : Refiled s t) :
    Tended cooldown start t := by
  obtain ⟨hclock, path, hworld⟩ := hst
  obtain ⟨now, w, log⟩ := t
  obtain rfl : now = s.clock := hclock
  obtain rfl : w = _ := hworld
  obtain ⟨fired, hfired, hswept⟩ := h.fired
  exact ⟨h.copied, h.later, h.ripe, h.redirects, fired, hfired,
    fun a ha => (hswept a ha).of_guard (le_refl _) rfl⟩

theorem exists_period (hinterval : 0 < interval) {now : Rat} (h : begun ≤ now) :
    ∃ k : ℕ, begun + k * interval ≤ now ∧ now < begun + (k + 1) * interval := by
  have hpos : (0 : Rat) < interval := by exact_mod_cast hinterval
  refine ⟨⌊(now - begun) / interval⌋₊, ?_, ?_⟩
  · have hfloor := Nat.floor_le (div_nonneg (sub_nonneg.mpr h) hpos.le)
    rw [le_div_iff₀ hpos] at hfloor
    linarith
  · have hfloor := Nat.lt_floor_add_one ((now - begun) / (interval : Rat))
    rw [div_lt_iff₀ hpos] at hfloor
    linarith

/-- Once the alarm has gone off for all times at which it is due, what has been recorded since is
young. -/
theorem Tended.young (h : Tended cooldown start s) (hcooldown : 0 < cooldown)
    (hinterval : 0 < interval) {fired : List Alarm}
    (hfired : s.world.fired = fired ++ start.world.fired)
    (hall : AllFired start.clock interval fired s.clock) {p : Id × GuardEntry}
    (hp : p ∈ s.world.guard.entries) (hrecorded : start.millis ≤ p.2.recordedAt) :
    s.millis - p.2.recordedAt < cooldown + 1000 * interval := by
  have hpos : (0 : Rat) < cooldown := by exact_mod_cast hcooldown
  have hmillis : s.millis = s.clock * 1000 := rfl
  have hstart : start.millis = start.clock * 1000 := rfl
  obtain ⟨fired', hfired', hswept⟩ := h.fired
  obtain rfl : fired' = fired := List.append_cancel_right (hfired'.symm.trans hfired)
  obtain ⟨k, hdue, hnext⟩ := exists_period hinterval h.later
  cases k with
  | zero =>
    rw [Nat.cast_zero] at hnext
    linarith
  | succ k =>
    rw [Nat.cast_succ] at hdue hnext
    obtain ⟨a, ha, hname, hscheduled⟩ := hall k hdue
    have hyoung := (hswept a ha).young hname p hp
    rw [h.copied] at hyoung
    linarith

/-- The cleanup has a task. If the task has begun, its alarm has gone off since for each time before the
one at which it is due next. -/
structure Watched (interval : Int) (start : Scene World) (begun : Rat) (s : Scene World)
    (x : AlarmTask) : Prop where
  name : x.name = cleanupAlarm
  period : x.period = .whole interval
  current : s.world.alarms.isCurrent x = true
  waits : .alarm x ∈ s.world.agenda.ready ∨
    ∃ due, x.due = some due ∧ (due, .alarm x) ∈ s.world.agenda.sleeping
  fired : ∃ fired, s.world.fired = fired ++ start.world.fired ∧
    (x.due = none ∧ s.clock = begun ∨ ∃ k : ℕ, x.due = some (begun + (k + 1) * interval) ∧
      ∀ j < k, ∃ a ∈ fired, a.name = cleanupAlarm ∧ a.scheduled = begun + (j + 1) * interval)

theorem waits_again {time due : Rat} (h : x.dueAfter? time = some due) (g : Agenda Task) (now : Rat) :
    .alarm { x with due := some due } ∈ (g.again x time now).ready ∨
      ∃ d, some due = some d ∧
        (d, .alarm { x with due := some due }) ∈ (g.again x time now).sleeping := by
  unfold Agenda.again
  rw [h]
  dsimp only
  split
  · exact .inl (List.mem_append_right _ (List.mem_singleton_self _))
  · exact .inr ⟨due, rfl, Agenda.mem_insertSleeper.mpr (.inl rfl)⟩

theorem Watched.calm (h : Watched interval start begun s x) (hst : Calm s t) :
    Watched interval start begun t x := by
  refine ⟨h.name, h.period, ?_, ?_, ?_⟩
  · rw [hst.alarms]
    exact h.current
  · exact h.waits.imp (hst.ready x) fun ⟨due, hdue, hmem⟩ => ⟨due, hdue, hst.sleeping _ hmem⟩
  · obtain ⟨fired, hfired, hdue⟩ := h.fired
    obtain ⟨new, hnew, -⟩ := hst.fired
    refine ⟨new ++ fired, ?_, ?_⟩
    · rw [hnew, hfired, List.append_assoc]
    · rw [hst.clock]
      exact hdue.imp_right fun ⟨k, hk, hbefore⟩ => ⟨k, hk, fun j hj =>
        let ⟨a, ha, hrest⟩ := hbefore j hj
        ⟨a, List.mem_append_right new ha, hrest⟩⟩

theorem Watched.wakes (h : Watched interval start begun s x) {time : Rat}
    (hclock : x.due = none → (s.wokenAt time).clock = s.clock) :
    Watched interval start begun (s.wokenAt time) x := by
  refine ⟨h.name, h.period, h.current, ?_, ?_⟩
  · rcases h.waits with hready | ⟨due, hdue, hmem⟩
    · exact .inl (List.mem_append_left _ hready)
    · rw [← List.takeWhile_append_dropWhile
        (p := fun e : Rat × Task => decide (e.1 ≤ max s.clock time)) (l := s.world.agenda.sleeping),
        List.mem_append, ← Agenda.sleeping_wakeAt] at hmem
      rcases hmem with hmem | hmem
      · refine .inl ?_
        rw [wokenAt, Agenda.ready_wakeAt]
        exact List.mem_append_right _ (List.mem_map.mpr ⟨_, hmem, rfl⟩)
      · exact .inr ⟨due, hdue, hmem⟩
  · obtain ⟨fired, hfired, hdue⟩ := h.fired
    exact ⟨fired, hfired, hdue.imp_left fun ⟨hnone, hbegun⟩ => ⟨hnone, (hclock hnone).trans hbegun⟩⟩

/-- When the task itself runs, it goes off if it is due, and is due again after an interval. -/
theorem Watched.rings (h : Watched interval start begun s x) (rest : List Task) :
    ∃ y, Watched interval start begun ((s.withReady rest).afterAlarm x) y ∧ y.due ≠ none := by
  have hafter : ∀ time, x.dueAfter? time = some (time + interval) := by
    intro time
    rw [AlarmTask.dueAfter?, h.period]
    rfl
  obtain ⟨fired, hfired, ⟨hnone, hbegun⟩ | ⟨k, hdue, hbefore⟩⟩ := h.fired
  · have hsame : (s.withReady rest).afterAlarm x = (s.withReady rest).withNext x s.clock := by
      rw [afterAlarm, hnone]
      rfl
    rw [hsame]
    refine ⟨{ x with due := some (s.clock + interval) }, ⟨h.name, h.period, h.current,
      waits_again (hafter s.clock) _ _, fired, hfired, .inr ⟨0, ?_, nofun⟩⟩, nofun⟩
    rw [hbegun, Nat.cast_zero, zero_add, one_mul]
  · let due : Rat := begun + (k + 1) * interval
    have hcurrent : (s.withReady rest).world.alarms.isCurrent x = true := h.current
    have hsame : (s.withReady rest).afterAlarm x =
        ((s.withReady rest).afterFire x due).withNext x due := by
      rw [afterAlarm, hdue]
      exact if_pos hcurrent
    have hnext : due + interval = begun + ((k + 1 : ℕ) + 1) * interval := by
      push_cast
      ring
    rw [hsame]
    refine ⟨{ x with due := some (due + interval) }, ⟨h.name, h.period, h.current,
      waits_again (hafter due) _ _, x.firing due :: fired, ?_, .inr ⟨k + 1, ?_, fun j hj => ?_⟩⟩,
      nofun⟩
    · exact congrArg (x.firing due :: ·) hfired
    · rw [hnext]
    · rcases Nat.lt_succ_iff_lt_or_eq.mp hj with hj | rfl
      · obtain ⟨a, ha, hrest⟩ := hbefore j hj
        exact ⟨a, List.mem_cons_of_mem _ ha, hrest⟩
      · exact ⟨x.firing due, List.mem_cons_self, h.name, rfl⟩

theorem Watched.shift (h : Watched interval start begun s x) (hripe : s.world.agenda.Ripe s.clock)
    (hst : Shift m s t) (hclock : x.due = none → t.clock = s.clock) :
    ∃ y, Watched interval start begun t y ∧ (x.due ≠ none → y.due ≠ none) := by
  cases hst with
  | calm hst => exact ⟨x, h.calm hst, id⟩
  | wakes time hm => exact ⟨x, h.wakes hclock, id⟩
  | rings y rest log hready =>
    have hlog : ∀ {z u}, Watched interval start begun u z →
        Watched interval start begun { u with log } z := fun hu => hu.calm (.of_world rfl rfl)
    have hother : (.alarm x ∈ rest ∨
        ∃ due, x.due = some due ∧ (due, .alarm x) ∈ s.world.agenda.sleeping) →
        Watched interval start begun ((s.withReady rest).afterAlarm y) x := by
      intro hwaits
      have hpop : Watched interval start begun (s.withReady rest) x :=
        ⟨h.name, h.period, h.current, hwaits, h.fired⟩
      exact hpop.calm
        (calm_afterAlarm y fun due => hripe.ready y due (hready ▸ List.mem_cons_self))
    rcases h.waits with hx | hsleeps
    · rw [hready] at hx
      rcases List.mem_cons.mp hx with hx | hx
      · obtain rfl := Task.alarm.inj hx
        obtain ⟨z, hz, hbegun⟩ := h.rings rest
        exact ⟨z, hlog hz, fun _ => hbegun⟩
      · exact ⟨x, hlog (hother (.inl hx)), id⟩
    · exact ⟨x, hlog (hother (.inr hsleeps)), id⟩

theorem Watched.refiled (h : Watched interval start begun s x) (hst : Refiled s t) :
    Watched interval start begun t x := by
  obtain ⟨hclock, path, hworld⟩ := hst
  obtain ⟨now, w, log⟩ := t
  obtain rfl : now = s.clock := hclock
  obtain rfl : w = _ := hworld
  exact ⟨h.name, h.period, h.current, h.waits, h.fired⟩

/-- Where no alarm is due any more, a task that has begun has gone off for all times at which it is
due. -/
theorem Watched.allFired {d : Course} (h : Watched interval start begun d.scene x)
    (hinterval : 0 < interval) (hbegun : x.due ≠ none) (hrested : d.Rested) {fired : List Alarm}
    (hfired : d.world.fired = fired ++ start.world.fired) :
    AllFired begun interval fired d.scene.clock := by
  have hpos : (0 : Rat) < interval := by exact_mod_cast hinterval
  obtain ⟨fired', hfired', ⟨hnone, -⟩ | ⟨k, hdue, hbefore⟩⟩ := h.fired
  · exact absurd hnone hbegun
  obtain rfl : fired' = fired := List.append_cancel_right (hfired'.symm.trans hfired)
  have hnext : d.scene.clock < begun + (k + 1) * interval := by
    rcases h.waits with hready | ⟨due, hdue', hsleeps⟩
    · exact absurd hready (hrested.ready x)
    · obtain rfl : due = _ := Option.some.inj (hdue'.symm.trans hdue)
      exact hrested.sleeping _ hsleeps x rfl
  intro j hj
  have hlt : (j : Rat) < k := by
    have hmul : ((j : Rat) + 1) * interval < (k + 1) * interval := by linarith
    linarith [lt_of_mul_lt_mul_right hmul hpos.le]
  obtain ⟨a, ha, hname, hscheduled⟩ := hbefore j (by exact_mod_cast hlt)
  exact ⟨a, ha, hname, hscheduled.ge⟩

end Scene

theorem Alarms.running_startAll (a : Alarms) (l : List (String × Period)) :
    (a.startAll l).1.running = a.running := by
  induction l generalizing a with
  | nil => rfl
  | cons e rest ih =>
    rw [startAll]
    split
    · exact ih a
    · exact ih (a.begin e.1 e.2).1

/-- The scene when the cleanup has got its alarm. -/
def Scene.withCleanup (s : Scene World) (period : Period) : Scene World :=
  { s with world := { s.world with
    alarms := s.world.alarms.withAlarm cleanupAlarm period
    agenda := (s.world.alarms.newTask? cleanupAlarm period).toList.foldl
      (fun a t => a.spawn (.alarm t))
      (s.world.agenda.cancel (isStale (s.world.alarms.withAlarm cleanupAlarm period)))
    cleanupScheduled := true } }

theorem scheduleCleanup_eq {table : List Setting} {interval : Int}
    (hinterval : World.wholeIn table intervalSetting.name = interval) (hpos : 0 < interval)
    (s : Scene World) : scheduleCleanup table s = .ok () (s.withCleanup (.whole interval)) := by
  have hcreate := Alarms.create_of_positive (Period.isPositive_whole.mpr hpos) s.world.alarms
    cleanupAlarm
  have halarm : createAlarm cleanupAlarm (.whole interval) s = .ok () { s with world :=
      { (s.withCleanup (.whole interval)).world with
        cleanupScheduled := s.world.cleanupScheduled } } := by
    rw [createAlarm, get_bind, hcreate]
    rfl
  rw [scheduleCleanup, hinterval, bind_of_ok halarm]
  rfl

/-- When the engine is started, the cleanup gets a new task. -/
theorem watched_of_running {table : List Setting} {cooldown interval : Int}
    (hinterval : World.wholeIn table intervalSetting.name = interval) (hpos : 0 < interval)
    {s : Scene World} (hcopied : s.world.guard.cooldown = cooldown)
    (hripe : s.world.agenda.Ripe s.clock) :
    ∃ t x, Dispatch.triggerEvent .running core table s = .ok () t ∧ Scene.Tended cooldown s t ∧
      Scene.Watched interval s s.clock t x := by
  let begun : Scene World := { s with world := { s.world with
    alarms := s.world.alarms.run.1
    agenda := s.world.alarms.run.2.foldl (fun a t => a.spawn (.alarm t)) s.world.agenda } }
  have hrunning : begun.world.alarms.running = true := Alarms.running_startAll _ _
  have hrun : runAlarms s = .ok () begun := rfl
  have htrigger : Dispatch.triggerEvent .running core table s =
      .ok () (begun.withCleanup (.whole interval)) := by
    unfold core
    rw [Dispatch.triggerEvent_of_plain rfl rfl hrun, Dispatch.triggerEvent_of_absent rfl rfl,
      Dispatch.triggerEvent_of_absent rfl rfl, Dispatch.triggerEvent_of_absent rfl rfl,
      Dispatch.triggerEvent_of_plain rfl rfl (scheduleCleanup_eq hinterval hpos begun)]
    rfl
  refine ⟨begun.withCleanup (.whole interval),
    ⟨begun.world.alarms.nextSerial, cleanupAlarm, .whole interval, none⟩, htrigger, ?_, ?_⟩
  · have hripens := Dispatch.within_triggerEvent (fun _ _ => .of_agenda rfl rfl)
      (Scene.ripens_core .running nofun) table s
    rw [after_of_ok htrigger] at hripens
    exact ⟨hcopied, le_refl _, hripens.2 hripe, ⟨[], rfl, nofun, fun _ => .inl⟩, [], rfl, nofun⟩
  · refine ⟨rfl, rfl, ?_, .inl ?_, [], rfl, .inl ⟨rfl, rfl⟩⟩
    · simp [Alarms.isCurrent_iff, Scene.withCleanup, Alarms.withAlarm, hrunning]
    · simp [Scene.withCleanup, Agenda.spawn, Alarms.newTask?, hrunning]

namespace Scene

variable {cooldown interval : Int} {start s t : Scene World} {begun : Rat} {x : AlarmTask}

/-- What one move or question does while the engine serves. -/
def Serves (s t : Scene World) : Prop := (∃ m, Shift m s t) ∨ Refiled s t

theorem clock_serves (h : Serves s t) : s.clock ≤ t.clock := by
  obtain ⟨m, hst⟩ | hst := h
  · cases hst with
    | calm hst => exact hst.clock.ge
    | wakes time hm => exact le_max_left _ _
    | rings x rest log hready =>
      unfold afterAlarm
      split
      · exact le_refl _
      · split <;> exact le_refl _
  · exact hst.1.ge

theorem clock_stays (h : ReflTransGen Serves s t) : s.clock ≤ t.clock := by
  induction h with
  | refl => exact le_refl _
  | tail _ hst ih => exact ih.trans (clock_serves hst)

theorem Tended.stays (h : Tended cooldown start s) (hcooldown : 0 < cooldown)
    (hst : ReflTransGen Serves s t) : Tended cooldown start t := by
  induction hst with
  | refl => exact h
  | tail _ hst ih =>
    obtain ⟨m, hst⟩ | hst := hst
    · exact ih.shift hcooldown hst
    · exact ih.refiled hst

/-- The cleanup keeps its task. Time may pass when the task has begun. -/
theorem Watched.stays (h : Watched interval start begun s x) (htended : Tended cooldown start s)
    (hcooldown : 0 < cooldown) (hst : ReflTransGen Serves s t)
    (hclock : x.due ≠ none ∨ t.clock = s.clock) :
    ∃ y, Watched interval start begun t y ∧ (x.due ≠ none → y.due ≠ none) := by
  induction hst with
  | refl => exact ⟨x, h, id⟩
  | @tail u t hsu hut ih =>
    have hsame : t.clock = s.clock → u.clock = s.clock := fun heq =>
      le_antisymm ((clock_serves hut).trans heq.le) (clock_stays hsu)
    obtain ⟨y, hy, hyx⟩ := ih (hclock.imp_right hsame)
    obtain ⟨m, hut⟩ | hut := hut
    · have hstill : y.due = none → t.clock = u.clock := by
        intro hnone
        rcases hclock with hx | heq
        · exact absurd hnone (hyx hx)
        · exact heq.trans (hsame heq).symm
      obtain ⟨z, hz, hzy⟩ := hy.shift (htended.stays hcooldown hsu).ripe hut hstill
      exact ⟨z, hz, hzy ∘ hyx⟩
    · exact ⟨y, hy.refiled hut, hyx⟩

end Scene

namespace Course

variable {c d : Course}

theorem Serving.stays (hc : c.Sound) (hd : c.Serving d) :
    d.Sound ∧ ReflTransGen Scene.Serves c.scene d.scene := by
  induction hd with
  | start => exact ⟨hc, .refl⟩
  | @step d m hm hd ih =>
    obtain ⟨hsound, hd⟩ := ih
    exact ⟨hsound.step m, hd.tail (.inl ⟨m, (step_shift hsound hm).2⟩)⟩
  | @query d tab hd ih =>
    obtain ⟨hsound, hd⟩ := ih
    have hcalm := Scene.calm_suppressed tab d.scene
    exact ⟨⟨hsound.chain, hsound.keyed.isSuppressed _ _, hsound.tidy⟩,
      hd.tail (.inl ⟨.sweep, .calm hcalm⟩)⟩
  | @update d values hguard hcleanup hd ih =>
    obtain ⟨hsound, hd⟩ := ih
    exact ⟨hsound.step _, hd.tail (.inr (update_refiles hsound hguard hcleanup))⟩
  | @set d specs hguard hcleanup hd ih =>
    obtain ⟨hsound, hd⟩ := ih
    rcases d.set_cases specs with hset | ⟨values, hnames, hset⟩
    · rw [hset]
      exact ⟨hsound, hd⟩
    · rw [hset]
      exact ⟨hsound.step _, hd.tail (.inr (update_refiles hsound (fun h => hguard (hnames h))
        fun h => hcleanup (hnames h)))⟩

/-- The task of the cleanup begins with the other tasks that are ready. -/
theorem begun_of_watched {interval : Int} {start : Scene World} {begun : Rat} {x : AlarmTask}
    (h : Scene.Watched interval start begun c.scene x) (hbegun : c.Begun) : x.due ≠ none := by
  rcases h.waits with hready | ⟨due, hdue, -⟩
  · exact hbegun x hready
  · rw [hdue]
    exact Option.some_ne_none due

/-- Whatever is done to an engine that has been started, unless its cooldown or its interval is changed
or it is started again or stopped: when the cleanup's alarm has gone off for every time at which it is
due, every entry of the loop guard that has been recorded since the start is younger than the cooldown
and the interval together, and no two entries are of the same tab. The alarm has gone off so when none
is left that is due, provided that its task had begun before any time passed. -/
theorem entries_stay_young {c d : Course} {cooldown interval : Int} (hc : c.Used)
    (hcooldown : c.settings.current? "redirect_cooldown" = some (.int cooldown))
    (hinterval : c.settings.current? "cleanup_interval" = some (.int interval))
    (hd : (c.step .running).Serving d) :
    ∃ since fired, d.world.redirects = since ++ c.world.redirects ∧
      d.world.fired = fired ++ c.world.fired ∧
      (∀ p ∈ d.world.guard.entries, p ∈ c.world.guard.entries ∨ p.2 ∈ since) ∧
      (AllFired c.scene.clock interval fired d.scene.clock →
        ∀ p ∈ d.world.guard.entries, p.2 ∈ since →
          d.millis - p.2.recordedAt < cooldown + 1000 * interval) ∧
      (∀ e, (c.step .running).Serving e → e.scene.clock = c.scene.clock → e.Begun → e.Serving d →
        d.Rested → AllFired c.scene.clock interval fired d.scene.clock) ∧
      d.world.guard.entries.Pairwise fun p q => p.2.tab.same q.2.tab = false := by
  have htuned := hc.tuned
  have hin := htuned.inStep Engine.declares_standardSettings
  have hcopied : c.scene.world.guard.cooldown = cooldown := by
    have hsame := hin.cooldown.symm.trans hcooldown
    exact Value.int.inj (Option.some.inj hsame)
  have hpos : 0 < cooldown := hcopied ▸ hin.positive
  have hwhole : World.wholeIn c.settings.table intervalSetting.name = interval := by
    have hcurrent := Engine.current?_whole htuned.sound
      ((htuned.declared _).trans Engine.declares_standardSettings.interval) rfl
    exact Value.int.inj (Option.some.inj (hcurrent.symm.trans hinterval))
  have hinterval : 0 < interval :=
    hwhole ▸ (htuned.acceptable [intervalSetting.name]).interval rfl
  obtain ⟨t, x, htrigger, htended, hwatched⟩ :=
    watched_of_running hwhole hinterval hcopied hc.ripe
  have hscene : (c.step .running).scene = t := by
    rw [← htuned.chain] at htrigger
    have hrun : Action.triggerEvent .running (c.settings, c.stage) = _ :=
      Action.triggerEvent_of_ok htrigger
    simp only [step, act, scene, after_of_ok hrun]
  rw [← hscene] at htended hwatched
  have hstarted := hc.sound.step .running
  obtain ⟨hsound, hstays⟩ := hd.stays hstarted
  have hd := htended.stays hpos hstays
  obtain ⟨since, hsince, hrecorded, hentries⟩ := hd.redirects
  obtain ⟨fired, hfired, -⟩ := hd.fired
  refine ⟨since, fired, hsince, hfired, hentries, fun hall p hp hnew => ?_,
    fun e he hclock hbegun hed hrested => ?_, ?_⟩
  · exact hd.young hpos hinterval hfired hall hp (hrecorded p.2 hnew)
  · obtain ⟨hsound', hstays'⟩ := he.stays hstarted
    have hstill : e.scene.clock = (c.step .running).scene.clock :=
      le_antisymm (hclock.le.trans htended.later) (Scene.clock_stays hstays')
    obtain ⟨y, hy, -⟩ := hwatched.stays htended hpos hstays' (.inr hstill)
    obtain ⟨z, hz, hzy⟩ := hy.stays (htended.stays hpos hstays') hpos (hed.stays hsound').2
      (.inl (begun_of_watched hy hbegun))
    exact hz.allFired hinterval (hzy (begun_of_watched hy hbegun)) hrested hfired
  · refine hsound.keyed.distinct.imp_of_mem fun {p q} hp hq hne => ?_
    have hp := Id.same_iff.mp (hsound.keyed.owned p hp)
    have hq := Id.same_iff.mp (hsound.keyed.owned q hq)
    rw [Bool.eq_false_iff, Ne, Id.same_iff] at hne ⊢
    rwa [← hp, ← hq]

theorem Serving.run (h : c.Serving d) {moves : List Move} (hm : ∀ m ∈ moves, m.serves = true) :
    c.Serving (d.run moves) := by
  induction moves generalizing d with
  | nil => exact h
  | cons m moves ih =>
    exact ih (h.step m (hm m List.mem_cons_self)) fun m' hm' => hm m' (List.mem_cons_of_mem m hm')

/-- Time passes before the task of the cleanup begins, so that it is late by as much ever after. A tab
is redirected just before the first sweep, and never again. -/
def lateMoves : List Move :=
  [.wait (1 / 2), .task, .wait 299, .look samplePage, .answer 0, .task, .wait (601 / 2), .task,
    .wait 599]

def promptMoves : List Move := [.look samplePage, .answer 0, .task, .wait 300, .task]

theorem visited_tab_stays_young :
    let c : Course := ⟨Engine.standardSettings,
      ⟨core.foldl AddonTable.withAddon .empty, sampleScene⟩, []⟩
    let late := (c.step .running).run lateMoves
    let prompt := ((c.step .running).step .task).run promptMoves
    c.Used ∧ c.settings.current? "redirect_cooldown" = some (.int 3000) ∧
      c.settings.current? "cleanup_interval" = some (.int 300) ∧ (c.step .running).Serving late ∧
      AllFired 0 300 late.world.fired late.scene.clock ∧ late.world.guard.entries.length = 1 ∧
      (∀ p ∈ late.world.guard.entries, late.millis - p.2.recordedAt < 303000) ∧
      prompt.Rested ∧ AllFired 0 300 prompt.world.fired prompt.scene.clock := by
  intro c late prompt
  have hused : c.Used := .assembled .empty "" _ _ 0 [] (Engine.assemble_core sampleScene)
  have hcooldown : c.settings.current? "redirect_cooldown" = some (.int 3000) := rfl
  have hinterval : c.settings.current? "cleanup_interval" = some (.int 300) := rfl
  have hlate : (c.step .running).Serving late := .run .start (by simp [lateMoves, Move.serves])
  have hbegun : (c.step .running).Serving ((c.step .running).step .task) := .step .task rfl .start
  have hprompt : (c.step .running).Serving prompt := hbegun.run (by simp [promptMoves, Move.serves])
  have hclock : late.scene.clock = 599 := by decide +kernel
  have hfirst : ∃ a ∈ late.world.fired, a.name = cleanupAlarm ∧ (300 : Rat) ≤ a.scheduled := by
    decide +kernel
  have hall : AllFired 0 300 late.world.fired late.scene.clock := by
    intro k hk
    rw [hclock] at hk
    obtain rfl : k = 0 := by
      by_contra hne
      have hone : (1 : Rat) ≤ k := by exact_mod_cast Nat.one_le_iff_ne_zero.mpr hne
      push_cast at hk
      linarith
    simpa using hfirst
  have hidle : ((c.step .running).step .task).world.agenda.ready.isEmpty = true := by decide +kernel
  have hrested : prompt.Rested := by
    have hnone : prompt.world.agenda.ready.isEmpty = true := by decide +kernel
    have hlater : (prompt.world.agenda.sleeping.all fun e => decide (prompt.scene.clock < e.1)) =
        true := by decide +kernel
    refine ⟨fun x hx => ?_, fun e he _ _ => ?_⟩
    · rw [List.isEmpty_iff.mp hnone] at hx
      cases hx
    · simpa using List.all_eq_true.mp hlater e he
  obtain ⟨since, fired, -, hfired, hentries, hyoung, -⟩ :=
    entries_stay_young hused hcooldown hinterval hlate
  obtain ⟨-, fired', -, hfired', -, -, hgone, -⟩ :=
    entries_stay_young hused hcooldown hinterval hprompt
  obtain rfl : late.world.fired = fired := hfired.trans (List.append_nil fired)
  obtain rfl : prompt.world.fired = fired' := hfired'.trans (List.append_nil fired')
  refine ⟨hused, hcooldown, hinterval, hlate, hall, by decide +kernel, fun p hp => ?_, hrested, ?_⟩
  · rcases hentries p hp with hold | hsince
    · cases hold
    · have hage := hyoung hall p hp hsince
      norm_num at hage
      exact hage
  · refine hgone _ hbegun (by decide +kernel) (fun x hx => ?_)
      (.run .start (by simp [promptMoves, Move.serves])) hrested
    rw [List.isEmpty_iff.mp hidle] at hx
    cases hx

end Course
end Detour
