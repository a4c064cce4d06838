import Detour.Alarm
import Mathlib.Data.List.Induction
import Mathlib.Data.List.TakeWhile
import Mathlib.Data.Rat.Cast.Order
import Mathlib.Tactic.Linarith

/-!
# When alarms ought to go off

What is done to alarms from outside is a list of operations, the first one first. It says by itself
how late it is, whether alarms run, which alarms there are, and in which stretches of time each of
them is active (`Stretch`): an alarm becomes active when it is created while alarms run, or when they
start to run, and stays so until it is cleared or created anew, or all are stopped. In a stretch it
ought to go off one period after its beginning, two periods after it, and so on (`Stretch.Fires`).
-/
namespace Detour

theorem Period.seconds_pos {period : Period} {p : Rat} (h : period.isPositive = true)
    (hp : period.seconds? = some p) : 0 < p := by
  unfold isPositive at h
  split at h
  · cases hp
  · simpa [hp] using h

inductive AlarmOp where
  | create (name : String) (period : Period)
  | clear (name : String)
  | running
  | done
  | advance (seconds : Rat)
  deriving DecidableEq, Repr

def AlarmOp.span : AlarmOp → Rat
  | advance seconds => max 0 seconds
  | _ => 0

/-- Whether an alarm of the name is no longer what it was. A period that is refused changes
nothing. -/
def AlarmOp.ends (name : String) : AlarmOp → Bool
  | create other period => other = name && period.isPositive
  | clear other => other = name
  | done => true
  | running | advance _ => false

namespace Timetable

def now (start : Rat) (ops : List AlarmOp) : Rat := ops.foldl (fun t op => t + op.span) start

def isRunning (ops : List AlarmOp) : Bool :=
  ops.foldl (fun running op => match op with
    | .running => true
    | .done => false
    | _ => running) false

def held (name : String) (ops : List AlarmOp) : Option Period :=
  ops.foldl (fun period? op => match op with
    | .create other period => if other = name && period.isPositive then some period else period?
    | .clear other => if other = name then none else period?
    | _ => period?) none

def Begins (before : List AlarmOp) (name : String) (period : Period) : AlarmOp → Prop
  | .create other p =>
    isRunning before = true ∧ other = name ∧ p = period ∧ period.isPositive = true
  | .running => isRunning before = false ∧ held name before = some period
  | _ => False

/-- A stretch of time in which an alarm is active, by its place among the operations. -/
@[ext]
structure Stretch (ops : List AlarmOp) where
  before : List AlarmOp
  first : AlarmOp
  rest : List AlarmOp
  name : String
  period : Period
  whole : before ++ first :: rest = ops
  begins : Begins before name period first

namespace Stretch

variable {ops : List AlarmOp}

def since (x : Stretch ops) (start : Rat) : Rat := now start x.before

/-- The end of the stretch, or the time it is now. -/
def till (x : Stretch ops) (start : Rat) : Rat :=
  now start (x.before ++ x.first :: x.rest.takeWhile fun op => !op.ends x.name)

/-- The `k`-th going off of the alarm in the stretch. -/
def Fires (x : Stretch ops) (start : Rat) (k : Nat) (a : Alarm) : Prop :=
  1 ≤ k ∧ ∃ p, x.period.seconds? = some p ∧ x.since start + k * p ≤ x.till start ∧
    a = ⟨x.name, x.period, x.since start + k * p⟩

end Stretch

section Concat

variable {start : Rat} {ops : List AlarmOp} {op : AlarmOp} {name : String}

theorem now_append (start : Rat) (ops more : List AlarmOp) :
    now start (ops ++ more) = now (now start ops) more := List.foldl_append

theorem now_concat (start : Rat) (ops : List AlarmOp) (op : AlarmOp) :
    now start (ops ++ [op]) = now start ops + op.span := by
  rw [now_append]
  rfl

theorem span_nonneg (op : AlarmOp) : 0 ≤ op.span := by
  cases op with
  | advance x => exact le_max_left 0 x
  | create | clear | running | done => exact le_refl 0

theorem le_now (start : Rat) (ops : List AlarmOp) : start ≤ now start ops := by
  induction ops generalizing start with
  | nil => exact le_refl start
  | cons op rest ih =>
    have hspan := span_nonneg op
    have hrest := ih (start + op.span)
    change start ≤ now (start + op.span) rest
    linarith

theorem now_mono {earlier : List AlarmOp} (h : earlier <+: ops) :
    now start earlier ≤ now start ops := by
  obtain ⟨more, rfl⟩ := h
  rw [now_append]
  exact le_now _ more

theorem isRunning_concat (ops : List AlarmOp) (op : AlarmOp) :
    isRunning (ops ++ [op]) = match op with
      | .running => true
      | .done => false
      | _ => isRunning ops := by
  rw [isRunning, List.foldl_append]
  rfl

theorem held_concat (name : String) (ops : List AlarmOp) (op : AlarmOp) :
    held name (ops ++ [op]) = match op with
      | .create other period =>
        if other = name && period.isPositive then some period else held name ops
      | .clear other => if other = name then none else held name ops
      | _ => held name ops := by
  rw [held, List.foldl_append]
  rfl

theorem isPositive_of_held {period : Period} (h : held name ops = some period) :
    period.isPositive = true := by
  induction ops using List.reverseRecOn with
  | nil => cases h
  | append_singleton ops op ih =>
    rw [held_concat] at h
    cases op with
    | create other p =>
      dsimp only at h
      split at h
      · next hnew =>
        obtain rfl := Option.some.inj h
        exact (Bool.and_eq_true_iff.mp hnew).2
      · exact ih h
    | clear other =>
      dsimp only at h
      split at h
      · cases h
      · exact ih h
    | running | done | advance => exact ih h

theorem Begins.isPositive {before : List AlarmOp} {period : Period}
    (h : Begins before name period op) : period.isPositive = true := by
  cases op with
  | create other p => exact h.2.2.2
  | running => exact isPositive_of_held h.2
  | clear | done | advance => exact h.elim

theorem Begins.span {before : List AlarmOp} {period : Period}
    (h : Begins before name period op) : op.span = 0 := by
  cases op with
  | create | running => rfl
  | clear | done | advance => exact h.elim

theorem span_of_ends (h : op.ends name = true) : op.span = 0 := by
  cases op with
  | advance x => cases h
  | create | clear | running | done => rfl

end Concat

def Stretch.IsOpen {ops : List AlarmOp} (x : Stretch ops) : Prop :=
  ∀ op ∈ x.rest, op.ends x.name = false

/-- The alarm has been active since some time. -/
def Active (start : Rat) (ops : List AlarmOp) (name : String) (period : Period) (since : Rat) : Prop :=
  ∃ x : Stretch ops, x.IsOpen ∧ x.name = name ∧ x.period = period ∧ x.since start = since

section Active

variable {start : Rat} {ops : List AlarmOp} {op : AlarmOp} {name : String} {period : Period}
  {since : Rat}

def Stretch.concat (x : Stretch ops) (op : AlarmOp) : Stretch (ops ++ [op]) where
  before := x.before
  first := x.first
  rest := x.rest ++ [op]
  name := x.name
  period := x.period
  whole := by simp [← x.whole]
  begins := x.begins

def Stretch.last (h : Begins ops name period op) : Stretch (ops ++ [op]) where
  before := ops
  first := op
  rest := []
  name := name
  period := period
  whole := rfl
  begins := h

/-- After one more operation there are the stretches of before and those that it begins. -/
theorem Stretch.concat_cases (x : Stretch (ops ++ [op])) :
    (∃ y : Stretch ops, x = y.concat op) ∨
      ∃ name period, ∃ h : Begins ops name period op, x = .last h := by
  obtain ⟨before, first, rest, name, period, whole, begins⟩ := x
  rcases List.eq_nil_or_concat rest with rfl | ⟨rest, o, rfl⟩
  · obtain ⟨rfl, hop⟩ := List.append_inj' whole rfl
    obtain rfl : first = op := by simpa using hop
    exact .inr ⟨name, period, begins, rfl⟩
  · have hwhole : (before ++ first :: rest) ++ [o] = ops ++ [op] := by simpa using whole
    obtain ⟨hops, hop⟩ := List.append_inj' hwhole rfl
    obtain rfl : o = op := by simpa using hop
    refine .inl ⟨⟨before, first, rest, name, period, hops, begins⟩, ?_⟩
    ext1
    · rfl
    · rfl
    · exact List.concat_eq_append
    · rfl
    · rfl

theorem active_concat :
    Active start (ops ++ [op]) name period since ↔
      Active start ops name period since ∧ op.ends name = false ∨
        Begins ops name period op ∧ since = now start ops := by
  constructor
  · rintro ⟨x, hopen, rfl, rfl, rfl⟩
    rcases x.concat_cases with ⟨y, rfl⟩ | ⟨name, period, hbegins, rfl⟩
    · refine .inl ⟨⟨y, fun o ho => hopen o (List.mem_append_left _ ho), rfl, rfl, rfl⟩, ?_⟩
      exact hopen op (List.mem_append_right _ (List.mem_singleton_self op))
    · exact .inr ⟨hbegins, rfl⟩
  · rintro (⟨⟨x, hopen, rfl, rfl, rfl⟩, hop⟩ | ⟨hbegins, rfl⟩)
    · refine ⟨x.concat op, fun o ho => ?_, rfl, rfl, rfl⟩
      rcases List.mem_append.mp ho with ho | ho
      · exact hopen o ho
      · rwa [List.mem_singleton.mp ho]
    · exact ⟨.last hbegins, List.forall_mem_nil _, rfl, rfl, rfl⟩

theorem exists_active_iff :
    (∃ since, Active start ops name period since) ↔
      isRunning ops = true ∧ held name ops = some period := by
  induction ops using List.reverseRecOn with
  | nil =>
    constructor
    · rintro ⟨_, ⟨before, first, rest, _, _, whole, _⟩, -⟩
      simp at whole
    · rintro ⟨h, -⟩
      cases h
  | append_singleton ops op ih =>
    simp only [active_concat, exists_or, exists_and_right, exists_and_left, exists_eq, and_true, ih,
      isRunning_concat, held_concat]
    cases op with
    | create other p =>
      by_cases hnew : (decide (other = name) && p.isPositive) = true
      · obtain ⟨hname, hp⟩ := Bool.and_eq_true_iff.mp hnew
        simp only [AlarmOp.ends, Begins, hnew, if_true]
        grind
      · simp only [AlarmOp.ends, Begins, hnew]
        grind
    | clear other =>
      simp only [AlarmOp.ends, Begins]
      grind
    | running =>
      simp only [AlarmOp.ends, Begins]
      grind
    | done => simp [AlarmOp.ends, Begins]
    | advance x => simp [AlarmOp.ends, Begins]

theorem Active.isRunning (h : Active start ops name period since) :
    Timetable.isRunning ops = true := (exists_active_iff.mp ⟨since, h⟩).1

/-- What makes an active alarm active anew ends its stretch. -/
theorem Active.ends_of_begins {period' : Period} (h : Active start ops name period since)
    (hbegins : Begins ops name period' op) : op.ends name = true := by
  cases op with
  | create other p =>
    obtain ⟨-, rfl, rfl, hp⟩ := hbegins
    simp [AlarmOp.ends, hp]
  | running =>
    have hrunning := h.isRunning
    rw [hbegins.1] at hrunning
    cases hrunning
  | clear | done | advance => exact hbegins.elim

theorem Begins.unique {period' : Period} (h : Begins ops name period op)
    (h' : Begins ops name period' op) : period = period' := by
  cases op with
  | create other p => exact h.2.2.1.symm.trans h'.2.2.1
  | running => exact Option.some.inj (h.2.symm.trans h'.2)
  | clear | done | advance => exact h.elim

/-- An alarm is active since one time only. -/
theorem Active.unique {period' : Period} {since' : Rat}
    (h : Active start ops name period since) (h' : Active start ops name period' since') :
    period = period' ∧ since = since' := by
  induction ops using List.reverseRecOn with
  | nil =>
    obtain ⟨⟨before, first, rest, _, _, whole, _⟩, -⟩ := h
    simp at whole
  | append_singleton ops op ih =>
    rcases active_concat.mp h with ⟨h, hop⟩ | ⟨hbegins, rfl⟩ <;>
      rcases active_concat.mp h' with ⟨h', hop'⟩ | ⟨hbegins', rfl⟩
    · exact ih h h'
    · rw [h.ends_of_begins hbegins'] at hop
      cases hop
    · rw [h'.ends_of_begins hbegins] at hop'
      cases hop'
    · exact ⟨hbegins.unique hbegins', rfl⟩

theorem Active.isPositive (h : Active start ops name period since) : period.isPositive = true := by
  obtain ⟨x, -, -, rfl, -⟩ := h
  exact x.begins.isPositive

end Active

/-- A number of periods after some time, one or more. -/
def Marks (period : Period) (since time : Rat) : Prop :=
  ∃ p, period.seconds? = some p ∧ ∃ k : Nat, 1 ≤ k ∧ time = since + k * p

/-- The alarm ought to have gone off by now. -/
def Due (start : Rat) (ops : List AlarmOp) (a : Alarm) : Prop :=
  ∃ (x : Stretch ops) (k : Nat), x.Fires start k a

section Due

variable {start : Rat} {ops : List AlarmOp} {op : AlarmOp} {a : Alarm}

theorem Stretch.till_le_now (x : Stretch ops) (start : Rat) : x.till start ≤ now start ops := by
  have hprefix : x.before ++ x.first :: x.rest.takeWhile (fun op => !op.ends x.name) <+:
      x.before ++ x.first :: x.rest := by
    rw [List.prefix_append_right_inj, List.cons_prefix_cons]
    exact ⟨rfl, List.takeWhile_prefix _⟩
  rw [x.whole] at hprefix
  exact now_mono hprefix

theorem Stretch.till_of_isOpen {x : Stretch ops} (h : x.IsOpen) :
    x.till start = now start ops := by
  have hall : x.rest.takeWhile (fun op => !op.ends x.name) = x.rest := by
    rw [List.takeWhile_eq_self_iff]
    intro op hop
    simp [h op hop]
  rw [till, hall, x.whole]

/-- What ends a stretch takes no time. -/
theorem Stretch.till_concat_of_isOpen {x : Stretch ops} (h : x.IsOpen) :
    (x.concat op).till start = now start (ops ++ [op]) := by
  cases hop : op.ends x.name with
  | false =>
    refine Stretch.till_of_isOpen fun o ho => ?_
    rcases List.mem_append.mp ho with ho | ho
    · exact h o ho
    · rwa [List.mem_singleton.mp ho]
  | true =>
    have htake : (x.rest ++ [op]).takeWhile (fun op => !op.ends x.name) = x.rest := by
      rw [List.takeWhile_append_of_pos]
      · simp [hop]
      · intro o ho
        simp [h o ho]
    change now start (x.before ++ x.first ::
      (x.rest ++ [op]).takeWhile fun op => !op.ends x.name) = _
    rw [htake, x.whole, now_concat, span_of_ends hop, add_zero]

theorem Stretch.till_concat_of_not_isOpen {x : Stretch ops} (h : ¬ x.IsOpen) :
    (x.concat op).till start = x.till start := by
  have htake : (x.rest ++ [op]).takeWhile (fun op => !op.ends x.name) =
      x.rest.takeWhile fun op => !op.ends x.name := by
    rw [List.takeWhile_append, if_neg]
    intro hlength
    have hall := List.takeWhile_eq_self_iff.mp
      ((List.takeWhile_prefix _).eq_of_length hlength)
    exact h fun o ho => by simpa using hall o ho
  change now start (x.before ++ x.first ::
    (x.rest ++ [op]).takeWhile fun op => !op.ends x.name) = _
  rw [htake, Stretch.till]

theorem lt_of_marks {period : Period} {since time : Rat} (h : period.isPositive = true)
    (hmarks : Marks period since time) : since < time := by
  obtain ⟨p, hp, k, hk, rfl⟩ := hmarks
  have hpos := Period.seconds_pos h hp
  have hk' : (1 : Rat) ≤ k := by exact_mod_cast hk
  nlinarith

theorem Stretch.Fires.marks {x : Stretch ops} {k : Nat} (h : x.Fires start k a) :
    Marks x.period (x.since start) a.scheduled := by
  obtain ⟨hk, p, hp, -, rfl⟩ := h
  exact ⟨p, hp, k, hk, rfl⟩

/-- The goings off of a stretch are the marks that it reaches. -/
theorem Stretch.exists_fires_iff {x : Stretch ops} :
    (∃ k, x.Fires start k a) ↔ x.name = a.name ∧ x.period = a.period ∧
      Marks x.period (x.since start) a.scheduled ∧ a.scheduled ≤ x.till start := by
  constructor
  · rintro ⟨k, hk, p, hp, htill, rfl⟩
    exact ⟨rfl, rfl, ⟨p, hp, k, hk, rfl⟩, htill⟩
  · rintro ⟨hname, hperiod, ⟨p, hp, k, hk, hscheduled⟩, htill⟩
    obtain ⟨name, period, scheduled⟩ := a
    obtain rfl : x.name = name := hname
    obtain rfl : x.period = period := hperiod
    obtain rfl : scheduled = x.since start + k * p := hscheduled
    exact ⟨k, hk, p, hp, htill, rfl⟩

/-- One more operation lets active alarms go off for as long as it takes. -/
theorem due_concat :
    Due start (ops ++ [op]) a ↔ Due start ops a ∨
      ∃ since, Active start ops a.name a.period since ∧ Marks a.period since a.scheduled ∧
        a.scheduled ≤ now start (ops ++ [op]) := by
  constructor
  · rintro ⟨x, hx⟩
    obtain ⟨hname, hperiod, hmarks, htill⟩ := Stretch.exists_fires_iff.mp hx
    rcases x.concat_cases with ⟨y, rfl⟩ | ⟨name, period, hbegins, rfl⟩
    · by_cases hopen : y.IsOpen
      · rw [Stretch.till_concat_of_isOpen hopen] at htill
        exact .inr ⟨_, ⟨y, hopen, hname, hperiod, rfl⟩, hperiod ▸ hmarks, htill⟩
      · rw [Stretch.till_concat_of_not_isOpen hopen] at htill
        exact .inl ⟨y, Stretch.exists_fires_iff.mpr ⟨hname, hperiod, hmarks, htill⟩⟩
    · -- A stretch that has just begun is too short for any period.
      have hsince := lt_of_marks hbegins.isPositive hmarks
      have hnow := htill.trans ((Stretch.last hbegins).till_le_now start)
      rw [now_concat, hbegins.span, add_zero] at hnow
      exact absurd hnow (not_le.mpr hsince)
  · rintro (⟨x, hx⟩ | ⟨since, ⟨x, hopen, hname, hperiod, rfl⟩, hmarks, hnow⟩)
    · obtain ⟨hname, hperiod, hmarks, htill⟩ := Stretch.exists_fires_iff.mp hx
      refine ⟨x.concat op, Stretch.exists_fires_iff.mpr ⟨hname, hperiod, hmarks, ?_⟩⟩
      by_cases hopen : x.IsOpen
      · rw [Stretch.till_concat_of_isOpen hopen]
        exact (htill.trans (x.till_le_now start)).trans
          (now_mono (List.prefix_append ops [op]))
      · rwa [Stretch.till_concat_of_not_isOpen hopen]
    · refine ⟨x.concat op, Stretch.exists_fires_iff.mpr ⟨hname, hperiod, hperiod ▸ hmarks, ?_⟩⟩
      rwa [Stretch.till_concat_of_isOpen hopen]

theorem due_of_active {since : Rat} (h : Active start ops a.name a.period since)
    (hmarks : Marks a.period since a.scheduled) (hnow : a.scheduled ≤ now start ops) :
    Due start ops a := by
  obtain ⟨x, hopen, hname, hperiod, rfl⟩ := h
  refine ⟨x, Stretch.exists_fires_iff.mpr ⟨hname, hperiod, hperiod ▸ hmarks, ?_⟩⟩
  rwa [Stretch.till_of_isOpen hopen]

theorem Stretch.till_le_since {x y : Stretch ops} (hname : y.name = x.name)
    (hlength : x.before.length < y.before.length) : x.till start ≤ y.since start := by
  obtain ⟨mid, hbefore, hrest⟩ : ∃ mid, y.before = x.before ++ x.first :: mid ∧
      x.rest = mid ++ y.first :: y.rest := by
    rcases List.append_eq_append_iff.mp (x.whole.trans y.whole.symm) with
      ⟨more, hy, hx⟩ | ⟨more, hx, -⟩
    · cases more with
      | nil => simp [hy] at hlength
      | cons op mid =>
        obtain ⟨hfirst, htail⟩ := List.cons_eq_cons.mp hx
        exact ⟨mid, hfirst ▸ hy, htail⟩
    · simp [hx] at hlength
  have hends : (x.rest.takeWhile fun op => !op.ends x.name) <+: mid := by
    rw [hrest, List.takeWhile_append]
    split
    · next hall =>
      have hopen : ∀ op ∈ mid, op.ends x.name = false := by
        intro op hop
        simpa using List.takeWhile_eq_self_iff.mp
          ((List.takeWhile_prefix _).eq_of_length hall) op hop
      have hactive : Active start y.before x.name x.period (x.since start) :=
        ⟨⟨x.before, x.first, mid, x.name, x.period, hbefore.symm, x.begins⟩, hopen, rfl, rfl, rfl⟩
      have hfirst : y.first.ends x.name = true := hactive.ends_of_begins (hname ▸ y.begins)
      simp [hfirst]
    · exact List.takeWhile_prefix _
  refine now_mono ?_
  rw [hbefore, List.prefix_append_right_inj, List.cons_prefix_cons]
  exact ⟨rfl, hends⟩

theorem Stretch.since_lt_till {x : Stretch ops} {k : Nat} (h : x.Fires start k a) :
    x.since start < a.scheduled ∧ a.scheduled ≤ x.till start := by
  obtain ⟨-, -, hmarks, htill⟩ := Stretch.exists_fires_iff.mp ⟨k, h⟩
  exact ⟨lt_of_marks x.begins.isPositive hmarks, htill⟩

/-- An alarm goes off at a mark of one stretch only. -/
theorem fires_unique {x y : Stretch ops} {k l : Nat} (hx : x.Fires start k a)
    (hy : y.Fires start l a) : x = y ∧ k = l := by
  obtain ⟨hxname, hxperiod, -, -⟩ := Stretch.exists_fires_iff.mp ⟨k, hx⟩
  obtain ⟨hyname, hyperiod, -, -⟩ := Stretch.exists_fires_iff.mp ⟨l, hy⟩
  have hname : y.name = x.name := hyname.trans hxname.symm
  obtain ⟨hxsince, hxtill⟩ := Stretch.since_lt_till hx
  obtain ⟨hysince, hytill⟩ := Stretch.since_lt_till hy
  have hlength : x.before.length = y.before.length := by
    rcases Nat.lt_trichotomy x.before.length y.before.length with hlt | heq | hgt
    · have hle : x.till start ≤ y.since start := Stretch.till_le_since hname hlt
      linarith
    · exact heq
    · have hle : y.till start ≤ x.since start := Stretch.till_le_since hname.symm hgt
      linarith
  have hxy : x = y := by
    obtain ⟨hbefore, hrest⟩ := List.append_inj (x.whole.trans y.whole.symm) hlength
    obtain ⟨hfirst, hrest⟩ := List.cons_eq_cons.mp hrest
    exact Stretch.ext hbefore hfirst hrest hname.symm (hxperiod.trans hyperiod.symm)
  subst hxy
  refine ⟨rfl, ?_⟩
  obtain ⟨-, p, hp, -, rfl⟩ := hx
  obtain ⟨-, q, hq, -, hscheduled⟩ := hy
  obtain rfl := Option.some.inj (hp.symm.trans hq)
  have hpos := Period.seconds_pos x.begins.isPositive hp
  have hkl : (k : Rat) * p = l * p := by
    have := congrArg Alarm.scheduled hscheduled
    dsimp only at this
    linarith
  exact_mod_cast mul_right_cancel₀ hpos.ne' hkl

end Due

end Timetable
end Detour
