import Detour.Engine.Chain
import Detour.Proofs.Effect
import Detour.Proofs.Guard.Entries
import Mathlib.Data.List.Induction

/-!
# The loop guard against its history

A guard drops expired entries when it is asked and when it is swept. A chronicle never drops
anything by itself: it keeps the latest record of each tab until the tab is cleared. The guard
follows its chronicle (`run_follows`): where they differ, the record has expired. So its answers
are those of the history, whatever questions and sweeps came before.
-/
namespace Detour

/-- What is done to a guard, and the passing of time up to some second. -/
inductive GuardOp where
  | record (tab : Id) (url : String)
  | ask (tab : Id)
  | sweep
  | clear (tab : Id)
  | close (tab : Id)
  | done
  | wait (time : Rat)
  deriving DecidableEq, Repr

namespace GuardOp

/-- Tabs are closed, and the guard is done, by the events that its addon handles. -/
def run (table : List Setting) : GuardOp → EStateM Failure (Scene World) Unit
  | record tab url => Chain.remember tab url
  | ask tab => do let _ ← Redirect.suppressed tab
  | sweep => do let _ ← Chain.sweep
  | clear tab => World.change fun w => w.mapGuard (·.clear tab)
  | close tab => Dispatch.callSync (.tabRemoved tab) Chain.loopGuard table
  | done => Dispatch.callSync .done Chain.loopGuard table
  | wait time => modify fun s => { s with clock := max s.clock time }

def runAll (table : List Setting) (ops : List GuardOp) (s : Scene World) : Scene World :=
  ops.foldl (fun s op => after (op.run table) s) s

def isEviction : GuardOp → Bool
  | ask _ | sweep => true
  | _ => false

/-- Whether an operation makes earlier records of the tab count no more. -/
def resets (tab : Id) : GuardOp → Bool
  | record t _ | clear t | close t => t.same tab
  | done => true
  | _ => false

variable {table : List Setting} {s : Scene World}

@[simp] theorem runAll_concat (ops : List GuardOp) (op : GuardOp) :
    runAll table (ops ++ [op]) s = after (op.run table) (runAll table ops s) := by
  simp [runAll]

end GuardOp

/-- The time in seconds, and the latest record of each tab since the tab was last cleared. -/
structure Chronicle where
  clock : Rat
  last : Id → Option GuardEntry

namespace Chronicle

def write (h : Chronicle) : GuardOp → Chronicle
  | .record tab url =>
    { h with last := fun t => if tab.same t then some ⟨tab, url, h.clock * 1000⟩ else h.last t }
  | .clear tab | .close tab => { h with last := fun t => if tab.same t then none else h.last t }
  | .done => { h with last := fun _ => none }
  | .wait time => { h with clock := max h.clock time }
  | .ask _ | .sweep => h

def writeAll (h : Chronicle) (ops : List GuardOp) : Chronicle := ops.foldl write h

def blank (clock : Rat) : Chronicle := ⟨clock, fun _ => none⟩

@[simp] theorem writeAll_nil (h : Chronicle) : h.writeAll [] = h := rfl

@[simp] theorem writeAll_concat (h : Chronicle) (ops : List GuardOp) (op : GuardOp) :
    h.writeAll (ops ++ [op]) = (h.writeAll ops).write op := by
  simp [writeAll]

/-- Questions and sweeps leave no trace in a chronicle. -/
theorem writeAll_filter (h : Chronicle) (ops : List GuardOp) :
    h.writeAll (ops.filter fun op => !op.isEviction) = h.writeAll ops := by
  induction ops using List.reverseRecOn with
  | nil => rfl
  | append_singleton ops op ih =>
    rw [List.filter_append, writeAll_concat, ← ih]
    cases op <;> simp [GuardOp.isEviction, write]

/-- What an operation that does not reset a tab writes of the tab. -/
theorem last_write_of_not_resets {op : GuardOp} {tab : Id} (h : Chronicle)
    (hop : op.resets tab = false) : (h.write op).last tab = h.last tab := by
  cases op <;> simp_all [write, GuardOp.resets]

theorem concat_eq_append_cons_iff {α : Type} {l before later : List α} {a x : α} :
    l ++ [a] = before ++ x :: later ↔
      (later = [] ∧ before = l ∧ x = a) ∨ ∃ init, later = init ++ [a] ∧ l = before ++ x :: init := by
  constructor
  · intro h
    rcases List.eq_nil_or_concat later with rfl | ⟨init, b, rfl⟩
    · obtain ⟨hl, ha⟩ := List.append_inj' h rfl
      simp_all
    · rw [List.concat_eq_append, ← List.cons_append, ← List.append_assoc] at h
      obtain ⟨hl, ha⟩ := List.append_inj' h rfl
      simp_all
  · rintro (⟨rfl, rfl, rfl⟩ | ⟨init, rfl, rfl⟩) <;> simp

/-- The chronicle holds a record if nothing has reset its tab since it was made. -/
theorem last_eq_some_iff {clock : Rat} {ops : List GuardOp} {tab : Id} {e : GuardEntry} :
    ((blank clock).writeAll ops).last tab = some e ↔
      ∃ before later, ops = before ++ .record e.tab e.url :: later ∧ e.tab.same tab = true ∧
        (∀ op ∈ later, op.resets tab = false) ∧
        e.recordedAt = ((blank clock).writeAll before).clock * 1000 := by
  induction ops using List.reverseRecOn with
  | nil => simp [blank]
  | append_singleton ops op ih =>
    rw [writeAll_concat]
    cases hop : op.resets tab with
    | false =>
      -- The last operation has to belong to what came after the record.
      rw [last_write_of_not_resets _ hop, ih]
      constructor
      · rintro ⟨before, later, rfl, htab, hlater, he⟩
        refine ⟨before, later ++ [op], by simp, htab, fun o ho => ?_, he⟩
        rcases List.mem_append.mp ho with ho | ho
        · exact hlater o ho
        · rwa [List.mem_singleton.mp ho]
      · rintro ⟨before, later, heq, htab, hlater, he⟩
        rcases concat_eq_append_cons_iff.mp heq with ⟨-, -, rfl⟩ | ⟨init, rfl, rfl⟩
        · simp [GuardOp.resets, htab] at hop
        · exact ⟨before, init, rfl, htab, fun o ho => hlater o (by simp [ho]), he⟩
    | true =>
      -- It can only be the record itself.
      have hlast : (∃ before later, ops ++ [op] = before ++ .record e.tab e.url :: later ∧
            e.tab.same tab = true ∧ (∀ op ∈ later, op.resets tab = false) ∧
            e.recordedAt = ((blank clock).writeAll before).clock * 1000) ↔
          op = .record e.tab e.url ∧ e.recordedAt = ((blank clock).writeAll ops).clock * 1000 := by
        constructor
        · rintro ⟨before, later, heq, -, hlater, he⟩
          rcases concat_eq_append_cons_iff.mp heq with ⟨rfl, rfl, rfl⟩ | ⟨init, rfl, rfl⟩
          · exact ⟨rfl, he⟩
          · simp [hlater op (by simp)] at hop
        · rintro ⟨rfl, he⟩
          exact ⟨ops, [], rfl, by simpa [GuardOp.resets] using hop, by simp, he⟩
      rw [hlast]
      cases op with
      | record t url =>
        obtain ⟨etab, eurl, eat⟩ := e
        have ht : t.same tab = true := by simpa [GuardOp.resets] using hop
        simp only [write, ht, if_true, Option.some.injEq, GuardEntry.mk.injEq,
          GuardOp.record.injEq]
        constructor
        · rintro ⟨rfl, rfl, rfl⟩
          simp
        · rintro ⟨⟨rfl, rfl⟩, rfl⟩
          simp
      | clear t | close t =>
        have ht : t.same tab = true := by simpa [GuardOp.resets] using hop
        simp [write, ht]
      | done => simp [write]
      | ask t | sweep | wait t => simp [GuardOp.resets] at hop

end Chronicle

/-- The guard holds what the chronicle does, but for records that have expired. -/
structure Follows (s : Scene World) (h : Chronicle) : Prop where
  clock : s.clock = h.clock
  keyed : s.world.guard.Keyed
  held : ∀ tab, s.world.guard.entryOf? tab = h.last tab ∨
    s.world.guard.entryOf? tab = none ∧
      ∃ e, h.last tab = some e ∧ (s.world.guard.cooldown : Rat) ≤ s.millis - e.recordedAt

namespace Follows

variable {s t : Scene World} {h : Chronicle}

theorem of_fades (hs : Follows s h) (clock : t.clock = s.clock)
    (fades : s.world.guard.Fades s.millis t.world.guard) : Follows t h := by
  refine ⟨clock.trans hs.clock, fades.keyed hs.keyed, fun tab => ?_⟩
  have hm : t.millis = s.millis := by simp [Scene.millis, clock]
  rw [fades.cooldown, hm]
  rcases fades.kept hs.keyed tab with hk | ⟨hk, e, he, hx⟩
  · rw [hk]
    exact hs.held tab
  · refine .inr ⟨hk, e, ?_, Guard.hasExpired_iff.mp hx⟩
    rcases hs.held tab with hh | ⟨hh, -⟩
    · rw [← hh, he]
    · rw [hh] at he
      contradiction

theorem of_write (hs : Follows s h) {g : Guard} {last : Id → Option GuardEntry}
    (cooldown : g.cooldown = s.world.guard.cooldown) (keyed : g.Keyed)
    (written : ∀ tab, g.entryOf? tab = last tab ∨
      g.entryOf? tab = s.world.guard.entryOf? tab ∧ last tab = h.last tab) :
    Follows { s with world := { s.world with guard := g } } { h with last } := by
  refine ⟨hs.clock, keyed, fun tab => ?_⟩
  rcases written tab with hw | ⟨hw, hl⟩
  · exact .inl hw
  · have := hs.held tab
    simp only [hw, hl, cooldown]
    exact this

theorem step (hs : Follows s h) (table : List Setting) (op : GuardOp) :
    Follows (after (op.run table) s) (h.write op) := by
  have hm : s.millis = h.clock * 1000 := by rw [Scene.millis, hs.clock]
  cases op with
  | record tab url =>
    refine hs.of_write (g := s.world.guard.record s.millis tab url) rfl
      (hs.keyed.record _ _ _) fun other => ?_
    cases ho : tab.same other with
    | true => exact .inl (by rw [Guard.entryOf?_record_same _ _ _ ho, hm]; simp)
    | false => exact .inr ⟨Guard.entryOf?_record_other _ _ _ ho, by simp⟩
  | clear tab | close tab =>
    refine hs.of_write (g := s.world.guard.clear tab) rfl (hs.keyed.clear _) fun other => ?_
    cases ho : tab.same other with
    | true => exact .inl (by rw [Guard.entryOf?_clear_same _ ho]; simp)
    | false => exact .inr ⟨Guard.entryOf?_clear_other _ ho, by simp⟩
  | done =>
    exact hs.of_write (g := s.world.guard.reset) rfl (.reset _) fun other => .inl rfl
  | ask tab => exact hs.of_fades rfl (Guard.fades_isSuppressed _ _ _)
  | sweep => exact hs.of_fades rfl (Guard.fades_sweep _ _)
  | wait time =>
    -- Only time passes: what has expired stays expired.
    have hclock : s.clock ≤ max s.clock time := le_max_left _ _
    have hlater : s.millis ≤ Scene.millis { s with clock := max s.clock time } :=
      mul_le_mul_of_nonneg_right hclock (by norm_num)
    refine ⟨congrArg (max · time) hs.clock, hs.keyed, fun tab => ?_⟩
    rcases hs.held tab with hh | ⟨hh, e, he, hx⟩
    · exact .inl hh
    · exact .inr ⟨hh, e, he, hx.trans (sub_le_sub_right hlater _)⟩

/-- Both say the same of a tab that is asked about. -/
theorem isSuppressed_iff (hs : Follows s h) (tab : Id) :
    (s.world.guard.isSuppressed s.millis tab).1 = true ↔
      ∃ e, h.last tab = some e ∧ s.millis - e.recordedAt < s.world.guard.cooldown := by
  rw [Guard.isSuppressed_eq_true_iff]
  rcases hs.held tab with hh | ⟨hh, e, he, hx⟩
  · rw [hh]
  · -- What the guard has dropped suppresses nothing.
    rw [hh, he]
    constructor
    · rintro ⟨e', he', -⟩
      cases he'
    · rintro ⟨e', he', hlt⟩
      cases he'
      exact absurd hlt (not_lt.mpr hx)

/-- What the guard holds is in the chronicle. -/
theorem last_of_mem (hs : Follows s h) {p : Id × GuardEntry} (hp : p ∈ s.world.guard.entries) :
    h.last p.2.tab = some p.2 := by
  have hown : p.1.same p.2.tab = true := hs.keyed.owned p hp
  have hentry : s.world.guard.entryOf? p.2.tab = some p.2 := hs.keyed.mem_iff.mpr ⟨p.1, hown, hp⟩
  rcases hs.held p.2.tab with hh | ⟨hh, -⟩
  · rw [← hh, hentry]
  · rw [hh] at hentry
    contradiction

end Follows

def Scene.unguarded (s : Scene World) (cooldown : Int) : Scene World :=
  { s with world := { s.world with guard := ⟨cooldown, []⟩ } }

def GuardOp.reached (table : List Setting) (s : Scene World) (cooldown : Int)
    (ops : List GuardOp) : Scene World :=
  runAll table ops (s.unguarded cooldown)

section Runs

open GuardOp (reached)

variable (table : List Setting) (s : Scene World) (c : Int) (ops : List GuardOp)

theorem follows_blank : Follows (s.unguarded c) (.blank s.clock) :=
  ⟨rfl, ⟨.nil, by simp [Scene.unguarded]⟩, fun _ => .inl rfl⟩

/-- After any run the guard follows the chronicle of the run. -/
theorem run_follows :
    Follows (reached table s c ops) ((Chronicle.blank s.clock).writeAll ops) := by
  induction ops using List.reverseRecOn with
  | nil => exact follows_blank s c
  | append_singleton ops op ih =>
    rw [reached, GuardOp.runAll_concat, Chronicle.writeAll_concat]
    exact ih.step table op

theorem cooldown_step (op : GuardOp) :
    (after (op.run table) s).world.guard.cooldown = s.world.guard.cooldown := by
  cases op with
  | ask tab => exact Guard.cooldown_isSuppressed _ _ _
  | record | sweep | clear | close | done | wait => rfl

theorem cooldown_reached : (reached table s c ops).world.guard.cooldown = c := by
  induction ops using List.reverseRecOn with
  | nil => rfl
  | append_singleton ops op ih =>
    rw [reached, GuardOp.runAll_concat, cooldown_step]
    exact ih

theorem millis_reached :
    (reached table s c ops).millis =
      ((Chronicle.blank s.clock).writeAll ops).clock * 1000 :=
  congrArg (· * 1000) (run_follows table s c ops).clock

theorem outcome_suppressed (tab : Id) :
    outcome (Redirect.suppressed tab) s = .ok (s.world.guard.isSuppressed s.millis tab).1 := rfl

theorem suppressed_iff_last (tab : Id) :
    outcome (Redirect.suppressed tab) (reached table s c ops) = .ok true ↔
      ∃ e, ((Chronicle.blank s.clock).writeAll ops).last tab = some e ∧
        ((Chronicle.blank s.clock).writeAll ops).clock * 1000 - e.recordedAt < c := by
  have hcool : (reached table s c ops).world.guard.cooldown = c :=
    cooldown_reached table s c ops
  rw [outcome_suppressed, Except.ok.injEq, (run_follows table s c ops).isSuppressed_iff, hcool,
    millis_reached]

/-- The answer after a run, by the operations of the run. -/
theorem suppressed_iff_recorded (tab : Id) :
    outcome (Redirect.suppressed tab) (reached table s c ops) = .ok true ↔
      ∃ before as url later, ops = before ++ .record as url :: later ∧ as.same tab = true ∧
        (∀ op ∈ later, op.resets tab = false) ∧
        (reached table s c ops).millis -
          (reached table s c before).millis < c := by
  simp only [suppressed_iff_last, Chronicle.last_eq_some_iff, millis_reached]
  constructor
  · rintro ⟨e, ⟨before, later, hops, htab, hlater, he⟩, hage⟩
    exact ⟨before, e.tab, e.url, later, hops, htab, hlater, he ▸ hage⟩
  · rintro ⟨before, as, url, later, hops, htab, hlater, hage⟩
    exact ⟨⟨as, url, _⟩, ⟨before, later, hops, htab, hlater, rfl⟩, hage⟩

/-- A sweep drops and counts what is as old as the cooldown, and changes nothing else. -/
theorem sweep_eq {s : Scene World} {c : Int} (hc : s.world.guard.cooldown = c) :
    Chain.sweep s = .ok
      (s.world.guard.entries.filter fun p => c ≤ s.millis - p.2.recordedAt).length
      { s with world := { s.world with guard :=
        ⟨c, s.world.guard.entries.filter fun p => s.millis - p.2.recordedAt < c⟩ } } := by
  have hsweep : s.world.guard.sweep s.millis =
      ((s.world.guard.entries.filter fun p => c ≤ s.millis - p.2.recordedAt).length,
        ⟨c, s.world.guard.entries.filter fun p => s.millis - p.2.recordedAt < c⟩) := by
    simp [Guard.sweep, Guard.hasExpired, List.partition_eq_filter_filter, Function.comp_def, hc,
      ← decide_not]
  show EStateM.Result.ok (s.world.guard.sweep s.millis).1
    { s with world := { s.world with guard := (s.world.guard.sweep s.millis).2 } } = _
  rw [hsweep]

/-- The loop guard tells its history. After any run a tab is suppressed exactly if it was redirected
less than a cooldown ago and nothing has reset it since; questions and sweeps on the way do not
matter. A sweep drops and counts exactly what has expired, and what is held is the latest record of
its tab, with the time it was made at. -/
theorem guard_tells_history (table : List Setting) (s : Scene World) (c : Int)
    (ops : List GuardOp) :
    (∀ tab, ∃ answer, outcome (Redirect.suppressed tab) (reached table s c ops) = .ok answer ∧
      (answer = true ↔
        ∃ before as url later, ops = before ++ .record as url :: later ∧ as.same tab = true ∧
          (∀ op ∈ later, op.resets tab = false) ∧
          (reached table s c ops).millis - (reached table s c before).millis < c)) ∧
    (∀ tab, outcome (Redirect.suppressed tab) (reached table s c ops) =
      outcome (Redirect.suppressed tab)
        (reached table s c (ops.filter fun op => !op.isEviction))) ∧
    (∃ held, (reached table s c ops).world.guard = ⟨c, held⟩ ∧
      outcome Chain.sweep (reached table s c ops) =
        .ok (held.filter fun p => c ≤ (reached table s c ops).millis - p.2.recordedAt).length ∧
      (after Chain.sweep (reached table s c ops)).world.guard =
        ⟨c, held.filter fun p => (reached table s c ops).millis - p.2.recordedAt < c⟩ ∧
      ∀ p ∈ held, p.1.same p.2.tab = true ∧
        ∃ before later, ops = before ++ .record p.2.tab p.2.url :: later ∧
          (∀ op ∈ later, op.resets p.2.tab = false) ∧
          p.2.recordedAt = (reached table s c before).millis) := by
  have hfollows := run_follows table s c ops
  have hcool := cooldown_reached table s c ops
  have hsweep := sweep_eq hcool
  refine ⟨fun tab => ⟨_, outcome_suppressed _ tab, ?_⟩, fun tab => ?_,
    (reached table s c ops).world.guard.entries, ?_, ?_, ?_, fun p hp => ⟨?_, ?_⟩⟩
  · have hanswer := suppressed_iff_recorded table s c ops tab
    rwa [outcome_suppressed, Except.ok.injEq] at hanswer
  · -- Both runs have the same chronicle.
    have hsame : outcome (Redirect.suppressed tab) (reached table s c ops) = .ok true ↔
        outcome (Redirect.suppressed tab)
          (reached table s c (ops.filter fun op => !op.isEviction)) = .ok true := by
      rw [suppressed_iff_last, suppressed_iff_last, Chronicle.writeAll_filter]
    rw [outcome_suppressed, outcome_suppressed, Except.ok.injEq, Except.ok.injEq] at hsame
    rw [outcome_suppressed, outcome_suppressed, Bool.eq_iff_iff.mpr hsame]
  · exact congrArg (Guard.mk · (reached table s c ops).world.guard.entries) hcool
  · simp only [outcome, hsweep]
  · rw [after_of_ok hsweep]
  · exact hfollows.keyed.owned p hp
  · obtain ⟨before, later, hops, -, hlater, hat⟩ :=
      Chronicle.last_eq_some_iff.mp (hfollows.last_of_mem hp)
    exact ⟨before, later, hops, hlater, by rw [hat, ← millis_reached table s c]⟩

end Runs
end Detour
