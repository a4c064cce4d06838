import Detour.Proofs.Alarm.Clockwork
import Mathlib.Algebra.Order.BigOperators.Group.List
import Mathlib.Data.Rat.Floor
import Mathlib.Tactic.FieldSimp

/-!
# Tasks run and time goes on

The tasks that are ready run one after the other and none of them is late (`Engine.settle_spec`).
Time goes on from one sleeper to the next until all that are left are due later
(`Engine.advance_spec`). How often that can be before some time is counted by `Engine.turnsLeft`:
each sleeper that is woken takes one of the turns that are left.
-/
namespace Detour

variable {active : String → Period → Rat → Prop} {was : Alarm → Prop} {g : Settings × Stage World}
  {t : AlarmTask} {rest : List Task}

/-- How many turns the tasks of an agenda can take by some time, where each that is ready can still
take so many and each that sleeps as many from when it is woken, and one more. -/
def Agenda.turns {T : Type} (f : Rat → T → Nat) (limit now : Rat) (a : Agenda T) : Nat :=
  (a.ready.map (f now)).sum + (a.sleeping.map fun e => if e.1 ≤ limit then f e.1 e.2 + 1 else 0).sum

/-- Those that time goes on to are woken, which takes one turn of each. -/
theorem Agenda.turns_wakeAt {T : Type} {f : Rat → T → Nat} {a : Agenda T} (hidle : a.ready = [])
    {e : Rat × T} {later : List (Rat × T)} (hsleeping : a.sleeping = e :: later)
    (hfirst : ∀ x ∈ a.sleeping, e.1 ≤ x.1) {limit : Rat} (hle : e.1 ≤ limit) (now : Rat) :
    (a.wakeAt e.1).turns f limit e.1 < a.turns f limit now := by
  have hwhole := List.takeWhile_append_dropWhile (p := fun x : Rat × T => decide (x.1 ≤ e.1))
    (l := a.sleeping)
  have hwoken : ∀ x ∈ a.sleeping.takeWhile (fun x => decide (x.1 ≤ e.1)), x.1 = e.1 :=
    fun x hx => le_antisymm (by simpa using List.mem_takeWhile_imp hx)
      (hfirst x ((List.takeWhile_sublist _).subset hx))
  have hsome : a.sleeping.takeWhile (fun x => decide (x.1 ≤ e.1)) ≠ [] := by
    simp [hsleeping]
  have hlt := List.sum_lt_sum_of_ne_nil hsome (fun x => f e.1 x.2)
    (fun x => if x.1 ≤ limit then f x.1 x.2 + 1 else 0) fun x hx => by
      rw [hwoken x hx, if_pos hle]
      omega
  rw [turns, turns, Agenda.ready_wakeAt, Agenda.sleeping_wakeAt, hidle, List.nil_append,
    List.map_map, List.map_nil, List.sum_nil, Nat.zero_add]
  conv_rhs => rw [← hwhole, List.map_append, List.sum_append]
  exact Nat.add_lt_add_right hlt _

namespace Engine

/-- How many periods of a task end by some time, counted from another. -/
def laps (limit time : Rat) : Task → Nat
  | .alarm t => match t.period.seconds? with
    | some p => ((limit - time) / p).floor.toNat
    | none => 0
  | _ => 0

def turnsLeft (limit now : Rat) (a : Agenda Task) : Nat :=
  (a.ready.map (laps limit now)).sum +
    (a.sleeping.map fun e => if e.1 ≤ limit then laps limit e.1 e.2 + 1 else 0).sum

/-- If a period ends by then, it is followed by the ones counted from its end. -/
theorem laps_eq {p : Rat} (hp : t.period.seconds? = some p) (hpos : 0 < p) (limit time : Rat) :
    laps limit time (.alarm t) =
      if time + p ≤ limit then laps limit (time + p) (.alarm t) + 1 else 0 := by
  have hshift : (limit - time) / p = (limit - (time + p)) / p + 1 := by
    field_simp
    ring
  have hfloor : ((limit - time) / p).floor = ((limit - (time + p)) / p).floor + 1 := by
    rw [hshift]
    exact Int.floor_add_one ((limit - (time + p)) / p)
  simp only [laps, hp, hfloor]
  split
  · next hle =>
    have hnonneg : 0 ≤ ((limit - (time + p)) / p).floor :=
      Int.floor_nonneg.mpr (div_nonneg (by linarith) hpos.le)
    omega
  · next hlt =>
    have hneg : ((limit - (time + p)) / p).floor < 0 :=
      Int.floor_lt_zero.mpr (div_neg_of_neg_of_pos (by linarith [not_le.mp hlt]) hpos)
    omega

theorem turnsLeft_afterRun {now : Rat} {a : Alarms} {agenda : Agenda Task}
    (h : Punctual active now a agenda) (hd : Definite active)
    (hready : agenda.ready = .alarm t :: rest) (limit : Rat) :
    turnsLeft limit now (agenda.afterRun t now rest) = turnsLeft limit now agenda := by
  obtain ⟨u, hu, -, since, hactive⟩ := h.active_of_mem (u := .alarm t) (by simp [Agenda.tasks, hready])
  obtain rfl := Task.alarm.inj hu
  unfold Agenda.afterRun AlarmTask.dueAfter?
  cases hp : t.period.seconds? with
  | none =>
    have hlaps : laps limit now (.alarm t) = 0 := by simp [laps, hp]
    simp [turnsLeft, hready, hlaps]
  | some p =>
    have hlaps := laps_eq hp (Period.seconds_pos (hd.positive hactive) hp) limit now
    have hsum := ((Agenda.perm_insertSleeper (now + p) (Task.alarm { t with due := some (now + p) })
      agenda.sleeping).map fun e => if e.1 ≤ limit then laps limit e.1 e.2 + 1 else 0).sum_eq
    have hsame : laps limit (now + p) (.alarm { t with due := some (now + p) }) =
        laps limit (now + p) (.alarm t) := rfl
    simp only [turnsLeft, hready, Option.map_some, Agenda.sleepUntil, hsum, List.map_cons,
      List.sum_cons, hsame, hlaps]
    omega

structure Settled (active : String → Period → Rat → Prop) (was : Alarm → Prop)
    (s t : Scene World) : Prop where
  clock : t.clock = s.clock
  alarms : t.world.alarms = s.world.alarms
  idle : t.world.agenda.ready = []
  onTime : t.OnTime active was
  turns : ∀ limit, turnsLeft limit t.clock t.world.agenda = turnsLeft limit s.clock s.world.agenda

theorem steps_spec (hchain : Dispatch.Obliging g.2.addons.chain) (hd : Definite active)
    (h : g.2.scene.OnTime active was) {fuel : Nat}
    (hfuel : g.2.scene.world.agenda.ready.length < fuel) :
    ∃ s, steps fuel g = .ok () (withScene g s) ∧ Settled active was g.2.scene s := by
  induction fuel generalizing g with
  | zero => omega
  | succ fuel ih =>
    cases hready : g.2.scene.world.agenda.ready with
    | nil =>
      exact ⟨g.2.scene, bind_of_ok (step_of_idle hready), rfl, rfl, hready, h, fun _ => rfl⟩
    | cons u rest =>
      obtain ⟨t, rfl, -⟩ := h.punctual.ready u (by simp [hready])
      obtain ⟨s, hrun, hclock, halarms, hagenda, hs⟩ := runAlarm_spec hchain hd h hready
      have hstep : step g = .ok true (withScene g s) := by
        rw [step_of_ready hready, show runTask (.alarm t) = runAlarm t from rfl, after_of_ok hrun]
      have hlength : s.world.agenda.ready.length < fuel := by
        rw [hagenda, Agenda.ready_afterRun]
        rw [hready, List.length_cons] at hfuel
        omega
      obtain ⟨s', hsteps, hsettled⟩ := ih (g := withScene g s) hchain hs hlength
      refine ⟨s', (bind_of_ok hstep).trans hsteps, hsettled.clock.trans hclock,
        hsettled.alarms.trans halarms, hsettled.idle, hsettled.onTime, fun limit => ?_⟩
      rw [hsettled.turns]
      change turnsLeft limit s.clock s.world.agenda = _
      rw [hclock, hagenda]
      exact turnsLeft_afterRun h.punctual hd hready limit

theorem totalWeight_of_alarms (w : World) {l : List Task} (h : ∀ u ∈ l, ∃ t, u = .alarm t) :
    totalWeight w l = l.length := by
  induction l with
  | nil => rfl
  | cons u rest ih =>
    obtain ⟨t, rfl⟩ := h u (by simp)
    have hweight : weight w (.alarm t) = 1 := rfl
    rw [totalWeight, ih fun v hv => h v (by simp [hv]), hweight, List.length_cons, Nat.add_comm]

theorem settle_spec (hchain : Dispatch.Obliging g.2.addons.chain) (hd : Definite active)
    (h : g.2.scene.OnTime active was) :
    ∃ s, settle g = .ok () (withScene g s) ∧ Settled active was g.2.scene s := by
  have hworld : world g = .ok g.2.scene.world g := rfl
  have hweight : totalWeight g.2.scene.world g.2.scene.world.agenda.ready =
      g.2.scene.world.agenda.ready.length :=
    totalWeight_of_alarms _ fun u hu => by
      obtain ⟨t, ht, -⟩ := h.punctual.ready u hu
      exact ⟨t, ht⟩
  rw [settle, bind_of_ok hworld]
  exact steps_spec hchain hd h (by omega)

/-- The scene when time has gone on as far as it may, and everything that was due has run. -/
structure CaughtUp (active : String → Period → Rat → Prop) (was : Alarm → Prop) (limit : Rat)
    (s t : Scene World) : Prop where
  forward : s.clock ≤ t.clock
  clock : t.clock ≤ max s.clock limit
  alarms : t.world.alarms = s.world.alarms
  idle : t.world.agenda.ready = []
  later : ∀ e ∈ t.world.agenda.sleeping, limit < e.1
  onTime : t.OnTime active was

def woken (due : Rat) (g : Settings × Stage World) : Settings × Stage World :=
  withScene g { g.2.scene with clock := due, world := { g.2.scene.world with
    agenda := g.2.scene.world.agenda.wakeAt due } }

/-- Time goes on to the next sleeper, if that is not too late. -/
theorem pass_cases (hsorted : g.2.scene.world.agenda.sleeping.Pairwise fun e f => e.1 ≤ f.1)
    (limit : Rat) :
    (pass limit g = .ok false g ∧ ∀ e ∈ g.2.scene.world.agenda.sleeping, limit < e.1) ∨
      ∃ e later, g.2.scene.world.agenda.sleeping = e :: later ∧
        (∀ f ∈ g.2.scene.world.agenda.sleeping, e.1 ≤ f.1) ∧ e.1 ≤ limit ∧
          pass limit g = .ok true (woken e.1 g) := by
  have hworld : world g = .ok g.2.scene.world g := rfl
  cases hsleeping : g.2.scene.world.agenda.sleeping with
  | nil =>
    refine .inl ⟨?_, List.forall_mem_nil _⟩
    rw [pass, bind_of_ok hworld, Agenda.nextDue?, hsleeping]
    rfl
  | cons e later =>
    have hnext : g.2.scene.world.agenda.nextDue? = some e.1 := by
      rw [Agenda.nextDue?, hsleeping]
      rfl
    rw [hsleeping] at hsorted
    obtain ⟨hlater, -⟩ := List.pairwise_cons.mp hsorted
    have hfirst : ∀ f ∈ e :: later, e.1 ≤ f.1 := List.forall_mem_cons.mpr ⟨le_refl _, hlater⟩
    rcases lt_or_ge limit e.1 with hlt | hle
    · refine .inl ⟨?_, fun f hf => hlt.trans_le (hfirst f hf)⟩
      rw [pass, bind_of_ok hworld, hnext]
      dsimp only
      rw [if_pos hlt]
      rfl
    · refine .inr ⟨e, later, rfl, hfirst, hle, ?_⟩
      rw [pass, bind_of_ok hworld, hnext]
      dsimp only
      rw [if_neg (not_lt.mpr hle)]
      rfl

/-- Time goes on to the next sleeper, which takes one of the turns that are left. -/
theorem pass_spec (hd : Definite active) (h : g.2.scene.OnTime active was)
    (hidle : g.2.scene.world.agenda.ready = []) (limit : Rat) :
    (pass limit g = .ok false g ∧ ∀ e ∈ g.2.scene.world.agenda.sleeping, limit < e.1) ∨
      ∃ s, pass limit g = .ok true (withScene g s) ∧ g.2.scene.clock ≤ s.clock ∧ s.clock ≤ limit ∧
        s.world.alarms = g.2.scene.world.alarms ∧ s.OnTime active was ∧
        turnsLeft limit s.clock s.world.agenda <
          turnsLeft limit g.2.scene.clock g.2.scene.world.agenda := by
  rcases pass_cases h.punctual.sorted limit with hpass | ⟨e, later, hsleeping, hfirst, hle, hpass⟩
  · exact .inl hpass
  · obtain ⟨-, -, -, -, hlater, -⟩ := h.punctual.sleeping e (by simp [hsleeping])
    have htally := h.tally
    rw [hidle] at htally
    exact .inr ⟨(woken e.1 g).2.scene, hpass, hlater.le, hle, rfl,
      ⟨h.punctual.forward hidle hlater.le hfirst,
        htally.forward hd h.punctual hidle hlater.le hfirst⟩,
      Agenda.turns_wakeAt hidle hsleeping hfirst hle _⟩

theorem runUntil_spec (hchain : Dispatch.Obliging g.2.addons.chain) (hd : Definite active)
    (h : g.2.scene.OnTime active was) {limit : Rat} {fuel : Nat}
    (hfuel : turnsLeft limit g.2.scene.clock g.2.scene.world.agenda < fuel) :
    ∃ s, runUntil limit (fun _ => false) fuel g = .ok () (withScene g s) ∧
      CaughtUp active was limit g.2.scene s := by
  induction fuel generalizing g with
  | zero => omega
  | succ fuel ih =>
    obtain ⟨s, hsettle, hs⟩ := settle_spec hchain hd h
    have hworld : world (withScene g s) = .ok s.world (withScene g s) := rfl
    have hrun : runUntil limit (fun _ => false) (fuel + 1) g =
        (pass limit >>= fun b => if b then runUntil limit (fun _ => false) fuel else pure ())
          (withScene g s) := (bind_of_ok hsettle).trans (bind_of_ok hworld)
    rw [hrun]
    rcases pass_spec (g := withScene g s) hd hs.onTime hs.idle limit with
      ⟨hpass, hlater⟩ | ⟨u, hpass, hforward, hlimit, halarms, hu, hturns⟩
    · exact ⟨s, bind_of_ok hpass, hs.clock.ge, hs.clock.le.trans (le_max_left _ _), hs.alarms, hs.idle,
        hlater, hs.onTime⟩
    · have hleft := hs.turns limit
      change s.clock ≤ u.clock at hforward
      obtain ⟨t, hrest, ht⟩ := ih (g := withScene g u) hchain hu (by
        change turnsLeft limit u.clock u.world.agenda < fuel
        change turnsLeft limit u.clock u.world.agenda <
          turnsLeft limit s.clock s.world.agenda at hturns
        omega)
      have hclock : t.clock ≤ max u.clock limit := ht.clock
      refine ⟨t, (bind_of_ok hpass).trans hrest, ?_, ?_, ht.alarms.trans (halarms.trans hs.alarms),
        ht.idle, ht.later, ht.onTime⟩
      · exact (hs.clock.ge.trans hforward).trans ht.forward
      · exact hclock.trans ((max_eq_right hlimit).le.trans (le_max_right _ _))

theorem totalWakings_eq (w : World) (seconds : Rat) (l : List Task) :
    totalWakings w seconds l = (l.map (wakings w seconds)).sum := by
  induction l with
  | nil => rfl
  | cons u rest ih => rw [totalWakings, ih, List.map_cons, List.sum_cons]

theorem turnsLeft_le_totalWakings (hd : Definite active) (h : g.2.scene.OnTime active was)
    (seconds : Rat) :
    turnsLeft (g.2.scene.clock + seconds) g.2.scene.clock g.2.scene.world.agenda ≤
      totalWakings g.2.scene.world seconds g.2.scene.world.agenda.tasks := by
  rw [totalWakings_eq, Agenda.tasks, List.map_append, List.sum_append, List.map_map]
  refine Nat.add_le_add (List.sum_le_sum fun u hu => ?_) (List.sum_le_sum fun e he => ?_)
  · obtain ⟨t, rfl, -⟩ := h.punctual.ready u hu
    cases hp : t.period.seconds? with
    | none => simp [laps, hp]
    | some p => simp [laps, wakings, hp]
  · obtain ⟨t, ht, -, -, hlt, since, p, k, hactive, hp, -⟩ := h.punctual.sleeping e he
    have hpos := Period.seconds_pos (hd.positive hactive) hp
    have hle : (g.2.scene.clock + seconds - e.1) / p ≤ seconds / p := by
      gcongr
      linarith
    have hfloor : ((g.2.scene.clock + seconds - e.1) / p).floor ≤ (seconds / p).floor :=
      Int.floor_le_floor hle
    simp only [Function.comp, ht, laps, wakings, hp, Option.getD_some]
    split <;> omega

/-- So many seconds pass, and all alarms that are due go off on time. -/
theorem advance_spec (hchain : Dispatch.Obliging g.2.addons.chain) (hd : Definite active)
    (h : g.2.scene.OnTime active was) (seconds : Rat) :
    ∃ s, advance seconds g = .ok () (withScene g s) ∧ s.clock = g.2.scene.clock + max 0 seconds ∧
      s.world.alarms = g.2.scene.world.alarms ∧ s.world.agenda.ready = [] ∧ s.OnTime active was := by
  let target : Rat := g.2.scene.clock + seconds
  have hclock : clock g = .ok g.2.scene.clock g := rfl
  have hworld : world g = .ok g.2.scene.world g := rfl
  obtain ⟨s, hrun, hs⟩ := runUntil_spec hchain hd h
    (Nat.lt_succ_of_le (turnsLeft_le_totalWakings hd h seconds))
  have hrunFor : runFor seconds (fun _ => false) g = .ok () (withScene g s) := by
    rw [runFor, bind_of_ok hworld, bind_of_ok hclock]
    exact hrun
  have hnow : clock (withScene g s) = .ok s.clock (withScene g s) := rfl
  have hadvance : advance seconds g =
      (if s.clock < target then setClock target else pure ()) (withScene g s) := by
    rw [advance, bind_of_ok hclock]
    exact (bind_of_ok hrunFor).trans (bind_of_ok hnow)
  have htarget : max g.2.scene.clock target = g.2.scene.clock + max 0 seconds := by
    rw [← max_add_add_left, add_zero]
  have htally := hs.onTime.tally
  rw [hadvance]
  split
  · next hlt =>
    have hfirst : ∀ e ∈ s.world.agenda.sleeping, target ≤ e.1 := fun e he => (hs.later e he).le
    have hwake := Agenda.wakeAt_of_later hs.later
    have hpunctual := hs.onTime.punctual.forward hs.idle hlt.le hfirst
    rw [hs.idle] at htally
    have hforward := htally.forward hd hs.onTime.punctual hs.idle hlt.le hfirst
    rw [hwake] at hpunctual hforward
    refine ⟨{ s with clock := target }, rfl, ?_, hs.alarms, hs.idle, hpunctual, hforward⟩
    rw [← htarget]
    exact (max_eq_right (hs.forward.trans hlt.le)).symm
  · next hle =>
    refine ⟨s, rfl, ?_, hs.alarms, hs.idle, hs.onTime⟩
    rw [← htarget]
    exact le_antisymm hs.clock (max_le hs.forward (not_lt.mp hle))

end Engine
end Detour
