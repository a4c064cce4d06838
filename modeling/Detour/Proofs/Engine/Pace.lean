import Detour.Proofs.Engine.Budget
import Mathlib.Logic.Relation
import Mathlib.Tactic.Linarith

/-!
# The engine keeps pace

As long as no alarm is late (`Engine.InTime`), whatever is ready has run after so many steps as
`settle` takes, and whatever is due by some time has run after so many rounds as `runFor` takes
(`Engine.runFor_of_inTime`), whether it is alarms, redirects or records that are read.
-/
namespace Detour

open Relation (ReflTransGen)

/-- Sleepers are in order and not yet due, and no alarm is late. -/
structure Agenda.Timely (now : Rat) (a : Agenda Task) : Prop where
  sorted : a.sleeping.Pairwise fun e f => e.1 ≤ f.1
  later : ∀ e ∈ a.sleeping, now < e.1
  ready : ∀ x, .alarm x ∈ a.ready → x.Timely now
  asleep : ∀ due x, (due, .alarm x) ∈ a.sleeping → x.period.isPositive = true ∧ x.due = some due

theorem Agenda.Timely.le_of_first {a : Agenda Task} {now : Rat} (h : a.Timely now) {e : Rat × Task}
    {later : List (Rat × Task)} (hsleeping : a.sleeping = e :: later) :
    ∀ x ∈ a.sleeping, e.1 ≤ x.1 := by
  have hsorted := h.sorted
  rw [hsleeping] at hsorted ⊢
  exact List.forall_mem_cons.mpr ⟨le_refl _, (List.pairwise_cons.mp hsorted).1⟩

theorem Agenda.Timely.spawn {a : Agenda Task} {now : Rat} (h : a.Timely now) {t : Task}
    (ht : ∀ x, t = .alarm x → x.Timely now) : (a.spawn t).Timely now := by
  refine { h with ready := fun x hx => ?_ }
  rcases List.mem_append.mp hx with hx | hx
  · exact h.ready x hx
  · exact ht x (List.mem_singleton.mp hx).symm

theorem Agenda.Timely.wakeAt {a : Agenda Task} {now : Rat} (h : a.Timely now) (hidle : a.ready = [])
    {time : Rat} (hfirst : ∀ e ∈ a.sleeping, time ≤ e.1) : (a.wakeAt time).Timely time where
  sorted := h.sorted.sublist (sleeping_wakeAt_sublist a time)
  later e he := lt_of_mem_sleeping_wakeAt h.sorted he
  ready x hx := by
    rcases (mem_ready_wakeAt h.sorted).mp hx with hx | ⟨due, hdue, hmem⟩
    · rw [hidle] at hx
      cases hx
    · obtain ⟨hpositive, hsome⟩ := h.asleep due x hmem
      obtain rfl : due = time := le_antisymm hdue (hfirst _ hmem)
      exact ⟨hpositive, .inr hsome⟩
  asleep due x hx := h.asleep due x ((sleeping_wakeAt_sublist a time).subset hx)

namespace Engine

variable {g h k : Settings × Stage World} {t : Task} {rest new : List Task}
  {asleep : Option (Rat × Task)} {limit : Rat}

/-- The engine has its addons, and no alarm is late. -/
structure InTime (g : Settings × Stage World) : Prop where
  chain : g.2.addons.chain = Chain.standard
  timely : g.2.scene.world.agenda.Timely g.2.scene.clock

/-- The first task that is ready runs, or time goes on to the next sleeper if none is. -/
inductive Tick (g : Settings × Stage World) : Settings × Stage World → Prop
  | task {t : Task} {rest : List Task} (ready : g.2.scene.world.agenda.ready = t :: rest) :
    Tick g (after (runTask t) (withReady g rest))
  | pass {e : Rat × Task} {later : List (Rat × Task)} (idle : g.2.scene.world.agenda.ready = [])
    (sleeping : g.2.scene.world.agenda.sleeping = e :: later) : Tick g (woken e.1 g)

def turns (limit : Rat) (g : Settings × Stage World) : Nat :=
  g.2.scene.world.agenda.turns (wakes g.2.scene.world limit) limit g.2.scene.clock

theorem InTime.lead (hg : InTime g) (hready : g.2.scene.world.agenda.ready = t :: rest)
    {w : World} {steps : Nat} {turns : Rat → Nat}
    (hleads : Leads new asleep (withReady g rest) h)
    (hbudget : Budget w g.2.scene.clock steps turns new asleep) : InTime h := by
  obtain ⟨hchain, htimely⟩ := hg
  refine ⟨hleads.addons ▸ hchain, ?_⟩
  rw [hleads.clock]
  have hsleeping := hleads.sleeping
  have hmem : ∀ e, e ∈ h.2.scene.world.agenda.sleeping →
      asleep = some e ∨ e ∈ g.2.scene.world.agenda.sleeping := by
    intro e he
    rw [hsleeping] at he
    cases asleep with
    | none => exact .inr he
    | some f => exact (Agenda.mem_insertSleeper.mp he).imp_left fun h => congrArg some h.symm
  refine ⟨?_, fun e he => ?_, fun x hx => ?_, fun due x hx => ?_⟩
  · rw [hsleeping]
    cases asleep with
    | none => exact htimely.sorted
    | some f => exact Agenda.sorted_insertSleeper htimely.sorted
  · rcases hmem e he with he | he
    · exact hbudget.later e he
    · exact htimely.later e he
  · rw [hleads.ready] at hx
    rcases List.mem_append.mp hx with hx | hx
    · exact htimely.ready x (by rw [hready]; exact List.mem_cons_of_mem _ hx)
    · exact absurd hx (hbudget.alarms x)
  · rcases hmem _ hx with hx | hx
    · exact hbudget.due due x hx
    · exact htimely.asleep due x hx

def load (g : Settings × Stage World) : Nat :=
  totalWeight g.2.scene.world g.2.scene.world.agenda.ready

theorem load_lt (hready : g.2.scene.world.agenda.ready = t :: rest)
    (hleads : Leads new asleep (withReady g rest) h) {turns : Rat → Nat}
    (hbudget : Budget g.2.scene.world g.2.scene.clock (weight g.2.scene.world t) turns new asleep) :
    load h < load g := by
  have hsteps := hbudget.steps
  have hworld := totalWeight_congr (w := g.2.scene.world) hleads.files hleads.input
  have hnow : h.2.scene.world.agenda.ready = rest ++ new := hleads.ready
  rw [load, load, hworld, hnow, hready, totalWeight_append, totalWeight]
  omega

theorem turns_le (hready : g.2.scene.world.agenda.ready = t :: rest)
    (hleads : Leads new asleep (withReady g rest) h) {steps : Nat}
    (hbudget : Budget g.2.scene.world g.2.scene.clock steps
      (fun limit => wakes g.2.scene.world limit g.2.scene.clock t) new asleep) (limit : Rat) :
    turns limit h ≤ turns limit g := by
  have hturns := hbudget.turns limit
  have hworld := wakes_congr (w := g.2.scene.world) hleads.files hleads.input
  have hclock : h.2.scene.clock = g.2.scene.clock := hleads.clock
  have hnow : h.2.scene.world.agenda.ready = rest ++ new := hleads.ready
  have hsleeping : (h.2.scene.world.agenda.sleeping.map (wakesAsleep g.2.scene.world limit)).sum =
      asleep.elim 0 (wakesAsleep g.2.scene.world limit) +
        (g.2.scene.world.agenda.sleeping.map (wakesAsleep g.2.scene.world limit)).sum := by
    rw [hleads.sleeping]
    cases asleep with
    | none => exact (Nat.zero_add _).symm
    | some e =>
      have hperm := Agenda.perm_insertSleeper e.1 e.2 g.2.scene.world.agenda.sleeping
      exact (hperm.map (wakesAsleep g.2.scene.world limit)).sum_eq
  rw [turns, turns, Agenda.turns, Agenda.turns, hworld, hclock, hnow, hready, List.map_append,
    List.sum_append, List.map_cons, List.sum_cons]
  change _ + (h.2.scene.world.agenda.sleeping.map (wakesAsleep g.2.scene.world limit)).sum ≤
    _ + (g.2.scene.world.agenda.sleeping.map (wakesAsleep g.2.scene.world limit)).sum
  omega

/-- What one task leads to, if no alarm is late. -/
theorem task_of_inTime (hg : InTime g) (hready : g.2.scene.world.agenda.ready = t :: rest) :
    ∃ new asleep, Leads new asleep (withReady g rest) (after (runTask t) (withReady g rest)) ∧
      Budget g.2.scene.world g.2.scene.clock (weight g.2.scene.world t)
        (fun limit => wakes g.2.scene.world limit g.2.scene.clock t) new asleep ∧
      ((∀ r, t ≠ .read .caller r) →
        Aside new asleep (withReady g rest) (after (runTask t) (withReady g rest))) := by
  have ht : ∀ x, t = .alarm x → x.Timely g.2.scene.clock := by
    rintro x rfl
    exact hg.timely.ready x (by simp [hready])
  obtain ⟨new, asleep, hleads, hbudget, haside⟩ :=
    runTask_affords (g := withReady g rest) hg.chain t ht
  exact ⟨new, asleep, hleads, hbudget.congr rfl rfl, haside⟩

theorem InTime.tick (hg : InTime g) (h : Tick g k) : InTime k := by
  cases h with
  | task hready =>
    obtain ⟨new, asleep, hleads, hbudget, -⟩ := task_of_inTime hg hready
    exact hg.lead hready hleads hbudget
  | pass hidle hsleeping =>
    exact ⟨hg.chain, hg.timely.wakeAt hidle (hg.timely.le_of_first hsleeping)⟩

theorem step_of_inTime (hg : InTime g) (hready : g.2.scene.world.agenda.ready = t :: rest) :
    ∃ h, step g = .ok true h ∧ Tick g h ∧ load h < load g ∧
      ∀ limit, turns limit h ≤ turns limit g := by
  obtain ⟨new, asleep, hleads, hbudget, -⟩ := task_of_inTime hg hready
  exact ⟨_, step_of_ready hready, .task hready, load_lt hready hleads hbudget,
    turns_le hready hleads hbudget⟩

theorem steps_of_inTime (hg : InTime g) {fuel : Nat} (hfuel : load g < fuel) :
    ∃ h, steps fuel g = .ok () h ∧ ReflTransGen Tick g h ∧ InTime h ∧
      h.2.scene.world.agenda.ready = [] ∧ ∀ limit, turns limit h ≤ turns limit g := by
  -- every step takes some of the load, which is therefore gone before the fuel is
  induction fuel generalizing g with
  | zero => exact absurd hfuel (Nat.not_lt_zero _)
  | succ fuel ih =>
    cases hready : g.2.scene.world.agenda.ready with
    | nil => exact ⟨g, bind_of_ok (step_of_idle hready), .refl, hg, hready, fun _ => le_rfl⟩
    | cons t rest =>
      obtain ⟨h, hstep, htick, hload, hturns⟩ := step_of_inTime hg hready
      obtain ⟨k, hsteps, hticks, hk, hidle, hturns'⟩ := ih (hg.tick htick) (by omega)
      exact ⟨k, (bind_of_ok hstep).trans hsteps, .head htick hticks, hk, hidle,
        fun limit => (hturns' limit).trans (hturns limit)⟩

/-- `settle` provides for as many steps as it takes. -/
theorem settle_of_inTime (hg : InTime g) :
    ∃ h, settle g = .ok () h ∧ ReflTransGen Tick g h ∧ InTime h ∧
      h.2.scene.world.agenda.ready = [] ∧ ∀ limit, turns limit h ≤ turns limit g := by
  have hworld : world g = .ok g.2.scene.world g := rfl
  rw [settle, bind_of_ok hworld]
  exact steps_of_inTime hg (Nat.lt_succ_self _)

/-- Time goes on to the next sleeper, which takes one of the turns, or there is none that is due. -/
theorem pass_of_inTime (hg : InTime g) (hidle : g.2.scene.world.agenda.ready = []) (limit : Rat) :
    (pass limit g = .ok false g ∧ ∀ e ∈ g.2.scene.world.agenda.sleeping, limit < e.1) ∨
      ∃ h, pass limit g = .ok true h ∧ Tick g h ∧ turns limit h < turns limit g := by
  rcases pass_cases hg.timely.sorted limit with hpass | ⟨e, later, hsleeping, hfirst, hle, hpass⟩
  · exact .inl hpass
  · exact .inr ⟨woken e.1 g, hpass, .pass hidle hsleeping,
      Agenda.turns_wakeAt hidle hsleeping hfirst hle _⟩

theorem runUntil_of_inTime (hg : InTime g) (reached : World → Bool) {fuel : Nat}
    (hfuel : turns limit g < fuel) :
    ∃ h, runUntil limit reached fuel g = .ok () h ∧ ReflTransGen Tick g h ∧
      h.2.scene.world.agenda.ready = [] ∧
        (reached h.2.scene.world = true ∨ ∀ e ∈ h.2.scene.world.agenda.sleeping, limit < e.1) := by
  -- settling takes no turns, and every pass takes one, so the turns are gone before the fuel is
  induction fuel generalizing g with
  | zero => exact absurd hfuel (Nat.not_lt_zero _)
  | succ fuel ih =>
    obtain ⟨h, hsettle, hticks, hh, hidle, hturns⟩ := settle_of_inTime hg
    have hworld : world h = .ok h.2.scene.world h := rfl
    have hrun : runUntil limit reached (fuel + 1) g =
        (if !reached h.2.scene.world then
          pass limit >>= fun b => if b then runUntil limit reached fuel else pure ()
        else pure ()) h := (bind_of_ok hsettle).trans (bind_of_ok hworld)
    rw [hrun]
    cases hreached : reached h.2.scene.world with
    | true => exact ⟨h, rfl, hticks, hidle, .inl hreached⟩
    | false =>
      rcases pass_of_inTime hh hidle limit with ⟨hpass, hlater⟩ | ⟨k, hpass, htick, hless⟩
      · exact ⟨h, bind_of_ok hpass, hticks, hidle, .inr hlater⟩
      · have hleft := hturns limit
        obtain ⟨m, hrest, hmore, hend⟩ := ih (hh.tick htick) (by omega)
        exact ⟨m, (bind_of_ok hpass).trans hrest, (hticks.tail htick).trans hmore, hend⟩

/-- A task that is woken again in the next seconds is provided for. -/
theorem wakes_lt_wakings (w : World) {limit time seconds : Rat} {u : Task}
    (hpositive : ∀ x, u = .alarm x → x.period.isPositive = true) (hle : limit - time ≤ seconds) :
    wakes w limit time u < wakings w seconds u := by
  cases u with
  | alarm x =>
    change laps limit time (.alarm x) < _
    cases hp : x.period.seconds? with
    | none => simp [laps, wakings, hp]
    | some p =>
      have hpos := Period.seconds_pos (hpositive x rfl) hp
      have hdiv : (limit - time) / p ≤ seconds / p := by gcongr
      have hfloor : ((limit - time) / p).floor ≤ (seconds / p).floor := Int.floor_le_floor hdiv
      simp only [laps, wakings, hp, Option.getD_some]
      omega
  | openRecord | read | navigate | exit => exact Nat.lt_succ_self _

theorem turns_le_totalWakings (hg : InTime g) (seconds : Rat) :
    turns (g.2.scene.clock + seconds) g ≤
      totalWakings g.2.scene.world seconds g.2.scene.world.agenda.tasks := by
  rw [totalWakings_eq, Agenda.tasks, List.map_append, List.sum_append, List.map_map]
  refine Nat.add_le_add (List.sum_le_sum fun u hu => ?_) (List.sum_le_sum fun e he => ?_)
  · refine (wakes_lt_wakings g.2.scene.world ?_ (add_sub_cancel_left _ _).le).le
    rintro x rfl
    exact (hg.timely.ready x hu).1
  · have hlater := hg.timely.later e he
    have hless : wakes g.2.scene.world (g.2.scene.clock + seconds) e.1 e.2 <
        wakings g.2.scene.world seconds e.2 := by
      refine wakes_lt_wakings _ (fun x hx => ?_) (by linarith)
      exact (hg.timely.asleep e.1 x (by rw [← hx]; exact he)).1
    dsimp only [Function.comp]
    split <;> omega

/-- What is due in the next seconds has run when `runFor` is over, unless a state has been reached. -/
theorem runFor_of_inTime (hg : InTime g) (seconds : Rat) (reached : World → Bool) :
    ∃ h, runFor seconds reached g = .ok () h ∧ ReflTransGen Tick g h ∧
      h.2.scene.world.agenda.ready = [] ∧ (reached h.2.scene.world = true ∨
        ∀ e ∈ h.2.scene.world.agenda.sleeping, g.2.scene.clock + seconds < e.1) := by
  have hworld : world g = .ok g.2.scene.world g := rfl
  have hclock : clock g = .ok g.2.scene.clock g := rfl
  rw [runFor, bind_of_ok hworld, bind_of_ok hclock]
  exact runUntil_of_inTime hg reached (Nat.lt_succ_of_le (turns_le_totalWakings hg seconds))

end Engine
end Detour
