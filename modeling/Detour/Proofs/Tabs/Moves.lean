import Detour.Proofs.Tabs.Share

/-!
# Moves at a desk

Anybody may give a command or begin to wait at any moment, also between two tasks that are ready.
Tasks run in their order and take no time, and time goes on while nothing is ready. Through all this
the sleepers stay in order, nobody waits while the signal is up and no number is given twice
(`Desk.Orderly`). A desk that is left to itself comes to rest within its bound
(`Desk.step?_runUntil`), and what it does until then are such moves (`Desk.exists_play_runUntil`).
-/
namespace Detour.Tabs.Desk

inductive Move where
  | issue (tab : Id) (url : String)
  | issueLater (seconds : Rat) (tab : Id) (url : String)
  /-- From now on commands fail, or no longer do. -/
  | breakTabs (failure : Option Failure)
  | wait (count : Int) (seconds : Rat)
  /-- The first task that is ready runs. -/
  | task
  | pass (time : Rat)

/-- Time goes on while nothing is ready, and not past what is due next. -/
def CanPass (d : Desk) (time : Rat) : Prop :=
  d.agenda.ready = [] ∧ d.clock ≤ time ∧ ∀ e ∈ d.agenda.sleeping, time ≤ e.1

instance (d : Desk) (time : Rat) : Decidable (d.CanPass time) :=
  inferInstanceAs (Decidable (_ ∧ _ ∧ _))

def move (d : Desk) : Move → Desk
  | .issue tab url => d.issue tab url
  | .issueLater seconds tab url => d.issueLater seconds tab url
  | .breakTabs failure => { d with tabs := { d.tabs with failure } }
  | .wait count seconds => (d.beginWait count seconds).2
  | .task => (d.step? false).getD d
  | .pass time => if d.CanPass time then d.passTo time else d

def play (d : Desk) (moves : List Move) : Desk := moves.foldl move d

def trail (d : Desk) : List Move → List Desk
  | [] => [d]
  | m :: moves => d :: (d.move m).trail moves

/-- A desk before anybody has come, where commands are recorded. -/
def opening (failure : Option Failure) (clock : Rat) : Desk := .fresh (.fresh .recording failure) clock

variable {d d' : Desk} {s serial : Nat} {t : DeskTask} {rest : List DeskTask} {b : Bool}

theorem play_append (first later : List Move) :
    d.play (first ++ later) = (d.play first).play later :=
  List.foldl_append

theorem mem_trail_iff {moves : List Move} :
    d' ∈ d.trail moves ↔ ∃ first later, moves = first ++ later ∧ d' = d.play first := by
  constructor
  · intro h
    induction moves generalizing d with
    | nil => exact ⟨[], [], rfl, List.mem_singleton.mp h⟩
    | cons m moves ih =>
      rcases List.mem_cons.mp h with rfl | h
      · exact ⟨[], m :: moves, rfl, rfl⟩
      · obtain ⟨first, later, rfl, rfl⟩ := ih h
        exact ⟨m :: first, later, rfl, rfl⟩
  · rintro ⟨first, later, rfl, rfl⟩
    induction first generalizing d with
    | nil => cases later <;> exact List.mem_cons_self
    | cons m first ih => exact List.mem_cons_of_mem _ ih

structure Orderly (d : Desk) : Prop where
  recording : d.tabs.surface = .recording
  sorted : d.agenda.sleeping.Pairwise fun e f => e.1 ≤ f.1
  later : ∀ e ∈ d.agenda.sleeping, d.clock < e.1
  /-- Nobody waits while the signal is up. -/
  quiet : d.signalled = true → d.waiting = []
  /-- There is nothing yet of waits to come. -/
  unborn : ∀ s, d.nextSerial ≤ s → d.share s = ⟨[], [], [], none⟩

namespace Orderly

theorem opening (failure : Option Failure) (clock : Rat) : (opening failure clock).Orderly where
  recording := rfl
  sorted := .nil
  later := nofun
  quiet := nofun
  unborn _ _ := rfl

/-- The tasks of a wait bear its number. -/
theorem lt_of_ready (h : d.Orderly) (hready : d.agenda.ready = t :: rest) (ht : isOf s t = true) :
    s < d.nextSerial := by
  by_contra hle
  have hnew := h.unborn s (not_lt.mp hle)
  rw [share_eq_of_own hready ht] at hnew
  exact nomatch congrArg Share.ready hnew

theorem issue (h : d.Orderly) (tab : Id) (url : String) : (d.issue tab url).Orderly := by
  have hshare := share_issue h.recording h.quiet tab url
  rw [issue_eq h.recording h.quiet] at hshare ⊢
  exact {
    recording := h.recording
    sorted := h.sorted
    later := h.later
    quiet := fun _ => rfl
    unborn := fun s hs => by rw [hshare, h.unborn s hs]; rfl }

theorem issueLater (h : d.Orderly) (seconds : Rat) (tab : Id) (url : String) :
    (d.issueLater seconds tab url).Orderly := by
  unfold Desk.issueLater
  dsimp only
  split
  · exact { h with unborn := fun s hs => (share_spawn rfl).trans (h.unborn s hs) }
  · next hpos =>
    refine { h with
      sorted := Agenda.sorted_insertSleeper h.sorted
      later := fun e he => ?_
      unborn := fun s hs => (share_sleepUntil rfl _).trans (h.unborn s hs) }
    rcases Agenda.mem_insertSleeper.mp he with rfl | he
    · exact lt_add_of_pos_right _ (not_le.mp hpos)
    · exact h.later e he

theorem withReady (h : d.Orderly) (hready : d.agenda.ready = t :: rest) :
    (d.withReady rest).Orderly := by
  refine { h with unborn := fun s hs => ?_ }
  cases ht : isOf s t with
  | false => exact (share_withReady hready ht).trans (h.unborn s hs)
  | true => exact absurd (h.lt_of_ready hready ht) (not_lt.mpr hs)

theorem finish (h : d.Orderly) (hserial : serial < d.nextSerial) (e : WaitEnd) :
    (d.finish serial e).Orderly where
  recording := h.recording
  sorted := h.sorted.sublist List.filter_sublist
  later e he := h.later e (List.mem_of_mem_filter he)
  quiet hup := by
    simp only [Desk.finish, h.quiet hup, List.filter_nil]
  unborn s hs := (share_finish (hserial.trans_le hs).ne e).trans (h.unborn s hs)

theorem look (h : d.Orderly) {w : Waiter} (hserial : w.serial < d.nextSerial) :
    (d.look w).Orderly := by
  by_cases hmet : w.count ≤ d.tabs.issued.length
  · rw [look_of_met hmet]
    exact h.finish hserial _
  · have hshare : ∀ s, d.nextSerial ≤ s → (d.look w).share s = ⟨[], [], [], none⟩ := fun s hs =>
      (share_look (hserial.trans_le hs).ne).trans (h.unborn s hs)
    rw [look_of_unmet (not_le.mp hmet)] at hshare ⊢
    exact { h with quiet := nofun, unborn := hshare }

theorem run (h : d.Orderly) (hready : d.agenda.ready = t :: rest) :
    ((d.withReady rest).run t).Orderly := by
  have hpopped := h.withReady hready
  cases t with
  | issue tab url => exact hpopped.issue tab url
  | look w => exact hpopped.look (h.lt_of_ready hready (isOf_look w))
  | expire serial => exact hpopped.finish (h.lt_of_ready hready (isOf_expire serial)) _

theorem beginWait (h : d.Orderly) (count : Int) (seconds : Rat) :
    (d.beginWait count seconds).2.Orderly := by
  have hshare : ∀ s, d.nextSerial + 1 ≤ s →
      (d.beginWait count seconds).2.share s = ⟨[], [], [], none⟩ := fun s hs =>
    (share_beginWait (Nat.lt_of_succ_le hs).ne count seconds).trans
      (h.unborn s (Nat.le_of_succ_le hs))
  have hnext : ({ d with nextSerial := d.nextSerial + 1 } : Desk).Orderly :=
    { h with unborn := fun s hs => h.unborn s (Nat.le_of_succ_le hs) }
  rcases le_or_gt seconds 0 with hsome | hpos
  · rw [beginWait_of_not_pos hsome]
    exact hnext.finish (Nat.lt_succ_self _) _
  · rw [beginWait_of_pos hpos] at hshare ⊢
    refine { hnext with
      sorted := Agenda.sorted_insertSleeper h.sorted
      later := fun e he => ?_
      unborn := hshare }
    rcases Agenda.mem_insertSleeper.mp he with rfl | he
    · exact lt_add_of_pos_right _ hpos
    · exact h.later e he

theorem passTo (h : d.Orderly) (time : Rat) : (d.passTo time).Orderly := by
  refine { h with
    sorted := h.sorted.sublist (Agenda.sleeping_wakeAt_sublist _ _)
    later := fun e he => Agenda.lt_of_mem_sleeping_wakeAt h.sorted he
    unborn := fun s hs => ?_ }
  rw [share_passTo h.sorted, h.unborn s hs]
  rfl

end Orderly

/-- A task that is ready runs; else time goes on to the first sleeper. -/
theorem step?_cases (h : d.step? b = some d') :
    (∃ t rest, d.agenda.ready = t :: rest ∧ d' = (d.withReady rest).run t) ∨
    (d.agenda.ready = [] ∧ ∃ e later, d.agenda.sleeping = e :: later ∧ d' = d.passTo e.1) := by
  unfold step? Agenda.next? Agenda.nextDue? at h
  cases hready : d.agenda.ready with
  | cons t rest =>
    simp only [hready, Option.some.injEq] at h
    exact .inl ⟨t, rest, rfl, h.symm⟩
  | nil =>
    cases hsleeping : d.agenda.sleeping with
    | nil => simp [hready, hsleeping] at h
    | cons e later =>
      simp only [hready, hsleeping, List.head?_cons, Option.map_some] at h
      split at h
      · exact .inr ⟨rfl, e, later, rfl, (Option.some.inj h).symm⟩
      · cases h

theorem step?_of_ready (hready : d.agenda.ready = t :: rest) :
    d.step? b = some ((d.withReady rest).run t) := by
  simp only [step?, Agenda.next?, hready]
  rfl

theorem step?_eq_none_iff : d.step? b = none ↔
    d.agenda.ready = [] ∧ (b = true → d.agenda.sleeping = []) := by
  cases hready : d.agenda.ready with
  | cons t rest => simp [step?_of_ready hready]
  | nil =>
    unfold step? Agenda.next? Agenda.nextDue?
    cases d.agenda.sleeping <;> simp [hready]

theorem move_task_of_ready (hready : d.agenda.ready = t :: rest) :
    d.move .task = (d.withReady rest).run t := by
  rw [move, step?_of_ready hready, Option.getD_some]

theorem move_task_of_idle (hidle : d.agenda.ready = []) : d.move .task = d := by
  rw [move, (step?_eq_none_iff (b := false)).mpr ⟨hidle, nofun⟩, Option.getD_none]

theorem Orderly.move (h : d.Orderly) (m : Move) : (d.move m).Orderly := by
  cases m with
  | issue tab url => exact h.issue tab url
  | issueLater seconds tab url => exact h.issueLater seconds tab url
  | breakTabs failure => exact ⟨h.recording, h.sorted, h.later, h.quiet, h.unborn⟩
  | wait count seconds => exact h.beginWait count seconds
  | task =>
    cases hready : d.agenda.ready with
    | nil => rwa [move_task_of_idle hready]
    | cons t rest =>
      rw [move_task_of_ready hready]
      exact h.run hready
  | pass time =>
    by_cases hcan : d.CanPass time
    · rw [Desk.move, if_pos hcan]
      exact h.passTo time
    · rwa [Desk.move, if_neg hcan]

theorem Orderly.play (h : d.Orderly) (moves : List Move) : (d.play moves).Orderly := by
  induction moves generalizing d with
  | nil => exact h
  | cons m moves ih => exact ih (h.move m)

theorem Orderly.exists_move (h : d.Orderly) (hstep : d.step? b = some d') :
    ∃ m, d' = d.move m := by
  obtain ⟨t, rest, hready, rfl⟩ | ⟨hidle, e, later, hsleeping, rfl⟩ := step?_cases hstep
  · exact ⟨.task, (move_task_of_ready hready).symm⟩
  · have hsorted := h.sorted
    have hlater := h.later
    rw [hsleeping] at hsorted hlater
    have hfirst : ∀ f ∈ d.agenda.sleeping, e.1 ≤ f.1 := by
      rw [hsleeping]
      exact List.forall_mem_cons.mpr ⟨le_refl _, (List.pairwise_cons.mp hsorted).1⟩
    have hcan : d.CanPass e.1 := ⟨hidle, (hlater e List.mem_cons_self).le, hfirst⟩
    exact ⟨.pass e.1, (if_pos hcan).symm⟩

def isCommand : DeskTask → Bool
  | .issue .. => true
  | _ => false

def commands (d : Desk) : Nat := d.agenda.tasks.countP isCommand

def others (d : Desk) : Nat := d.agenda.tasks.countP (!isCommand ·)

/-- More steps than a desk takes by itself: each command can make all that wait look once more, and
each sleeper is woken once. -/
def weight (d : Desk) : Nat :=
  d.commands * (d.others + d.waiting.length + 1) + d.others + d.agenda.sleeping.length

theorem weight_le_bound (d : Desk) : d.weight ≤ d.bound := by
  have hparts : d.agenda.tasks.length = d.commands + d.others := by
    simpa [commands, others] using List.length_eq_countP_add_countP isCommand (l := d.agenda.tasks)
  have hsleeping : d.agenda.sleeping.length ≤ d.agenda.tasks.length := by simp [Agenda.tasks]
  simp only [weight, bound]
  have hproduct : d.commands * (d.others + d.waiting.length + 1) ≤
      (d.agenda.tasks.length + d.waiting.length + 1) *
        (d.agenda.tasks.length + d.waiting.length + 1) :=
    Nat.mul_le_mul (by omega) (by omega)
  omega

theorem weight_lt (hcommands : d'.commands ≤ d.commands)
    (hlooks : d'.others + d'.waiting.length ≤ d.others + d.waiting.length)
    (hless : d'.others + d'.agenda.sleeping.length < d.others + d.agenda.sleeping.length) :
    d'.weight < d.weight := by
  have hproduct : d'.commands * (d'.others + d'.waiting.length + 1) ≤
      d.commands * (d.others + d.waiting.length + 1) :=
    Nat.mul_le_mul hcommands (by omega)
  simp only [weight]
  omega

theorem commands_withReady (hready : d.agenda.ready = t :: rest) :
    d.commands = (d.withReady rest).commands + if isCommand t then 1 else 0 := by
  simp only [commands, Agenda.tasks, withReady, hready, List.cons_append, List.countP_cons]

theorem others_withReady (hready : d.agenda.ready = t :: rest) :
    d.others = (d.withReady rest).others + if isCommand t then 0 else 1 := by
  simp only [others, Agenda.tasks, withReady, hready, List.cons_append, List.countP_cons]
  cases isCommand t <;> rfl

/-- A command makes all that wait look once more. -/
theorem Orderly.counts_issue (h : d.Orderly) (tab : Id) (url : String) :
    (d.issue tab url).commands = d.commands ∧
    (d.issue tab url).others = d.others + d.waiting.length ∧
    (d.issue tab url).waiting = [] ∧
    (d.issue tab url).agenda.sleeping = d.agenda.sleeping := by
  rw [issue_eq h.recording h.quiet]
  refine ⟨?_, ?_, rfl, rfl⟩
  · simp [commands, Agenda.tasks, List.countP_map, Function.comp_def, isCommand]
  · simp only [others, Agenda.tasks, List.countP_append, List.countP_map, Function.comp_def,
      isCommand, Bool.not_false, List.countP_true]
    exact Nat.add_right_comm _ _ _

theorem Orderly.weight_issue_lt (h : d.Orderly) {tab : Id} {url : String}
    (hready : d.agenda.ready = .issue tab url :: rest) :
    ((d.withReady rest).issue tab url).weight < d.weight := by
  obtain ⟨hcommands, hothers, hwaiting, hsleeping⟩ := (h.withReady hready).counts_issue tab url
  have hcommands' : d.commands = (d.withReady rest).commands + 1 := commands_withReady hready
  have hothers' : d.others = (d.withReady rest).others := others_withReady hready
  -- The command that is done pays for the looks that it starts.
  simp only [weight, hcommands, hothers, hwaiting, hsleeping, hcommands', hothers', List.length_nil,
    Nat.add_zero, Nat.add_mul, Nat.one_mul, waiting_withReady, sleeping_withReady]
  omega

theorem weight_finish_le (d : Desk) (serial : Nat) (e : WaitEnd) :
    (d.finish serial e).commands ≤ d.commands ∧ (d.finish serial e).others ≤ d.others ∧
    (d.finish serial e).waiting.length ≤ d.waiting.length ∧
    (d.finish serial e).agenda.sleeping.length ≤ d.agenda.sleeping.length := by
  simp only [commands, others, finish, Agenda.tasks_cancel]
  exact ⟨List.filter_sublist.countP_le, List.filter_sublist.countP_le,
    List.length_filter_le _ _, List.length_filter_le _ _⟩

theorem weight_finish_lt (hready : d.agenda.ready = t :: rest) (ht : isCommand t = false)
    (serial : Nat) (e : WaitEnd) : ((d.withReady rest).finish serial e).weight < d.weight := by
  obtain ⟨hcommands, hothers, hwaiting, hsleeping⟩ :=
    weight_finish_le (d.withReady rest) serial e
  have hcommands' := commands_withReady hready
  have hothers' := others_withReady hready
  rw [ht] at hcommands' hothers'
  simp only [Bool.false_eq_true, if_false] at hcommands' hothers'
  rw [waiting_withReady] at hwaiting
  rw [sleeping_withReady] at hsleeping
  exact weight_lt (by omega) (by omega) (by omega)

theorem weight_look_lt {w : Waiter} (hready : d.agenda.ready = .look w :: rest) :
    ((d.withReady rest).look w).weight < d.weight := by
  by_cases hmet : w.count ≤ d.tabs.issued.length
  · rw [look_of_met (d := d.withReady rest) hmet]
    exact weight_finish_lt hready rfl w.serial .reached
  · rw [look_of_unmet (d := d.withReady rest) (not_le.mp hmet)]
    have hcommands : d.commands = (d.withReady rest).commands := commands_withReady hready
    have hothers : d.others = (d.withReady rest).others + 1 := others_withReady hready
    refine weight_lt hcommands.ge ?_ ?_
    · rw [hothers, List.length_append]
      exact Nat.le_of_eq (Nat.add_right_comm _ 1 _).symm
    · rw [hothers]
      exact Nat.add_lt_add_right (Nat.lt_succ_self _) _

theorem weight_passTo_lt {e : Rat × DeskTask} {later : List (Rat × DeskTask)}
    (hsleeping : d.agenda.sleeping = e :: later) : (d.passTo e.1).weight < d.weight := by
  have htasks : (d.passTo e.1).agenda.tasks = d.agenda.tasks := Agenda.tasks_wakeAt _ _
  have hless := Agenda.length_sleeping_wakeAt_lt hsleeping
  have hcommands : (d.passTo e.1).commands = d.commands := congrArg (List.countP isCommand) htasks
  have hothers : (d.passTo e.1).others = d.others := congrArg (List.countP (!isCommand ·)) htasks
  exact weight_lt hcommands.le (hothers ▸ le_refl _) (hothers ▸ Nat.add_lt_add_left hless _)

/-- Whatever the desk does by itself brings it closer to rest. -/
theorem Orderly.weight_lt_of_step? (h : d.Orderly) (hstep : d.step? b = some d') :
    d'.weight < d.weight := by
  obtain ⟨t, rest, hready, rfl⟩ | ⟨-, e, later, hsleeping, rfl⟩ := step?_cases hstep
  · cases t with
    | issue tab url => exact h.weight_issue_lt hready
    | look w => exact weight_look_lt hready
    | expire serial => exact weight_finish_lt hready rfl serial .timedOut
  · exact weight_passTo_lt hsleeping

def mayPass (serial? : Option Nat) (d : Desk) : Bool :=
  match serial? with
  | some serial => (d.ended.lookup serial).isNone
  | none => false

theorem runUntil_succ (serial? : Option Nat) (fuel : Nat) (d : Desk) :
    d.runUntil serial? (fuel + 1) = match d.step? (d.mayPass serial?) with
      | some d => d.runUntil serial? fuel
      | none => d :=
  rfl

/-- A desk that is left to itself comes to rest. -/
theorem Orderly.step?_runUntil (h : d.Orderly) (serial? : Option Nat) {fuel : Nat}
    (hfuel : d.weight ≤ fuel) :
    (d.runUntil serial? fuel).step? ((d.runUntil serial? fuel).mayPass serial?) = none := by
  induction fuel generalizing d with
  | zero =>
    by_contra hgoes
    obtain ⟨d', hstep⟩ := Option.ne_none_iff_exists'.mp hgoes
    exact absurd (h.weight_lt_of_step? hstep) (by omega)
  | succ fuel ih =>
    rw [runUntil_succ]
    cases hstep : d.step? (d.mayPass serial?) with
    | none => exact hstep
    | some d' =>
      obtain ⟨m, rfl⟩ := h.exists_move hstep
      exact ih (h.move m) (Nat.le_of_lt_succ ((h.weight_lt_of_step? hstep).trans_le hfuel))

/-- All that the desk does by itself are moves. -/
theorem Orderly.exists_play_runUntil (h : d.Orderly) (serial? : Option Nat) (fuel : Nat) :
    ∃ own, d.runUntil serial? fuel = d.play own := by
  induction fuel generalizing d with
  | zero => exact ⟨[], rfl⟩
  | succ fuel ih =>
    rw [runUntil_succ]
    cases hstep : d.step? (d.mayPass serial?) with
    | none => exact ⟨[], rfl⟩
    | some d' =>
      obtain ⟨m, rfl⟩ := h.exists_move hstep
      obtain ⟨own, hown⟩ := ih (h.move m)
      exact ⟨m :: own, hown⟩

/-- Nothing is ready once the desk has settled. -/
theorem Orderly.exists_play_settle (h : d.Orderly) :
    ∃ own, d.settle = d.play own ∧ (d.play own).agenda.ready = [] := by
  obtain ⟨own, hown⟩ := h.exists_play_runUntil none d.bound
  have hrest := h.step?_runUntil none d.weight_le_bound
  rw [hown] at hrest
  exact ⟨own, hown, (step?_eq_none_iff.mp hrest).1⟩

end Detour.Tabs.Desk
