import Detour.Proofs.Tabs.Moves

/-!
# No wake-up is lost

A wait is looking, or waits for the signal with a number that is still too small, or its deadline has
woken, or it is over (`Desk.Phase`). Each move takes it at most one turn further (`Stands.move`):
a command makes it look again whoever has taken the signal back meanwhile, and before its deadline
that look comes first. So a wait returns if its number is reached before its deadline and fails if
it is not, and it ends in any case (`Desk.no_wakeup_lost`).
-/
namespace Detour.Tabs.Desk

inductive Phase where
  /-- It is about to look. -/
  | looking
  | waiting
  /-- Its deadline has woken while it was waiting. -/
  | due
  /-- There has been another command after that. -/
  | missed
  | ended (e : WaitEnd)

def Phase.share (w : Waiter) (deadline : Rat) : Phase → Share
  | .looking => ⟨[.look w], [(deadline, .expire w.serial)], [], none⟩
  | .waiting => ⟨[], [(deadline, .expire w.serial)], [w], none⟩
  | .due => ⟨[.expire w.serial], [], [w], none⟩
  | .missed => ⟨[.expire w.serial, .look w], [], [], none⟩
  | .ended e => ⟨[], [], [], some e⟩

def Phase.IsLate : Phase → Prop
  | .due | .missed | .ended .timedOut => True
  | .looking | .waiting | .ended .reached => False

structure Stands (d : Desk) (w : Waiter) (deadline : Rat) (p : Phase) : Prop where
  share : d.share w.serial = p.share w deadline
  unmet : p = .waiting → d.tabs.issued.length < w.count
  late : p.IsLate → deadline ≤ d.clock

/-- What one move can make of a phase, where so many commands have been given. -/
inductive Turns (w : Waiter) (issued : Nat) : Phase → Phase → Prop
  | stays (p : Phase) : Turns w issued p p
  | woken : Turns w issued .waiting .looking
  | missed : Turns w issued .due .missed
  | reached (h : w.count ≤ issued) : Turns w issued .looking (.ended .reached)
  | waits (h : issued < w.count) : Turns w issued .looking .waiting
  | rings : Turns w issued .waiting .due
  | expires {p : Phase} (h : p = .due ∨ p = .missed) : Turns w issued p (.ended .timedOut)

theorem length_issued_run (d : Desk) (t : DeskTask) :
    d.tabs.issued.length ≤ (d.run t).tabs.issued.length := by
  cases t <;> simp [run, Tabs.issue]

theorem length_issued_move (d : Desk) (m : Move) :
    d.tabs.issued.length ≤ (d.move m).tabs.issued.length := by
  cases m with
  | issue | wait => simp [move, Tabs.issue]
  | issueLater | breakTabs => exact le_refl _
  | task =>
    cases hready : d.agenda.ready with
    | nil => rw [move_task_of_idle hready]
    | cons t rest =>
      rw [move_task_of_ready hready]
      exact length_issued_run (d.withReady rest) t
  | pass time =>
    unfold move
    dsimp only
    split <;> exact le_refl _

theorem length_issued_trail {d e : Desk} {moves : List Move} (he : e ∈ d.trail moves) :
    d.tabs.issued.length ≤ e.tabs.issued.length := by
  induction moves generalizing d with
  | nil => rw [List.mem_singleton.mp he]
  | cons m moves ih =>
    rcases List.mem_cons.mp he with rfl | he
    · exact le_refl _
    · exact (length_issued_move d m).trans (ih he)

namespace Stands

variable {d d' : Desk} {w : Waiter} {deadline : Rat} {p : Phase} {t : DeskTask}
  {rest : List DeskTask}

theorem of_same (h : d.Stands w deadline p) (hshare : d'.share w.serial = d.share w.serial)
    (htabs : d'.tabs.issued = d.tabs.issued) (hclock : d'.clock = d.clock) :
    d'.Stands w deadline p :=
  ⟨hshare.trans h.share, fun hp => htabs ▸ h.unmet hp, fun hp => hclock ▸ h.late hp⟩

theorem lt_nextSerial (h : d.Stands w deadline p) (ho : d.Orderly) : w.serial < d.nextSerial := by
  by_contra hle
  have hshare := h.share
  rw [ho.unborn _ (not_lt.mp hle)] at hshare
  cases p <;> cases hshare

/-- A wait whose deadline sleeps is in time. -/
theorem lt_deadline (h : d.Stands w deadline p) (ho : d.Orderly)
    (hp : p = .looking ∨ p = .waiting) : d.clock < deadline := by
  have hshare : (d.share w.serial).sleeping = [(deadline, .expire w.serial)] := by
    rw [h.share]
    obtain rfl | rfl := hp <;> rfl
  have hmem : (deadline, DeskTask.expire w.serial) ∈ (d.share w.serial).sleeping := by
    rw [hshare]
    exact List.mem_singleton.mpr rfl
  exact ho.later _ (List.mem_of_mem_filter hmem)

/-- Where nothing is ready a wait waits or is over. -/
theorem of_idle (h : d.Stands w deadline p) (hidle : d.agenda.ready = []) :
    p = .waiting ∨ ∃ e, p = .ended e := by
  have hready : (p.share w deadline).ready = [] := by
    rw [← h.share, Desk.share, hidle]
    rfl
  cases p with
  | waiting => exact .inl rfl
  | ended e => exact .inr ⟨e, rfl⟩
  | looking | due | missed => cases hready

theorem issue (h : d.Stands w deadline p) (ho : d.Orderly) (tab : Id) (url : String) :
    ∃ p', Turns w d.tabs.issued.length p p' ∧ (d.issue tab url).Stands w deadline p' := by
  have hshare := share_issue ho.recording ho.quiet tab url w.serial
  rw [h.share] at hshare
  have hclock := clock_issue d tab url
  cases p with
  | looking =>
    exact ⟨.looking, .stays _, hshare, nofun, fun hlate => hclock ▸ h.late hlate⟩
  | waiting =>
    exact ⟨.looking, .woken, hshare, nofun, False.elim⟩
  | due =>
    exact ⟨.missed, .missed, hshare, nofun, fun _ => hclock ▸ h.late trivial⟩
  | missed =>
    exact ⟨.missed, .stays _, hshare, nofun, fun hlate => hclock ▸ h.late hlate⟩
  | ended e =>
    exact ⟨.ended e, .stays _, hshare, nofun, fun hlate => hclock ▸ h.late hlate⟩

theorem run_other (h : d.Stands w deadline p) (ho : d.Orderly) (ht : isOf w.serial t = false) :
    ∃ p', Turns w d.tabs.issued.length p p' ∧ (d.run t).Stands w deadline p' := by
  cases t with
  | issue tab url => exact h.issue ho tab url
  | look v =>
    have hne : v.serial ≠ w.serial := by simpa [isOf] using ht
    exact ⟨p, .stays p, h.of_same (share_look hne) (by simp [run]) (by simp [run])⟩
  | expire serial =>
    have hne : serial ≠ w.serial := by simpa [isOf] using ht
    exact ⟨p, .stays p, h.of_same (share_finish hne _) rfl rfl⟩

theorem run_own (h : d.Stands w deadline p) (hready : d.agenda.ready = t :: rest)
    (ht : isOf w.serial t = true) :
    ∃ p', Turns w d.tabs.issued.length p p' ∧
      ((d.withReady rest).run t).Stands w deadline p' := by
  have hparts := (share_eq_of_own hready ht).symm.trans h.share
  cases p with
  | looking =>
    obtain ⟨hfirst, hsleeping, hwaiting, hended⟩ := Share.mk.inj hparts
    obtain ⟨rfl, hnone⟩ := List.cons.inj hfirst
    by_cases hmet : w.count ≤ d.tabs.issued.length
    · have hshare := share_look_of_met (d := d.withReady rest) hmet
      exact ⟨.ended .reached, .reached hmet, hshare, nofun, False.elim⟩
    · have hshare := share_look_of_unmet (d := d.withReady rest) (not_le.mp hmet)
      refine ⟨.waiting, .waits (not_le.mp hmet), hshare.trans ?_, fun _ => ?_, False.elim⟩
      · simp only [Phase.share, hnone, hsleeping, hwaiting, hended, List.nil_append]
      · simpa [run] using hmet
  | due =>
    obtain ⟨rfl, -⟩ := List.cons.inj (congrArg Share.ready hparts)
    exact ⟨.ended .timedOut, .expires (.inl rfl), share_finish_own _ _ _, nofun,
      fun _ => h.late trivial⟩
  | missed =>
    -- The deadline is ahead of the look.
    obtain ⟨rfl, -⟩ := List.cons.inj (congrArg Share.ready hparts)
    exact ⟨.ended .timedOut, .expires (.inr rfl), share_finish_own _ _ _, nofun,
      fun _ => h.late trivial⟩
  | waiting | ended => exact nomatch congrArg Share.ready hparts

theorem passTo (h : d.Stands w deadline p) (ho : d.Orderly) {time : Rat} (hcan : d.CanPass time) :
    ∃ p', Turns w d.tabs.issued.length p p' ∧ (d.passTo time).Stands w deadline p' := by
  have hshare := share_passTo ho.sorted time w.serial
  rw [h.share] at hshare
  obtain rfl | ⟨e, rfl⟩ := h.of_idle hcan.1
  · by_cases hdue : deadline ≤ time
    · refine ⟨.due, .rings, hshare.trans ?_, nofun, fun _ => hdue⟩
      simp [Phase.share, hdue]
    · refine ⟨.waiting, .stays _, hshare.trans ?_, fun _ => h.unmet rfl, False.elim⟩
      simp [Phase.share, hdue, not_le.mp hdue]
  · exact ⟨.ended e, .stays _, hshare, nofun, fun hlate => (h.late hlate).trans hcan.2.1⟩

/-- Each move takes a wait at most one turn further. -/
theorem move (h : d.Stands w deadline p) (ho : d.Orderly) (m : Move) :
    ∃ p', Turns w d.tabs.issued.length p p' ∧ (d.move m).Stands w deadline p' := by
  cases m with
  | issue tab url => exact h.issue ho tab url
  | issueLater seconds tab url =>
    refine ⟨p, .stays p, h.of_same ?_ rfl rfl⟩
    rw [Desk.move, issueLater]
    split
    · exact share_spawn rfl
    · exact share_sleepUntil rfl _
  | breakTabs failure => exact ⟨p, .stays p, h.of_same rfl rfl rfl⟩
  | wait count seconds =>
    have hshare := share_beginWait (h.lt_nextSerial ho).ne' count seconds
    exact ⟨p, .stays p, h.of_same hshare (by simp [Desk.move]) (by simp [Desk.move])⟩
  | task =>
    cases hready : d.agenda.ready with
    | nil =>
      rw [move_task_of_idle hready]
      exact ⟨p, .stays p, h⟩
    | cons t rest =>
      rw [move_task_of_ready hready]
      cases ht : isOf w.serial t with
      | true => exact h.run_own hready ht
      | false =>
        have hpopped : (d.withReady rest).Stands w deadline p :=
          h.of_same (share_withReady hready ht) rfl rfl
        exact hpopped.run_other (ho.withReady hready) ht
  | pass time =>
    by_cases hcan : d.CanPass time
    · rw [Desk.move, if_pos hcan]
      exact h.passTo ho hcan
    · rw [Desk.move, if_neg hcan]
      exact ⟨p, .stays p, h⟩

theorem play (h : d.Stands w deadline p) (ho : d.Orderly) {P : Phase → Prop} (hp : P p)
    (moves : List Move)
    (hP : ∀ e ∈ d.trail moves, e.Orderly → ∀ p p', e.Stands w deadline p → P p →
      Turns w e.tabs.issued.length p p' → P p') :
    ∃ p', P p' ∧ (d.play moves).Stands w deadline p' := by
  induction moves generalizing d p with
  | nil => exact ⟨p, hp, h⟩
  | cons m moves ih =>
    obtain ⟨p', hturns, h'⟩ := h.move ho m
    exact ih h' (ho.move m) (hP d List.mem_cons_self ho p p' h hp hturns)
      fun e he => hP e (List.mem_cons_of_mem _ he)

theorem exists_play (h : d.Stands w deadline p) (ho : d.Orderly) (moves : List Move) :
    ∃ p', (d.play moves).Stands w deadline p' := by
  obtain ⟨p', -, h'⟩ := h.play ho (P := fun _ => True) trivial moves fun _ _ _ _ _ _ _ _ => trivial
  exact ⟨p', h'⟩

theorem play_ended {e : WaitEnd} (h : d.Stands w deadline (.ended e)) (ho : d.Orderly)
    (moves : List Move) : (d.play moves).Stands w deadline (.ended e) := by
  obtain ⟨p', rfl, h'⟩ := h.play ho (P := (· = .ended e)) rfl moves fun _ _ _ p p' _ hp hturns => by
    subst hp
    cases hturns with
    | stays => rfl
    | expires hp => simp at hp
  exact h'

theorem play_late (h : d.Stands w deadline p) (ho : d.Orderly) (hlate : p.IsLate)
    (moves : List Move) : ∃ p' : Phase, p'.IsLate ∧ (d.play moves).Stands w deadline p' := by
  refine h.play ho hlate moves fun _ _ _ p p' _ hp hturns => ?_
  cases hturns with
  | stays => exact hp
  | missed | expires => trivial
  | woken | reached | waits | rings => exact hp.elim

/-- A wait whose number has been reached in time is not kept from returning. -/
theorem play_met (h : d.Stands w deadline p) (ho : d.Orderly)
    (hmet : w.count ≤ d.tabs.issued.length) (hp : p = .looking ∨ p = .ended .reached)
    (moves : List Move) :
    ∃ p', (p' = .looking ∨ p' = .ended .reached) ∧ (d.play moves).Stands w deadline p' := by
  refine h.play ho hp moves fun e he _ p p' _ hp hturns => ?_
  have hstill : w.count ≤ e.tabs.issued.length :=
    hmet.trans (Int.ofNat_le.mpr (length_issued_trail he))
  cases hturns with
  | stays => exact hp
  | reached => exact .inr rfl
  | waits hunmet => exact absurd hstill (not_le.mpr hunmet)
  | woken | missed | rings => simp at hp
  | expires hlate =>
    obtain rfl | rfl := hlate <;> simp at hp

/-- A wait does not return as long as its number is not reached in time. -/
theorem play_unmet (h : d.Stands w deadline p) (ho : d.Orderly) (hp : p ≠ .ended .reached)
    (moves : List Move)
    (hunmet : ∀ e ∈ d.trail moves, e.clock ≤ deadline → e.tabs.issued.length < w.count) :
    ∃ p', p' ≠ .ended .reached ∧ (d.play moves).Stands w deadline p' := by
  refine h.play ho hp moves fun e he heo p p' hstands hp hturns => ?_
  cases hturns with
  | stays => exact hp
  | reached hmet =>
    have hlt := hunmet e he (hstands.lt_deadline heo (.inl rfl)).le
    exact absurd hmet (not_le.mpr hlt)
  | woken | missed | waits | rings | expires => nofun

theorem of_beginWait (ho : d.Orderly) (count : Int) {seconds : Rat} (hpos : 0 < seconds) :
    (d.beginWait count seconds).2.Stands ⟨d.nextSerial, count⟩ (d.clock + seconds) .looking :=
  ⟨share_beginWait_own (ho.unborn _ (le_refl _)) count hpos, nofun, False.elim⟩

theorem ended_eq (h : d.Stands w deadline p) :
    d.ended.lookup w.serial = (p.share w deadline).ended :=
  congrArg Share.ended h.share

/-- The phase of a wait whose number is reached before its deadline. -/
theorem of_met (h : d.Stands w deadline p) (hmet : w.count ≤ d.tabs.issued.length)
    (hclock : d.clock < deadline) : p = .looking ∨ p = .ended .reached := by
  have hintime : ¬ p.IsLate := fun hlate => absurd (h.late hlate) (not_le.mpr hclock)
  cases p with
  | looking => exact .inl rfl
  | waiting => exact absurd hmet (not_le.mpr (h.unmet rfl))
  | due | missed => exact absurd trivial hintime
  | ended e =>
    cases e with
    | reached => exact .inr rfl
    | timedOut => exact absurd trivial hintime

/-- A wait that has not returned by its deadline is too late to do so. -/
theorem isLate_of_le (h : d.Stands w deadline p) (ho : d.Orderly) (hp : p ≠ .ended .reached)
    (hclock : deadline ≤ d.clock) : p.IsLate := by
  cases p with
  | looking => exact absurd hclock (not_le.mpr (h.lt_deadline ho (.inl rfl)))
  | waiting => exact absurd hclock (not_le.mpr (h.lt_deadline ho (.inr rfl)))
  | due | missed => trivial
  | ended e =>
    cases e with
    | reached => exact absurd rfl hp
    | timedOut => trivial

/-- From the moment at which the number is reached only a look stands in the way. -/
theorem returns (h : d.Stands w deadline .looking) (ho : d.Orderly) {during : List Move}
    (hmet : ∃ m ∈ d.trail during, m.clock < deadline ∧ w.count ≤ m.tabs.issued.length) :
    (d.play during).settle.ended.lookup w.serial = some .reached := by
  obtain ⟨m, hm, hclock, hcount⟩ := hmet
  obtain ⟨first, later, rfl, rfl⟩ := mem_trail_iff.mp hm
  obtain ⟨own, hsettle, hidle⟩ := (ho.play (first ++ later)).exists_play_settle
  have hwhole : (d.play (first ++ later)).play own = (d.play first).play (later ++ own) := by
    rw [play_append, play_append]
  rw [hwhole] at hsettle hidle
  rw [hsettle]
  obtain ⟨p, hp⟩ := h.exists_play ho first
  obtain ⟨p', hp', h'⟩ :=
    hp.play_met (ho.play first) hcount (hp.of_met hcount hclock) (later ++ own)
  obtain rfl | rfl := hp'
  · obtain hwaits | ⟨r, hended⟩ := h'.of_idle hidle
    · cases hwaits
    · cases hended
  · exact h'.ended_eq

/-- Once the deadline has passed unmet only its task stands in the way. -/
theorem fails (h : d.Stands w deadline .looking) (ho : d.Orderly) {during : List Move}
    (hunmet : ∀ m ∈ d.trail during, m.clock ≤ deadline → m.tabs.issued.length < w.count)
    (hclock : deadline ≤ (d.play during).clock) :
    (d.play during).settle.ended.lookup w.serial = some .timedOut := by
  have hlater := ho.play during
  obtain ⟨own, hsettle, hidle⟩ := hlater.exists_play_settle
  obtain ⟨p, hp, hstands⟩ := h.play_unmet ho nofun during hunmet
  obtain ⟨p', hlate, h'⟩ := hstands.play_late hlater (hstands.isLate_of_le hlater hp hclock) own
  rw [hsettle]
  obtain rfl | ⟨_ | _, rfl⟩ := h'.of_idle hidle
  · exact hlate.elim
  · exact hlate.elim
  · exact h'.ended_eq

/-- A wait has one end only. -/
theorem ended_play (h : d.Stands w deadline p) (ho : d.Orderly) {r : WaitEnd}
    (hr : d.ended.lookup w.serial = some r) (later : List Move) :
    (d.play later).ended.lookup w.serial = some r := by
  rw [h.ended_eq] at hr
  cases p with
  | ended e => exact (h.play_ended ho later).ended_eq.trans hr
  | looking | waiting | due | missed => cases hr

/-- A desk that is left to itself brings a wait to its end. -/
theorem ends (h : d.Stands w deadline p) (ho : d.Orderly) :
    ∃ own r, d.runUntil (some w.serial) d.bound = d.play own ∧
      (d.play own).ended.lookup w.serial = some r := by
  have hrest := ho.step?_runUntil (some w.serial) d.weight_le_bound
  obtain ⟨own, hown⟩ := ho.exists_play_runUntil (some w.serial) d.bound
  rw [hown] at hrest
  obtain ⟨hidle, hasleep⟩ := step?_eq_none_iff.mp hrest
  obtain ⟨p', h'⟩ := h.exists_play ho own
  obtain rfl | ⟨r, rfl⟩ := h'.of_idle hidle
  · -- A wait that is not over has a deadline that sleeps, so that time would have passed.
    have hnone : (d.play own).agenda.sleeping = [] :=
      hasleep (by simp [mayPass, h'.ended_eq, Phase.share])
    have hsleeping := congrArg Share.sleeping h'.share
    simp [Desk.share, hnone, Phase.share] at hsleeping
  · exact ⟨own, r, hown, h'.ended_eq⟩

end Stands

/-- However many waits there are at a desk, begun at any time for any number and any while, and
whoever gives commands at any time, also ones that fail: a wait returns if so many commands have been
given before its deadline, and fails if by its deadline they have not. It has done so once nothing is
ready any more, it has one end only, and a desk that is left to itself brings it there, which is what
`waitFor` answers. -/
theorem no_wakeup_lost (failure : Option Failure) (start : Rat) (before during : List Move)
    (count : Int) {seconds : Rat} (hpos : 0 < seconds) :
    let d := (opening failure start).play before
    let serial := (d.beginWait count seconds).1
    let begun := (d.beginWait count seconds).2
    let deadline := d.clock + seconds
    let e := begun.play during
    ((∃ m ∈ begun.trail during, m.clock < deadline ∧ count ≤ m.tabs.issued.length) →
      e.settle.ended.lookup serial = some .reached) ∧
    ((∀ m ∈ begun.trail during, m.clock ≤ deadline → m.tabs.issued.length < count) →
      deadline ≤ e.clock → e.settle.ended.lookup serial = some .timedOut) ∧
    (∀ r, e.ended.lookup serial = some r →
      ∀ later, (e.play later).ended.lookup serial = some r) ∧
    (∃ own r, e.runUntil (some serial) e.bound = e.play own ∧
      (e.play own).ended.lookup serial = some r) ∧
    ∃ own, (d.waitFor count seconds).2 = begun.play own ∧
      (begun.play own).ended.lookup serial = some (d.waitFor count seconds).1 := by
  intro d serial begun deadline e
  have ho : d.Orderly := (Orderly.opening failure start).play before
  have hbegun : begun.Orderly := ho.beginWait count seconds
  have hserial : serial = d.nextSerial := serial_beginWait d count seconds
  have hlooks : begun.Stands ⟨d.nextSerial, count⟩ deadline .looking := .of_beginWait ho count hpos
  obtain ⟨p, hstands⟩ := hlooks.exists_play hbegun during
  rw [hserial]
  refine ⟨hlooks.returns hbegun, hlooks.fails hbegun, fun r hr later => ?_, ?_, ?_⟩
  · exact hstands.ended_play (hbegun.play during) hr later
  · exact hstands.ends (hbegun.play during)
  · obtain ⟨own, r, hown, hr⟩ := hlooks.ends hbegun
    have hanswer : d.waitFor count seconds =
        (((begun.runUntil (some serial) begun.bound).ended.lookup serial).getD .timedOut,
          begun.runUntil (some serial) begun.bound) := rfl
    rw [hserial, hown, hr, Option.getD_some] at hanswer
    exact ⟨own, by rw [hanswer], by rw [hanswer, hr]⟩

def sampleDesk : Desk := (opening none 0).play [.wait 2 5]

/-- Two that wait take the signal back, one after the other. Then a command is given, both look
again, and time passes. -/
def sampleMoves : List Move :=
  [.task, .task, .pass 1, .issue (.number 1) "https://a.example/", .task, .task, .pass 5]

/-- The one that waits for a command returns, and the one that waits for two fails. -/
theorem command_wakes_both : (0 : Rat) < 3 ∧
    ((sampleDesk.beginWait 1 3).2.play sampleMoves).settle.ended.lookup 1 = some .reached ∧
    (0 : Rat) < 5 ∧
    (((opening none 0).beginWait 2 5).2.play (.wait 1 3 :: sampleMoves)).settle.ended.lookup 0 =
      some .timedOut := by
  refine ⟨by decide, ?_, by decide, ?_⟩
  · refine (no_wakeup_lost none 0 [.wait 2 5] sampleMoves 1 (by decide : (0 : Rat) < 3)).1
      ⟨(sampleDesk.beginWait 1 3).2.play (sampleMoves.take 4), ?_, ?_, ?_⟩
    · exact mem_trail_iff.mpr ⟨sampleMoves.take 4, sampleMoves.drop 4, rfl, rfl⟩
    · decide +kernel
    · decide +kernel
  · refine (no_wakeup_lost none 0 [] (.wait 1 3 :: sampleMoves) 2
      (by decide : (0 : Rat) < 5)).2.1 ?_ ?_
    · decide +kernel
    · decide +kernel

end Detour.Tabs.Desk
