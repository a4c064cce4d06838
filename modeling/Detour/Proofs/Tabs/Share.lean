import Detour.Proofs.Agenda
import Detour.Tabs.Wait

/-!
# What a desk holds of one wait

A wait is known by its serial number. Of its tasks, its place among those who wait for the signal
and its end (`Desk.share`) nothing changes when a task of another wait runs. The signal turns its
place into a task, and time that passes wakes its deadline.
-/
namespace Detour.Tabs.Desk

/-- What a desk holds of one wait. -/
structure Share where
  ready : List DeskTask
  sleeping : List (Rat × DeskTask)
  waiting : List Waiter
  ended : Option WaitEnd

def share (d : Desk) (serial : Nat) : Share where
  ready := d.agenda.ready.filter (isOf serial)
  sleeping := d.agenda.sleeping.filter (isOf serial ·.2)
  waiting := d.waiting.filter (·.serial = serial)
  ended := d.ended.lookup serial

def withReady (d : Desk) (ready : List DeskTask) : Desk :=
  { d with agenda := { d.agenda with ready } }

def passTo (d : Desk) (time : Rat) : Desk := { d with clock := time, agenda := d.agenda.wakeAt time }

variable {d : Desk} {s serial : Nat} {t : DeskTask} {rest : List DeskTask}

@[simp] theorem waiting_withReady : (d.withReady rest).waiting = d.waiting := rfl

@[simp] theorem sleeping_withReady :
    (d.withReady rest).agenda.sleeping = d.agenda.sleeping := rfl

@[simp] theorem tabs_withReady : (d.withReady rest).tabs = d.tabs := rfl

@[simp] theorem clock_withReady : (d.withReady rest).clock = d.clock := rfl

theorem isOf_look (w : Waiter) : isOf w.serial (.look w) = true := by
  simp [isOf]

theorem isOf_expire (serial : Nat) : isOf serial (.expire serial) = true := by
  simp [isOf]

theorem isOf_of_ne (hne : serial ≠ s) (h : isOf serial t = true) : isOf s t = false := by
  cases t <;> simp_all [isOf]

theorem share_spawn (h : isOf s t = false) :
    ({ d with agenda := d.agenda.spawn t } : Desk).share s = d.share s := by
  simp [share, Agenda.spawn, h]

theorem share_sleepUntil (h : isOf s t = false) (due : Rat) :
    ({ d with agenda := d.agenda.sleepUntil due t } : Desk).share s = d.share s := by
  simp only [share, Agenda.sleepUntil]
  rw [Agenda.filter_insertSleeper h]

theorem share_withReady (hready : d.agenda.ready = t :: rest) (h : isOf s t = false) :
    (d.withReady rest).share s = d.share s := by
  simp [share, withReady, hready, h]

theorem share_eq_of_own (hready : d.agenda.ready = t :: rest) (h : isOf s t = true) :
    d.share s = { (d.withReady rest).share s with
      ready := t :: ((d.withReady rest).share s).ready } := by
  simp [share, withReady, hready, h]

/-- All that wait are woken; nobody waits while the signal is up. -/
theorem signal_eq (h : d.signalled = true → d.waiting = []) : d.signal =
    { d with signalled := true, waiting := []
             agenda := { d.agenda with ready := d.agenda.ready ++ d.waiting.map .look } } := by
  unfold signal
  split
  · next hup =>
    have hnone := h hup
    cases d
    simp_all
  · rw [Agenda.foldl_spawn]

theorem issue_eq (hrecording : d.tabs.surface = .recording) (h : d.signalled = true → d.waiting = [])
    (tab : Id) (url : String) : d.issue tab url =
    { d with tabs := d.tabs.issue tab url, log := d.log ++ d.tabs.notices tab url
             signalled := true, waiting := []
             agenda := { d.agenda with ready := d.agenda.ready ++ d.waiting.map .look } } := by
  have hissue : d.issue tab url = ({ d with
      tabs := d.tabs.issue tab url, log := d.log ++ d.tabs.notices tab url } : Desk).signal := by
    simp [issue, Tabs.issue, hrecording]
  exact hissue.trans (signal_eq h)

theorem share_issue (hrecording : d.tabs.surface = .recording)
    (h : d.signalled = true → d.waiting = []) (tab : Id) (url : String) (s : Nat) :
    (d.issue tab url).share s = { d.share s with
      ready := (d.share s).ready ++ (d.share s).waiting.map .look, waiting := [] } := by
  rw [issue_eq hrecording h]
  simp only [share, List.filter_append, List.filter_map, Function.comp_def, isOf, List.filter_nil]

theorem tabs_signal (d : Desk) : d.signal.tabs = d.tabs := by
  unfold signal
  split <;> rfl

theorem clock_signal (d : Desk) : d.signal.clock = d.clock := by
  unfold signal
  split <;> rfl

@[simp] theorem tabs_issue (d : Desk) (tab : Id) (url : String) :
    (d.issue tab url).tabs = d.tabs.issue tab url := by
  unfold issue
  dsimp only
  split
  · exact tabs_signal _
  · rfl

@[simp] theorem clock_issue (d : Desk) (tab : Id) (url : String) :
    (d.issue tab url).clock = d.clock := by
  unfold issue
  dsimp only
  split
  · exact clock_signal _
  · rfl

theorem share_finish (h : serial ≠ s) (e : WaitEnd) : (d.finish serial e).share s = d.share s := by
  have hspared : ∀ t, (isOf s t && !isOf serial t) = isOf s t := fun t => by
    cases ht : isOf s t with
    | false => rfl
    | true => simp [isOf_of_ne h.symm ht]
  have hplace : ∀ w : Waiter, (decide (w.serial = s) && (w.serial != serial)) =
      decide (w.serial = s) := fun w => by
    by_cases hw : w.serial = s
    · simp [hw, h.symm]
    · simp [hw]
  have hother : (s == serial) = false := beq_false_of_ne h.symm
  simp [share, finish, Agenda.cancel, List.filter_filter, hspared, hplace, List.lookup_cons, hother]

@[simp] theorem tabs_finish (d : Desk) (serial : Nat) (e : WaitEnd) :
    (d.finish serial e).tabs = d.tabs := rfl

/-- Nothing is left of a wait but how it has ended. -/
theorem share_finish_own (d : Desk) (serial : Nat) (e : WaitEnd) :
    (d.finish serial e).share serial = ⟨[], [], [], some e⟩ := by
  simp [share, finish, Agenda.cancel, List.filter_filter]

section Look

variable {w : Waiter}

theorem look_of_met (h : w.count ≤ d.tabs.issued.length) :
    d.look w = d.finish w.serial .reached :=
  if_pos h

theorem look_of_unmet (h : d.tabs.issued.length < w.count) :
    d.look w = { d with signalled := false, waiting := d.waiting ++ [w] } :=
  if_neg (not_le.mpr h)

@[simp] theorem tabs_look (d : Desk) (w : Waiter) : (d.look w).tabs = d.tabs := by
  unfold look
  split <;> rfl

@[simp] theorem clock_look (d : Desk) (w : Waiter) : (d.look w).clock = d.clock := by
  unfold look
  split <;> rfl

theorem share_look (h : w.serial ≠ s) : (d.look w).share s = d.share s := by
  by_cases hmet : w.count ≤ d.tabs.issued.length
  · rw [look_of_met hmet]
    exact share_finish h _
  · rw [look_of_unmet (not_le.mp hmet)]
    simp [share, h]

theorem share_look_of_met (h : w.count ≤ d.tabs.issued.length) :
    (d.look w).share w.serial = ⟨[], [], [], some .reached⟩ := by
  rw [look_of_met h]
  exact share_finish_own d w.serial .reached

theorem share_look_of_unmet (h : d.tabs.issued.length < w.count) :
    (d.look w).share w.serial = { d.share w.serial with
      waiting := (d.share w.serial).waiting ++ [w] } := by
  rw [look_of_unmet h]
  simp [share]

end Look

theorem beginWait_of_pos {seconds : Rat} (h : 0 < seconds) (count : Int) :
    d.beginWait count seconds = (d.nextSerial, { d with
      nextSerial := d.nextSerial + 1
      agenda := (d.agenda.sleepUntil (d.clock + seconds) (.expire d.nextSerial)).spawn
        (.look ⟨d.nextSerial, count⟩) }) :=
  if_neg (not_le.mpr h)

theorem beginWait_of_not_pos {seconds : Rat} (h : seconds ≤ 0) (count : Int) :
    d.beginWait count seconds = (d.nextSerial,
      ({ d with nextSerial := d.nextSerial + 1 } : Desk).finish d.nextSerial .timedOut) :=
  if_pos h

@[simp] theorem serial_beginWait (d : Desk) (count : Int) (seconds : Rat) :
    (d.beginWait count seconds).1 = d.nextSerial := by
  unfold beginWait
  dsimp only
  split <;> rfl

@[simp] theorem tabs_beginWait (d : Desk) (count : Int) (seconds : Rat) :
    (d.beginWait count seconds).2.tabs = d.tabs := by
  unfold beginWait
  dsimp only
  split <;> rfl

@[simp] theorem clock_beginWait (d : Desk) (count : Int) (seconds : Rat) :
    (d.beginWait count seconds).2.clock = d.clock := by
  unfold beginWait
  dsimp only
  split <;> rfl

theorem share_beginWait (h : d.nextSerial ≠ s) (count : Int) (seconds : Rat) :
    (d.beginWait count seconds).2.share s = d.share s := by
  rcases le_or_gt seconds 0 with hsome | hpos
  · rw [beginWait_of_not_pos hsome]
    exact share_finish h _
  · have hlook : isOf s (.look ⟨d.nextSerial, count⟩) = false := by simp [isOf, h]
    have hexpire : isOf s (.expire d.nextSerial) = false := by simp [isOf, h]
    rw [beginWait_of_pos hpos]
    exact (share_spawn (d := { d with
      agenda := d.agenda.sleepUntil (d.clock + seconds) (.expire d.nextSerial) }) hlook).trans
        (share_sleepUntil hexpire _)

/-- A new wait has a deadline and looks at once. -/
theorem share_beginWait_own (hnew : d.share d.nextSerial = ⟨[], [], [], none⟩) (count : Int)
    {seconds : Rat} (h : 0 < seconds) :
    (d.beginWait count seconds).2.share d.nextSerial =
      ⟨[.look ⟨d.nextSerial, count⟩], [(d.clock + seconds, .expire d.nextSerial)], [], none⟩ := by
  obtain ⟨hready, hsleeping, hwaiting, hended⟩ := Share.mk.inj hnew
  rw [beginWait_of_pos h]
  simp only [share, Agenda.spawn, Agenda.sleepUntil, List.filter_append, hready, hwaiting, hended]
  rw [Agenda.filter_insertSleeper_of_nil (isOf_expire _) hsleeping]
  simp [isOf]

theorem share_passTo (h : d.agenda.sleeping.Pairwise fun e f => e.1 ≤ f.1) (time : Rat) (s : Nat) :
    (d.passTo time).share s = { d.share s with
      ready := (d.share s).ready ++ ((d.share s).sleeping.filter (·.1 ≤ time)).map (·.2)
      sleeping := (d.share s).sleeping.filter (time < ·.1) } := by
  simp only [share, passTo, Agenda.ready_wakeAt, Agenda.sleeping_wakeAt, Agenda.takeWhile_due h,
    Agenda.dropWhile_due h, List.filter_append, List.filter_map, Function.comp_def]
  rw [List.filter_comm, List.filter_comm (fun e : Rat × DeskTask => decide (time < e.1))]

end Detour.Tabs.Desk
