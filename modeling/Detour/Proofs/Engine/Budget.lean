import Detour.Proofs.Engine.Leading

/-!
# What a task may lead to

Whatever a task leads to takes fewer steps than the task itself, and no more turns by any time
(`Engine.Affords`, `Engine.runTask_affords`): a record that is read uses up its lines, and an alarm
sleeps for a whole period.
-/
namespace Detour

/-- The task of an alarm that is ready is not late: it is to be started, or it is due now. -/
def AlarmTask.Timely (t : AlarmTask) (now : Rat) : Prop :=
  t.period.isPositive = true ∧ (t.due = none ∨ t.due = some now)

namespace Engine

variable {g h k : Settings × Stage World} {new : List Task} {asleep : Option (Rat × Task)}
  {w w' : World} {now : Rat} {m n : Nat} {turns : Rat → Nat} {aside : Prop}

/-- How often a task can still be woken by some time, if it is ready or woken at another. -/
def wakes (w : World) (limit time : Rat) : Task → Nat
  | .openRecord _ path => lineCount w path
  | .read _ r => r.lines.length
  | t => laps limit time t

def wakesAsleep (w : World) (limit : Rat) (e : Rat × Task) : Nat :=
  if e.1 ≤ limit then wakes w limit e.1 e.2 + 1 else 0

/-- What is new takes less than so many steps and no more than so many turns, and no alarm in it is
late. -/
structure Budget (w : World) (now : Rat) (steps : Nat) (turns : Rat → Nat) (new : List Task)
    (asleep : Option (Rat × Task)) : Prop where
  steps : totalWeight w new < steps
  turns : ∀ limit,
    (new.map (wakes w limit now)).sum + asleep.elim 0 (wakesAsleep w limit) ≤ turns limit
  alarms : ∀ x, .alarm x ∉ new
  later : ∀ e, asleep = some e → now < e.1
  due : ∀ due x, asleep = some (due, .alarm x) → x.period.isPositive = true ∧ x.due = some due

/-- What is new stays within a budget, and has nothing to do with a caller, if that is asked for. -/
def Affords (steps : Nat) (turns : Rat → Nat) (aside : Prop) (g h : Settings × Stage World) : Prop :=
  ∃ new asleep, Leads new asleep g h ∧
    Budget g.2.scene.world g.2.scene.clock steps turns new asleep ∧ (aside → Aside new asleep g h)

theorem totalWeight_append (w : World) (l l' : List Task) :
    totalWeight w (l ++ l') = totalWeight w l + totalWeight w l' := by
  induction l with
  | nil => exact (Nat.zero_add _).symm
  | cons t rest ih => rw [List.cons_append, totalWeight, totalWeight, ih, Nat.add_assoc]

theorem lineCount_congr (hfiles : w'.files = w.files) (hinput : w'.input = w.input) :
    lineCount w' = lineCount w := by
  funext path
  rw [lineCount, lineCount, hfiles, hinput]

theorem weight_congr (hfiles : w'.files = w.files) (hinput : w'.input = w.input) :
    weight w' = weight w := by
  funext t
  unfold weight
  rw [lineCount_congr hfiles hinput]

theorem wakes_congr (hfiles : w'.files = w.files) (hinput : w'.input = w.input) :
    wakes w' = wakes w := by
  funext limit time t
  unfold wakes
  rw [lineCount_congr hfiles hinput]

theorem totalWeight_congr (hfiles : w'.files = w.files)
    (hinput : w'.input = w.input) : totalWeight w' = totalWeight w := by
  funext l
  induction l with
  | nil => rfl
  | cons t rest ih => rw [totalWeight, totalWeight, ih, weight_congr hfiles hinput]

theorem Budget.congr (h : Budget w now n turns new asleep) (hfiles : w'.files = w.files)
    (hinput : w'.input = w.input) : Budget w' now n turns new asleep := by
  refine { h with steps := ?_, turns := fun limit => ?_ }
  · rw [totalWeight_congr hfiles hinput]
    exact h.steps
  · have hwakes := wakes_congr hfiles hinput
    have hasleep : wakesAsleep w' limit = wakesAsleep w limit := by
      funext e
      rw [wakesAsleep, wakesAsleep, hwakes]
    rw [hwakes, hasleep]
    exact h.turns limit

theorem budget_of_awake (hsteps : totalWeight w new < n)
    (hturns : ∀ limit, (new.map (wakes w limit now)).sum ≤ turns limit)
    (halarms : ∀ x, .alarm x ∉ new) : Budget w now n turns new none :=
  ⟨hsteps, hturns, halarms, (fun _ h => by cases h), fun _ _ h => by cases h⟩

theorem Budget.after_redirects {more : List Task} (h : Budget w now n turns more asleep)
    (hnew : ∀ t ∈ new, ∃ tab url, t = .navigate tab url) :
    Budget w now (new.length + n) turns (new ++ more) asleep := by
  induction new with
  | nil => exact { h with steps := h.steps.trans_le (Nat.le_add_left n _) }
  | cons t rest ih =>
    obtain ⟨tab, url, rfl⟩ := hnew t (by simp)
    have hrest := ih fun u hu => hnew u (by simp [hu])
    have hweight : weight w (.navigate tab url) = 1 := rfl
    refine { hrest with steps := ?_, turns := fun limit => ?_, alarms := fun x hx => ?_ }
    · have hsteps := hrest.steps
      rw [List.cons_append, totalWeight, List.length_cons, hweight]
      omega
    · have hturns := hrest.turns limit
      rw [List.cons_append, List.map_cons, List.sum_cons]
      change 0 + _ + _ ≤ _
      omega
    · rcases List.mem_cons.mp hx with hx | hx
      · cases hx
      · exact hrest.alarms x hx

theorem Affords.mono (hg : Affords m turns aside g h) (hle : m ≤ n) :
    Affords n turns aside g h := by
  obtain ⟨new, asleep, hleads, hbudget, haside⟩ := hg
  exact ⟨new, asleep, hleads, { hbudget with steps := hbudget.steps.trans_le hle }, haside⟩

/-- Redirects come before whatever else is new. -/
theorem Redirects.affords (hg : Redirects m g h) (hh : Affords n turns aside h k) :
    Affords (m + n) turns aside g k := by
  obtain ⟨new, hlength, hnew, hleads, hanswer⟩ := hg
  obtain ⟨more, asleep, hmore, hbudget, haside⟩ := hh
  have hshared := hbudget.congr hleads.files.symm hleads.input.symm
  rw [hleads.clock] at hshared
  have hsum := hshared.after_redirects hnew
  refine ⟨new ++ more, asleep, hleads.trans hmore,
    { hsum with steps := hsum.steps.trans_le (by omega) }, fun h => ?_⟩
  obtain ⟨hsilent, hready, hasleep⟩ := haside h
  refine ⟨hsilent.trans hanswer, fun r hr => ?_, hasleep⟩
  rcases List.mem_append.mp hr with hr | hr
  · obtain ⟨tab, url, hnavigate⟩ := hnew _ hr
    cases hnavigate
  · exact hready r hr

theorem affords_of_nothing (hleads : Leads [] none g h) (hn : 0 < n)
    (hanswer : aside → h.2.scene.world.answer = g.2.scene.world.answer) :
    Affords n turns aside g h :=
  ⟨[], none, hleads, budget_of_awake hn (fun _ => Nat.zero_le _) fun _ => List.not_mem_nil,
    fun h => aside_of_awake (hanswer h) fun _ => List.not_mem_nil⟩

theorem affords_of_stops (hstops : Stops g h) : Affords 2 turns aside g h := by
  obtain ⟨new, rfl | rfl, hleads, hanswer⟩ := hstops
  · exact affords_of_nothing hleads Nat.zero_lt_two fun _ => hanswer
  · exact ⟨[.exit], none, hleads,
      budget_of_awake Nat.one_lt_two (fun _ => Nat.zero_le _) (by simp),
      fun _ => aside_of_awake hanswer (by simp)⟩

theorem endReading_affords (who : Reader) (result : Except Failure Nat)
    (g : Settings × Stage World) :
    Affords 2 turns (who ≠ .caller) g (after (endReading who result) g) := by
  cases who with
  | caller =>
    exact affords_of_nothing (.of_agenda rfl rfl rfl rfl rfl) Nat.zero_lt_two fun h => absurd rfl h
  | background serial path => exact affords_of_stops (stops_after_endBackground serial path result g)

/-- The rest of a reading takes two steps for every line, and one turn. -/
theorem slept_affords (who : Reader) {r : Reading} (hn : r.lines.length < n) (due : Rat)
    (g : Settings × Stage World) :
    Affords (2 * r.lines.length + 4) (fun _ => n) (who ≠ .caller) g (slept due (.read who r) g) := by
  rcases slept_leads due (.read who r) g with ⟨-, hleads⟩ | ⟨hlt, hleads⟩
  · refine ⟨[.read who r], none, hleads, budget_of_awake ?_ (fun limit => ?_) (by simp),
      fun hwho => aside_of_awake rfl fun r' hr' => hwho ?_⟩
    · simp [totalWeight, weight]
    · simpa [wakes] using hn.le
    · simp_all
  · refine ⟨_, _, hleads, ⟨Nat.succ_pos _, fun limit => ?_, fun _ => List.not_mem_nil, ?_, ?_⟩,
      fun hwho => ⟨rfl, fun _ => List.not_mem_nil, fun due' r' hr' => hwho ?_⟩⟩
    · simp only [List.map_nil, List.sum_nil, Option.elim, wakesAsleep, wakes]
      split <;> omega
    · rintro _ ⟨⟩
      exact hlt
    · rintro _ _ ⟨⟩
    · simp_all

theorem goOn_affords (who : Reader) (ending : Option Text.Utf8.Fault) (number events : Nat)
    (lines : List String) (g : Settings × Stage World) :
    Affords (2 * lines.length - (Reading.upToWait lines).length + 3) (fun _ => lines.length)
      (who ≠ .caller) g (after (goOn who (Reading.stateThere ending number events lines)) g) := by
  have hlength := Reading.length_upToWait_le lines
  cases hstate : Reading.stateThere ending number events lines with
  | ended result => exact (endReading_affords who result g).mono (by omega)
  | waits p r =>
    have hless := Reading.length_of_waits hstate
    cases p with
    | tooLong => exact (endReading_affords who _ g).mono (by omega)
    | endless =>
      exact affords_of_nothing (.of_agenda rfl rfl rfl rfl rfl) (Nat.succ_pos _) fun _ => rfl
    | seconds s =>
      have hslept := slept_affords who (show r.lines.length < lines.length by omega)
        (g.2.scene.clock + s) g
      exact hslept.mono (by omega)

theorem readOn_affords (hchain : g.2.addons.chain = Chain.standard) (who : Reader) (r : Reading) :
    Affords (2 * r.lines.length + 3) (fun _ => r.lines.length) (who ≠ .caller) g
      (after (readOn who r) g) := by
  obtain ⟨h, hread, hredirects⟩ := forM_hand_spec hchain (Reading.upToWait r.lines)
  have hlength := Reading.length_upToWait_le r.lines
  have hrest := hredirects.affords (goOn_affords who r.ending r.number r.events r.lines h)
  rw [← after_of_eq (readOn_of_forM who hread)] at hrest
  exact hrest.mono (by omega)

theorem openRecord_of_ok (who : Reader) {path : String} {r : Reading}
    (h : Reading.ofFile g.2.scene.world.files g.2.scene.world.input path = .ok r) :
    openRecord who path g = readOn who r g := by
  have hworld : world g = .ok g.2.scene.world g := rfl
  rw [openRecord, bind_of_ok hworld, h]

theorem openRecord_of_error (who : Reader) {path : String} {f : Failure}
    (h : Reading.ofFile g.2.scene.world.files g.2.scene.world.input path = .error f) :
    openRecord who path g = endReading who (.error f) g := by
  have hworld : world g = .ok g.2.scene.world g := rfl
  rw [openRecord, bind_of_ok hworld, h]

/-- It takes two steps for every line of the file that is opened, and one turn. -/
theorem openRecord_affords (hchain : g.2.addons.chain = Chain.standard) (who : Reader)
    (path : String) :
    Affords (2 * lineCount g.2.scene.world path + 3) (fun _ => lineCount g.2.scene.world path)
      (who ≠ .caller) g (after (openRecord who path) g) := by
  cases hfile : Reading.ofFile g.2.scene.world.files g.2.scene.world.input path with
  | ok r =>
    have hcount : lineCount g.2.scene.world path = r.lines.length := by rw [lineCount, hfile]
    rw [after_of_eq (openRecord_of_ok who hfile), hcount]
    exact readOn_affords hchain who r
  | error f =>
    rw [after_of_eq (openRecord_of_error who hfile)]
    exact (endReading_affords who _ g).mono (by omega)

/-- One that has run sleeps for a period, unless its alarm is not to go off again. -/
theorem afterAlarm_agenda {t : AlarmTask} {s : Scene World} (ht : t.Timely s.clock) :
    (s.afterAlarm t).world.agenda = s.world.agenda ∨
      ∃ p, t.period.seconds? = some p ∧ (s.afterAlarm t).world.agenda =
        s.world.agenda.sleepUntil (s.clock + p) (.alarm { t with due := some (s.clock + p) }) := by
  obtain ⟨hpositive, hdue⟩ := ht
  have hagain : s.world.agenda.again t s.clock s.clock = s.world.agenda ∨
      ∃ p, t.period.seconds? = some p ∧ s.world.agenda.again t s.clock s.clock =
        s.world.agenda.sleepUntil (s.clock + p) (.alarm { t with due := some (s.clock + p) }) := by
    unfold Agenda.again AlarmTask.dueAfter?
    cases hp : t.period.seconds? with
    | none => exact .inl rfl
    | some p =>
      have hpos := Period.seconds_pos hpositive hp
      refine .inr ⟨p, rfl, ?_⟩
      simp [hpos]
  unfold Scene.afterAlarm
  rcases hdue with hdue | hdue
  · rw [hdue]
    exact hagain
  · rw [hdue]
    dsimp only
    split
    · exact hagain
    · exact .inl rfl

theorem runAlarm_affords (hchain : g.2.addons.chain = Chain.standard) {t : AlarmTask}
    (ht : t.Timely g.2.scene.clock) :
    Affords 1 (fun limit => laps limit g.2.scene.clock (.alarm t)) True g (after (runAlarm t) g) := by
  obtain ⟨log, hrun⟩ := runAlarm_of_sweeps (g := g) (hchain ▸ sweeps_standard) t
  have hframe : (g.2.scene.afterAlarm t).clock = g.2.scene.clock ∧
      (g.2.scene.afterAlarm t).world.files = g.2.scene.world.files ∧
      (g.2.scene.afterAlarm t).world.input = g.2.scene.world.input ∧
      (g.2.scene.afterAlarm t).world.answer = g.2.scene.world.answer := by
    unfold Scene.afterAlarm
    split
    · exact ⟨rfl, rfl, rfl, rfl⟩
    · split <;> exact ⟨rfl, rfl, rfl, rfl⟩
  obtain ⟨hclock, hfiles, hinput, hanswer⟩ := hframe
  rw [after_of_ok hrun]
  rcases afterAlarm_agenda ht with hagenda | ⟨p, hp, hagenda⟩
  · exact affords_of_nothing (.of_agenda rfl hclock hfiles hinput hagenda) Nat.one_pos
      fun _ => hanswer
  · have hpos := Period.seconds_pos ht.1 hp
    refine ⟨[], some (g.2.scene.clock + p, .alarm { t with due := some (g.2.scene.clock + p) }),
      ⟨rfl, hclock, hfiles, hinput, ?_, ?_⟩, ⟨Nat.one_pos, fun limit => ?_, fun _ => List.not_mem_nil,
        ?_, ?_⟩, fun _ => ⟨hanswer, fun _ => List.not_mem_nil, ?_⟩⟩
    · exact (congrArg Agenda.ready hagenda).trans (List.append_nil _).symm
    · exact congrArg Agenda.sleeping hagenda
    · rw [laps_eq hp hpos, List.map_nil, List.sum_nil, Nat.zero_add]
      exact Nat.le_refl _
    · rintro _ ⟨⟩
      exact lt_add_of_pos_right _ hpos
    · rintro _ _ ⟨⟩
      exact ⟨ht.1, rfl⟩
    · rintro _ _ ⟨⟩

theorem runTask_affords (hchain : g.2.addons.chain = Chain.standard) (t : Task)
    (ht : ∀ x, t = .alarm x → x.Timely g.2.scene.clock) :
    Affords (weight g.2.scene.world t)
      (fun limit => wakes g.2.scene.world limit g.2.scene.clock t) (∀ r, t ≠ .read .caller r) g
      (after (runTask t) g) := by
  -- only the reading for a caller may give an answer or put itself off
  have hcalls (who : Reader) (r : Reading) (h : ∀ r', .read who r ≠ Task.read .caller r') :
      who ≠ .caller := by
    rintro rfl
    exact h r rfl
  cases t with
  | alarm x =>
    obtain ⟨new, asleep, hleads, hbudget, haside⟩ := runAlarm_affords hchain (ht x rfl)
    exact ⟨new, asleep, hleads, hbudget, fun _ => haside trivial⟩
  | navigate tab url =>
    obtain ⟨log, hnavigate⟩ := navigate_spec tab url g.2.scene
    have hafter := Action.after_onScene (fun _ => Redirect.navigate tab url) g
    rw [after_of_ok hnavigate] at hafter
    rw [runTask, onScene, hafter]
    exact affords_of_nothing (.of_agenda rfl rfl rfl rfl rfl) Nat.one_pos fun _ => rfl
  | exit => exact affords_of_nothing (.of_agenda rfl rfl rfl rfl rfl) Nat.one_pos fun _ => rfl
  | read who r =>
    obtain ⟨new, asleep, hleads, hbudget, haside⟩ := readOn_affords hchain who r
    exact ⟨new, asleep, hleads, hbudget, fun h => haside (hcalls who r h)⟩
  | openRecord serial path =>
    obtain ⟨new, asleep, hleads, hbudget, haside⟩ :=
      openRecord_affords hchain (.background serial path) path
    exact ⟨new, asleep, hleads, hbudget, fun _ => haside (by rintro ⟨⟩)⟩

end Engine
end Detour
