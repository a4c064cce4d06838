import Detour.Proofs.Alarm.Settling
import Detour.Proofs.Engine.Cleanup
import Detour.Proofs.Engine.Replay

/-!
# What a task leads to

When a task runs, time stands still, no other task is forgotten, and there are a few new ones: some
that are ready, and one at most that sleeps (`Engine.Leads`). A reading hands on the events up to
the next wait, which leads to redirects at most (`Engine.forM_hand_spec`), and then it ends or goes to
sleep (`Engine.readOn_of_forM`).
-/
namespace Detour

namespace Reading

/-- The commands of some lines up to the first wait or the first line that is invalid. -/
def upToWait : List String → List Command
  | [] => []
  | line :: rest =>
    match Command.ofLine line with
    | .error _ | .ok (some (.wait _)) => []
    | .ok none => upToWait rest
    | .ok (some c) => c :: upToWait rest

def stateThere (ending : Option Text.Utf8.Fault) (number events : Nat) :
    List String → Engine.ReadState
  | [] => .ended <| match ending with
    | none => .ok events
    | some f => .error (.encoding f)
  | line :: rest =>
    match Command.ofLine line with
    | .error f => .ended (.error (.replay (.line number f)))
    | .ok none => stateThere ending (number + 1) events rest
    | .ok (some (.wait ms)) => .waits (.ofMillis ms) ⟨number + 1, rest, ending, events + 1⟩
    | .ok (some _) => stateThere ending (number + 1) (events + 1) rest

theorem length_upToWait_le (lines : List String) : (upToWait lines).length ≤ lines.length := by
  induction lines with
  | nil => exact le_rfl
  | cons line rest ih =>
    unfold upToWait
    split <;> simp only [List.length_nil, List.length_cons] <;> omega

theorem ne_wait_of_mem_upToWait {lines : List String} {c : Command} (h : c ∈ upToWait lines)
    (ms : Value) : c ≠ .wait ms := by
  induction lines with
  | nil => exact absurd h List.not_mem_nil
  | cons line rest ih =>
    unfold upToWait at h
    split at h
    · exact absurd h List.not_mem_nil
    · exact absurd h List.not_mem_nil
    · exact ih h
    · next d hwait _ =>
      rcases List.mem_cons.mp h with rfl | h
      · exact fun hms => hwait ms (hms ▸ rfl)
      · exact ih h

/-- Before a wait fewer lines are left for every command, and for the wait itself. -/
theorem length_of_waits {ending : Option Text.Utf8.Fault} {lines : List String}
    {number events : Nat} {p : Pause} {r : Reading}
    (h : stateThere ending number events lines = .waits p r) :
    (upToWait lines).length + r.lines.length < lines.length := by
  induction lines generalizing number events with
  | nil => cases h
  | cons line rest ih =>
    unfold stateThere at h
    unfold upToWait
    cases hline : Command.ofLine line with
    | error f =>
      rw [hline] at h
      cases h
    | ok command? =>
      rw [hline] at h
      cases command? with
      | none => exact (ih h).trans (Nat.lt_succ_self _)
      | some c =>
        cases c with
        | wait ms =>
          cases h
          simp
        | navigation | removed =>
          have hrest := ih h
          simp only [List.length_cons]
          omega

end Reading

namespace Engine

variable {g h k : Settings × Stage World} {new : List Task} {asleep : Option (Rat × Task)}

def hand : Command → Engine Unit
  | .navigation n => Action.triggerEvent (.navigationCompleted n)
  | .removed tab => Action.triggerEvent (.tabRemoved tab)
  | .wait _ => pure ()

/-- Reading lines is handing on what comes before the next wait. -/
theorem readLines_eq (ending : Option Text.Utf8.Fault) (lines : List String)
    (number events : Nat) : readLines ending number events lines =
      (do (Reading.upToWait lines).forM hand
          return Reading.stateThere ending number events lines) := by
  induction lines generalizing number events with
  | nil => rfl
  | cons line rest ih =>
    unfold readLines Reading.upToWait Reading.stateThere
    split
    · next hline => simp [hline]
    · next hline => simp [hline, ih]
    · next hline => simp [hline]
    · next hline => simp [hline, ih, hand]
    · next hline => simp [hline, ih, hand]

/-- Nothing but new tasks that are ready and one that sleeps, as far as tasks and time go. -/
structure Leads (new : List Task) (asleep : Option (Rat × Task)) (g h : Settings × Stage World) :
    Prop where
  addons : h.2.addons = g.2.addons
  clock : h.2.scene.clock = g.2.scene.clock
  files : h.2.scene.world.files = g.2.scene.world.files
  input : h.2.scene.world.input = g.2.scene.world.input
  ready : h.2.scene.world.agenda.ready = g.2.scene.world.agenda.ready ++ new
  sleeping : h.2.scene.world.agenda.sleeping =
    asleep.elim g.2.scene.world.agenda.sleeping fun e =>
      Agenda.insertSleeper e.1 e.2 g.2.scene.world.agenda.sleeping

/-- No reading for a caller is among what is new, and no answer has been given. -/
structure Aside (new : List Task) (asleep : Option (Rat × Task)) (g h : Settings × Stage World) :
    Prop where
  answer : h.2.scene.world.answer = g.2.scene.world.answer
  ready : ∀ r, .read .caller r ∉ new
  asleep : ∀ due r, asleep ≠ some (due, .read .caller r)

theorem Leads.of_agenda (addons : h.2.addons = g.2.addons)
    (clock : h.2.scene.clock = g.2.scene.clock)
    (files : h.2.scene.world.files = g.2.scene.world.files)
    (input : h.2.scene.world.input = g.2.scene.world.input)
    (agenda : h.2.scene.world.agenda = g.2.scene.world.agenda) : Leads [] none g h :=
  ⟨addons, clock, files, input, by simp [agenda], by simp [agenda]⟩

theorem aside_of_awake (answer : h.2.scene.world.answer = g.2.scene.world.answer)
    (ready : ∀ r, .read .caller r ∉ new) : Aside new none g h :=
  ⟨answer, ready, fun _ _ h => by cases h⟩

theorem Leads.trans {new' : List Task} (hg : Leads new none g h) (hh : Leads new' asleep h k) :
    Leads (new ++ new') asleep g k where
  addons := hh.addons.trans hg.addons
  clock := hh.clock.trans hg.clock
  files := hh.files.trans hg.files
  input := hh.input.trans hg.input
  ready := by rw [hh.ready, hg.ready, List.append_assoc]
  sleeping := by
    have hsame : h.2.scene.world.agenda.sleeping = g.2.scene.world.agenda.sleeping := hg.sleeping
    rw [hh.sleeping, hsame]

/-- All that is new is that some tabs are to be redirected, so many at most. -/
def Redirects (n : Nat) (g h : Settings × Stage World) : Prop :=
  ∃ new, new.length ≤ n ∧ (∀ t ∈ new, ∃ tab url, t = .navigate tab url) ∧ Leads new none g h ∧
    h.2.scene.world.answer = g.2.scene.world.answer

theorem Redirects.of_agenda (n : Nat) (hleads : Leads [] none g h)
    (answer : h.2.scene.world.answer = g.2.scene.world.answer) : Redirects n g h :=
  ⟨[], Nat.zero_le n, List.forall_mem_nil _, hleads, answer⟩

theorem Redirects.trans {m n : Nat} (hg : Redirects m g h) (hh : Redirects n h k) :
    Redirects (m + n) g k := by
  obtain ⟨new, hlength, hnew, hleads, hanswer⟩ := hg
  obtain ⟨new', hlength', hnew', hleads', hanswer'⟩ := hh
  refine ⟨new ++ new', ?_, ?_, hleads.trans hleads', hanswer'.trans hanswer⟩
  · rw [List.length_append]
    exact Nat.add_le_add hlength hlength'
  · exact List.forall_mem_append.mpr ⟨hnew, hnew'⟩

theorem redirects_visited (n : Navigation) (table : List Setting) (log : List (Rat × LogRecord))
    (g : Settings × Stage World) : Redirects 1 g (withScene g { g.2.scene with
      log, world := g.2.scene.world.visited table g.2.scene.millis n }) := by
  unfold World.visited
  split
  · split
    · exact .of_agenda 1 (.of_agenda rfl rfl rfl rfl rfl) rfl
    · next url _ =>
      refine ⟨[.navigate n.tab url], le_rfl, ?_, ⟨rfl, rfl, rfl, rfl, rfl, rfl⟩, rfl⟩
      exact List.forall_mem_singleton.mpr ⟨n.tab, url, rfl⟩
  · exact .of_agenda 1 (.of_agenda rfl rfl rfl rfl rfl) rfl

theorem hand_spec (hchain : g.2.addons.chain = Chain.standard) (c : Command) :
    ∃ h, hand c g = .ok () h ∧ Redirects 1 g h := by
  cases c with
  | wait ms => exact ⟨g, rfl, .of_agenda 1 (.of_agenda rfl rfl rfl rfl rfl) rfl⟩
  | navigation n =>
    have habsent : Chain.readEvents.handler (.navigationCompleted n) = .absent := rfl
    obtain ⟨log, hcore⟩ := navigation_spec n g.1.table g.2.scene
    exact ⟨_, triggerEvent_standard habsent hchain hcore, redirects_visited n g.1.table log g⟩
  | removed tab =>
    have habsent : Chain.readEvents.handler (.tabRemoved tab) = .absent := rfl
    have hcore := Dispatch.triggerEvent_removal tab g.1.table g.2.scene
    exact ⟨_, triggerEvent_standard habsent hchain hcore,
      .of_agenda 1 (.of_agenda rfl rfl rfl rfl rfl) rfl⟩

theorem forM_hand_spec (hchain : g.2.addons.chain = Chain.standard) (cs : List Command) :
    ∃ h, cs.forM hand g = .ok () h ∧ Redirects cs.length g h := by
  induction cs generalizing g with
  | nil => exact ⟨g, rfl, .of_agenda 0 (.of_agenda rfl rfl rfl rfl rfl) rfl⟩
  | cons c rest ih =>
    obtain ⟨h, hhand, hc⟩ := hand_spec hchain c
    have hstill : h.2.addons.chain = Chain.standard := by
      obtain ⟨new, -, -, hleads, -⟩ := hc
      rw [hleads.addons, hchain]
    obtain ⟨k, hrest, hk⟩ := ih hstill
    refine ⟨k, (bind_of_ok hhand).trans hrest, ?_⟩
    rw [List.length_cons, Nat.add_comm]
    exact hc.trans hk

/-- All that is new is that the engine is to stop, if anything is. -/
def Stops (g h : Settings × Stage World) : Prop :=
  ∃ new, (new = [] ∨ new = [.exit]) ∧ Leads new none g h ∧
    h.2.scene.world.answer = g.2.scene.world.answer

theorem stops_after_stop (g : Settings × Stage World) : Stops g (after stop g) := by
  cases hgoesOn : goesOn g.1 with
  | false =>
    rw [after_of_eq (stop_of_not_goesOn hgoesOn)]
    exact ⟨[.exit], .inr rfl, ⟨rfl, rfl, rfl, rfl, rfl, rfl⟩, rfl⟩
  | true =>
    have hstop : stop g = .ok () g := by
      rw [stop, get_bind]
      simp only [goesOn] at hgoesOn
      simp [hgoesOn, pure, EStateM.pure]
    rw [after_of_ok hstop]
    exact ⟨[], .inl rfl, .of_agenda rfl rfl rfl rfl rfl, rfl⟩

theorem stops_after_endBackground (serial : Nat) (path : String) (result : Except Failure Nat)
    (g : Settings × Stage World) : Stops g (after (endBackground serial path result) g) := by
  cases hreport : report? path result with
  | none =>
    obtain ⟨reading, hafter⟩ := endBackground_of_unreported hreport serial (g := g)
    rw [hafter]
    exact ⟨[], .inl rfl, .of_agenda rfl rfl rfl rfl rfl, rfl⟩
  | some record =>
    obtain ⟨reading, hleave⟩ := leave_spec serial g
    let told : Settings × Stage World := (g.1, { (withReading g reading).2 with
      scene := (withReading g reading).2.scene.note record })
    have hlog : log record (withReading g reading) = .ok () told := rfl
    rw [endBackground_eq, tell_of_reported hreport, after_bind_of_ok hleave, after_bind_of_ok hlog]
    obtain ⟨new, hnew, hleads, hanswer⟩ := stops_after_stop told
    have htold : Leads [] none g told := .of_agenda rfl rfl rfl rfl rfl
    exact ⟨new, hnew, htold.trans hleads, hanswer⟩

def slept (due : Rat) (t : Task) (g : Settings × Stage World) : Settings × Stage World :=
  withScene g { g.2.scene with world := { g.2.scene.world with
    agenda := if due ≤ g.2.scene.clock then g.2.scene.world.agenda.spawn t
      else g.2.scene.world.agenda.sleepUntil due t } }

theorem slept_leads (due : Rat) (t : Task) (g : Settings × Stage World) :
    due ≤ g.2.scene.clock ∧ Leads [t] none g (slept due t g) ∨
      g.2.scene.clock < due ∧ Leads [] (some (due, t)) g (slept due t g) := by
  unfold slept
  rcases le_or_gt due g.2.scene.clock with hle | hlt
  · rw [if_pos hle]
    exact .inl ⟨hle, rfl, rfl, rfl, rfl, rfl, rfl⟩
  · rw [if_neg (not_le.mpr hlt)]
    exact .inr ⟨hlt, rfl, rfl, rfl, rfl, (List.append_nil _).symm, rfl⟩

def goOn (who : Reader) : ReadState → Engine Unit
  | .ended result => endReading who result
  | .waits .tooLong _ => endReading who (.error .waitTooLong)
  | .waits .endless _ => pure ()
  | .waits (.seconds s) r => do sleepUntil ((← clock) + s) (.read who r)

theorem readOn_of_forM {r : Reading} (who : Reader)
    (hread : (Reading.upToWait r.lines).forM hand g = .ok () h) :
    readOn who r g = goOn who (Reading.stateThere r.ending r.number r.events r.lines) h := by
  have hlines : readLines r.ending r.number r.events r.lines g =
      .ok (Reading.stateThere r.ending r.number r.events r.lines) h := by
    rw [readLines_eq]
    exact bind_of_ok hread
  have hattempt : attempt (readLines r.ending r.number r.events r.lines) g =
      .ok (.ok (Reading.stateThere r.ending r.number r.events r.lines)) h := by
    simp [attempt, hlines]
  rw [readOn, bind_of_ok hattempt]
  cases Reading.stateThere r.ending r.number r.events r.lines with
  | ended result => rfl
  | waits p r' => cases p <;> rfl

end Engine
end Detour
