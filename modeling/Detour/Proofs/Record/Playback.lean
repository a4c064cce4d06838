import Detour.Proofs.Engine.Pace
import Detour.Proofs.Loading
import Detour.Proofs.Record.Line

/-!
# A record is played back

What a record tells of is dealt with in its order and one after the other (`Engine.Dealt`): an event
is over when all addons have been told of it, and a wait when its time has passed, in which anything
else may go on (`Engine.Waits`). Then the result is given to the caller.
-/
namespace Detour

open Relation (ReflTransGen)
open Line (Measured)

namespace Engine

variable {g h k : Settings × Stage World} {c : Command} {cs ds : List Command}

/-- Something else than a reading for a caller has its turn. -/
def Between (g h : Settings × Stage World) : Prop :=
  Tick g h ∧ ∀ r rest, g.2.scene.world.agenda.ready ≠ .read .caller r :: rest

abbrev Meanwhile : Settings × Stage World → Settings × Stage World → Prop := ReflTransGen Between

/-- The reading for a caller sleeps so many seconds and then has its turn. -/
def Waits (seconds : Rat) (g h : Settings × Stage World) : Prop :=
  ∃ r k rest, Meanwhile (after (sleepUntil (g.2.scene.clock + seconds) (.read .caller r)) g) k ∧
    k.2.scene.world.agenda.ready = .read .caller r :: rest ∧
    k.2.scene.clock = g.2.scene.clock + seconds ∧ h = withReady k rest

/-- What is told of is dealt with: all addons have been told of an event, and none has refused it, or
the time of a wait has passed. -/
inductive Obeys : Command → Settings × Stage World → Settings × Stage World → Prop
  | navigation {n : Navigation} {g h : Settings × Stage World}
    (told : Action.triggerEvent (.navigationCompleted n) g = .ok () h) : Obeys (.navigation n) g h
  | removed {tab : Id} {g h : Settings × Stage World}
    (told : Action.triggerEvent (.tabRemoved tab) g = .ok () h) : Obeys (.removed tab) g h
  | wait {ms : Value} {s : Rat} {g h : Settings × Stage World}
    (length : Pause.ofMillis ms = .seconds s) (waits : Waits s g h) : Obeys (.wait ms) g h

inductive Dealt : List Command → Settings × Stage World → Settings × Stage World → Prop
  | nil (g : Settings × Stage World) : Dealt [] g g
  | cons {c : Command} {cs : List Command} {g h k : Settings × Stage World} (first : Obeys c g h)
    (rest : Dealt cs h k) : Dealt (c :: cs) g k

theorem Dealt.append (hcs : Dealt cs g h) (hds : Dealt ds h k) : Dealt (cs ++ ds) g k := by
  induction hcs with
  | nil => exact hds
  | cons first rest ih => exact .cons first (ih hds)

theorem Dealt.concat (hcs : Dealt cs g h) (hc : Obeys c h k) : Dealt (cs ++ [c]) g k :=
  hcs.append (.cons hc (.nil k))

theorem dealt_of_forM (hcs : ∀ c ∈ cs, ∀ ms, c ≠ .wait ms) (h : cs.forM hand g = .ok () k) :
    Dealt cs g k := by
  induction cs generalizing g with
  | nil =>
    cases h
    exact .nil _
  | cons c rest ih =>
    have hrest := fun d hd => hcs d (List.mem_cons_of_mem c hd)
    change (hand c >>= fun _ => rest.forM hand) g = .ok () k at h
    cases hc : hand c g with
    | error f m =>
      rw [bind_of_error hc] at h
      cases h
    | ok u m =>
      rw [bind_of_ok hc] at h
      refine .cons ?_ (ih hrest h)
      cases c with
      | navigation n => exact .navigation hc
      | removed tab => exact .removed hc
      | wait ms => exact absurd rfl (hcs (.wait ms) (by simp) ms)

end Engine

def Task.call? : Task → Option Reading
  | .read .caller r => some r
  | _ => none

namespace Engine

/-- The readings for a caller, with the times at which they go on. -/
def calls (g : Settings × Stage World) : List (Rat × Reading) :=
  g.2.scene.world.agenda.ready.filterMap (fun t => t.call?.map (g.2.scene.clock, ·)) ++
    g.2.scene.world.agenda.sleeping.filterMap fun e => e.2.call?.map (e.1, ·)

variable {new : List Task} {asleep : Option (Rat × Task)} {r : Reading} {rest : List Task}

theorem not_call_iff {t : Task} : t.call? = none ↔ ∀ r, t ≠ .read .caller r := by
  constructor
  · rintro h r rfl
    cases h
  · intro h
    cases t with
    | read who r =>
      cases who with
      | caller => exact absurd rfl (h r)
      | background serial path => rfl
    | alarm | navigate | openRecord | exit => rfl

/-- Tasks that lead aside leave the readings for a caller alone. -/
theorem calls_of_aside (hleads : Leads new asleep g h) (haside : Aside new asleep g h) :
    calls h = calls g := by
  have hnew : new.filterMap (fun t => t.call?.map (g.2.scene.clock, ·)) = [] := by
    refine List.filterMap_eq_nil_iff.mpr fun t ht => ?_
    rw [not_call_iff.mpr fun r htr => haside.ready r (htr ▸ ht)]
    rfl
  have hsleeping : h.2.scene.world.agenda.sleeping.filterMap (fun e => e.2.call?.map (e.1, ·)) =
      g.2.scene.world.agenda.sleeping.filterMap fun e => e.2.call?.map (e.1, ·) := by
    rw [hleads.sleeping]
    cases asleep with
    | none => rfl
    | some e =>
      have hcall : e.2.call? = none :=
        not_call_iff.mpr fun r hr => haside.asleep e.1 r (congrArg (fun t => some (e.1, t)) hr)
      exact Agenda.filterMap_insertSleeper (by simp [hcall]) _
  rw [calls, calls, hsleeping, hleads.clock, hleads.ready, List.filterMap_append, hnew,
    List.append_nil]

theorem calls_withReady {t : Task} (hready : g.2.scene.world.agenda.ready = t :: rest) :
    calls g = (t.call?.map (g.2.scene.clock, ·)).toList ++ calls (withReady g rest) := by
  rw [calls, hready, List.filterMap_cons]
  cases t.call? <;> rfl

/-- Time that goes on does not change when they go on. -/
theorem calls_woken {e : Rat × Task} (hidle : g.2.scene.world.agenda.ready = [])
    (hfirst : ∀ f ∈ g.2.scene.world.agenda.sleeping, e.1 ≤ f.1) : calls (woken e.1 g) = calls g := by
  have hwhole := List.takeWhile_append_dropWhile (p := fun f : Rat × Task => decide (f.1 ≤ e.1))
    (l := g.2.scene.world.agenda.sleeping)
  have hready : (woken e.1 g).2.scene.world.agenda.ready =
      (g.2.scene.world.agenda.sleeping.takeWhile fun f => decide (f.1 ≤ e.1)).map (·.2) := by
    have hwake := Agenda.ready_wakeAt g.2.scene.world.agenda e.1
    rw [hidle, List.nil_append] at hwake
    exact hwake
  have hsleeping : (woken e.1 g).2.scene.world.agenda.sleeping =
      g.2.scene.world.agenda.sleeping.dropWhile fun f => decide (f.1 ≤ e.1) :=
    Agenda.sleeping_wakeAt g.2.scene.world.agenda e.1
  -- no sleeper is due before this one, so those that are woken are all due at its time
  have hwoken : ∀ f ∈ g.2.scene.world.agenda.sleeping.takeWhile (fun f => decide (f.1 ≤ e.1)),
      f.1 = e.1 := fun f hf => le_antisymm (by simpa using List.mem_takeWhile_imp hf)
    (hfirst f ((List.takeWhile_sublist _).subset hf))
  rw [calls, calls, hready, hsleeping, hidle, List.filterMap_nil, List.nil_append,
    List.filterMap_map]
  conv_rhs => rw [← hwhole, List.filterMap_append]
  refine congrArg (· ++ _) (List.filterMap_congr fun f hf => ?_)
  rw [Function.comp_apply, hwoken f hf]
  rfl

theorem calls_of_between (hg : InTime g) (h : Between g k) : calls k = calls g := by
  obtain ⟨htick, hother⟩ := h
  cases htick with
  | @task t rest hready =>
    have hcall : ∀ r, t ≠ .read .caller r := fun r hr => hother r rest (hr ▸ hready)
    obtain ⟨new, asleep, hleads, -, haside⟩ := task_of_inTime hg hready
    rw [calls_of_aside hleads (haside hcall), calls_withReady hready, not_call_iff.mpr hcall]
    rfl
  | pass hidle hsleeping => exact calls_woken hidle (hg.timely.le_of_first hsleeping)

theorem answer_of_between (hg : InTime g) (h : Between g k) :
    k.2.scene.world.answer = g.2.scene.world.answer := by
  obtain ⟨htick, hother⟩ := h
  cases htick with
  | @task t rest hready =>
    have hcall : ∀ r, t ≠ .read .caller r := fun r hr => hother r rest (hr ▸ hready)
    obtain ⟨new, asleep, -, -, haside⟩ := task_of_inTime hg hready
    exact (haside hcall).answer
  | pass => rfl

theorem calls_slept {due : Rat} (hdue : g.2.scene.clock ≤ due) (hnone : calls g = []) :
    calls (slept due (.read .caller r) g) = [(due, r)] := by
  obtain ⟨hready, hsleeping⟩ := List.append_eq_nil_iff.mp hnone
  rcases slept_leads due (.read .caller r) g with ⟨hle, hleads⟩ | ⟨-, hleads⟩
  · obtain rfl := le_antisymm hle hdue
    rw [calls, hleads.clock, hleads.ready, hleads.sleeping, List.filterMap_append, hready]
    change [(g.2.scene.clock, r)] ++ _ = _
    rw [Option.elim, hsleeping]
    rfl
  · have hperm := (Agenda.perm_insertSleeper due (Task.read .caller r)
      g.2.scene.world.agenda.sleeping).filterMap fun e => e.2.call?.map (e.1, ·)
    rw [List.filterMap_cons, hsleeping] at hperm
    rw [calls, hleads.clock, hleads.ready, hleads.sleeping, List.append_nil, hready, List.nil_append]
    exact List.perm_singleton.mp hperm

theorem calls_of_redirects {n : Nat} (h : Redirects n g k) : calls k = calls g := by
  obtain ⟨new, -, hnew, hleads, hanswer⟩ := h
  refine calls_of_aside hleads (aside_of_awake hanswer fun r hr => ?_)
  obtain ⟨tab, url, h⟩ := hnew _ hr
  cases h

/-- How the reading of a record ends: with the number of what it tells of, or at the line that is
invalid. -/
def Ends (told : List Command) : Option Nat → Except Failure Nat → Prop
  | none, result => result = .ok told.length
  | some number, result => ∃ fault, result = .error (.replay (.line number fault)) ∧
      (ReplayFault.line number fault).message = s!"Line {number}: {fault.message}"

/-- What comes of lines that tell of something still to be dealt with, after so much has been. -/
inductive Comes (lines : List String) (events : Nat) (todo : List Command) (bad : Option Nat) :
    ReadState → Prop
  | ended {result : Except Failure Nat} (told : Reading.upToWait lines = todo)
    (ends : ∀ done : List Command, done.length = events → Ends (done ++ todo) bad result) :
    Comes lines events todo bad (.ended result)
  | waits {ms : Value} {s : Rat} {r : Reading} {later : List Command}
    (length : Pause.ofMillis ms = .seconds s) (nonneg : 0 ≤ s)
    (told : todo = Reading.upToWait lines ++ .wait ms :: later)
    (more : Recounts r.number r.lines later bad) (whole : r.ending = none)
    (count : r.events = events + (Reading.upToWait lines).length + 1)
    (measured : ∀ line ∈ r.lines, Measured line) (time : s + span r.lines ≤ span lines) :
    Comes lines events todo bad (.waits (.seconds s) r)

theorem Comes.cons (before : List Command) {line : String} {lines : List String}
    {todo : List Command} {events : Nat} {bad : Option Nat} {state : ReadState}
    (h : Comes lines (events + before.length) todo bad state)
    (hline : Reading.upToWait (line :: lines) = before ++ Reading.upToWait lines)
    (hnonneg : 0 ≤ waitOf line) : Comes (line :: lines) events (before ++ todo) bad state := by
  cases h with
  | ended told ends =>
    refine .ended (by rw [hline, told]) fun done hdone => ?_
    rw [← List.append_assoc]
    exact ends (done ++ before) (by rw [List.length_append, hdone])
  | waits length nonneg told more whole count measured time =>
    refine .waits length nonneg ?_ more whole ?_ measured (time.trans (le_add_of_nonneg_left hnonneg))
    · rw [hline, told, List.append_assoc]
    · rw [hline, count, List.length_append]
      omega

theorem comes_of_recounts {number : Nat} {lines : List String} {todo : List Command}
    {bad : Option Nat} (h : Recounts number lines todo bad)
    (hmeasured : ∀ line ∈ lines, Measured line) (events : Nat) :
    Comes lines events todo bad (Reading.stateThere none number events lines) := by
  induction h generalizing events with
  | ended number =>
    refine .ended rfl fun done hdone => ?_
    rw [List.append_nil]
    exact congrArg Except.ok hdone.symm
  | @skipped number line rest told bad hskip hrest ih =>
    obtain ⟨hfirst, hothers⟩ := List.forall_mem_cons.mp hmeasured
    have hline := Line.ofLine_of_skipped hskip
    rw [Reading.stateThere, hline]
    exact .cons [] (ih hothers events) (by simp [Reading.upToWait, hline])
      (Line.waitOf_nonneg hfirst)
  | @told number line c rest told bad htells hrest ih =>
    obtain ⟨hfirst, hothers⟩ := List.forall_mem_cons.mp hmeasured
    have hline := Line.ofLine_of_tells hfirst htells
    have hcomes := ih hothers (events + 1)
    rw [Reading.stateThere, hline]
    cases c with
    | wait ms =>
      obtain ⟨s, hs, hnonneg⟩ := Line.pause_of_tells hfirst htells
      have htime : waitOf line = s := Line.waitOf_of_wait hfirst htells hs
      have hup : Reading.upToWait (line :: rest) = [] := by simp [Reading.upToWait, hline]
      dsimp only
      rw [hs]
      refine .waits hs hnonneg (by rw [hup]; rfl) hrest rfl (by rw [hup]; rfl) hothers ?_
      rw [span, htime]
    | navigation n =>
      exact .cons [.navigation n] hcomes (by simp [Reading.upToWait, hline])
        (Line.waitOf_nonneg hfirst)
    | removed tab =>
      exact .cons [.removed tab] hcomes (by simp [Reading.upToWait, hline])
        (Line.waitOf_nonneg hfirst)
  | @invalid number line hinvalid rest =>
    obtain ⟨hfirst, -⟩ := List.forall_mem_cons.mp hmeasured
    obtain ⟨f, hline⟩ := Line.ofLine_of_invalid hfirst hinvalid
    rw [Reading.stateThere, hline]
    refine .ended (by simp [Reading.upToWait, hline]) fun done _ => ⟨f, rfl, rfl⟩

def withAnswer (answer : Option (Except Failure Nat)) (g : Settings × Stage World) :
    Settings × Stage World :=
  withScene g { g.2.scene with world := { g.2.scene.world with answer } }

/-- So much of what is told of has been dealt with, from the first turn of the reading on. -/
def Through (begun : Settings × Stage World) (done : List Command) (g : Settings × Stage World) :
    Prop :=
  ∃ start, Waits 0 begun start ∧ Dealt done start g

/-- The one reading for a caller is under way and will be through with so much when it goes on, or it
has ended and given its answer. -/
inductive Underway (begun : Settings × Stage World) (told : List Command) (bad : Option Nat)
    (limit : Rat) (g : Settings × Stage World) : Prop
  | reading {r : Reading} {done todo : List Command} {due : Rat} (calls : calls g = [(due, r)])
    (answer : g.2.scene.world.answer = none) (whole : r.ending = none)
    (count : r.events = done.length) (all : done ++ todo = told)
    (more : Recounts r.number r.lines todo bad) (measured : ∀ line ∈ r.lines, Measured line)
    (time : due + span r.lines ≤ limit)
    (resume : ∀ k rest, Meanwhile g k → k.2.scene.world.agenda.ready = .read .caller r :: rest →
      k.2.scene.clock = due → Through begun done (withReady k rest))
  | answered {result : Except Failure Nat} {last : Settings × Stage World} (calls : calls g = [])
    (answer : g.2.scene.world.answer = some result) (ends : Ends told bad result)
    (through : Through begun told last) (meanwhile : Meanwhile (withAnswer (some result) last) g)

variable {begun : Settings × Stage World} {told : List Command} {bad : Option Nat} {limit : Rat}

theorem Underway.between (h : Underway begun told bad limit g) (hg : InTime g)
    (hbetween : Between g k) : Underway begun told bad limit k := by
  have hcalls := calls_of_between hg hbetween
  have hanswer := answer_of_between hg hbetween
  cases h with
  | reading calls answer whole count all more measured time resume =>
    exact .reading (hcalls.trans calls) (hanswer.trans answer) whole count all more measured time
      fun m rest hmeanwhile => resume m rest (.head hbetween hmeanwhile)
  | answered calls answer ends through meanwhile =>
    exact .answered (hcalls.trans calls) (hanswer.trans answer) ends through
      (meanwhile.tail hbetween)

/-- The reading has its turn: what comes before the next wait is dealt with. -/
theorem Underway.turn (h : Underway begun told bad limit g) (hg : InTime g)
    (hready : g.2.scene.world.agenda.ready = .read .caller r :: rest) :
    Underway begun told bad limit (after (readOn .caller r) (withReady g rest)) := by
  have hfirst := calls_withReady hready
  cases h with
  | answered calls =>
    rw [calls] at hfirst
    cases hfirst
  | @reading r' done todo due calls answer whole count all more measured time resume =>
    rw [calls] at hfirst
    obtain ⟨⟨rfl, rfl⟩, hnone⟩ : (due = g.2.scene.clock ∧ r' = r) ∧
        [] = Engine.calls (withReady g rest) := by simpa [Task.call?] using hfirst
    obtain ⟨start, hstart, hdone⟩ := resume g rest .refl hready rfl
    obtain ⟨last, hhand, hredirects⟩ :=
      forM_hand_spec (g := withReady g rest) hg.chain (Reading.upToWait r'.lines)
    have hdealt := hdone.append
      (dealt_of_forM (fun c hc => Reading.ne_wait_of_mem_upToWait hc) hhand)
    have hlast : Engine.calls last = [] := (calls_of_redirects hredirects).trans hnone.symm
    obtain ⟨new, -, -, hleads, hsilent⟩ := hredirects
    have hcomes := comes_of_recounts more measured r'.events
    rw [after_of_eq (readOn_of_forM .caller hhand), whole]
    -- either the lines end here, or a wait is put after all that has been dealt with
    generalize Reading.stateThere none r'.number r'.events r'.lines = state at hcomes ⊢
    cases hcomes with
    | ended htold ends =>
      rw [htold, all] at hdealt
      exact .answered hlast rfl (all ▸ ends done count.symm) ⟨start, hstart, hdealt⟩ .refl
    | @waits ms s next later length nonneg htold more whole count' measured time' =>
      have hdue : last.2.scene.clock = g.2.scene.clock := hleads.clock
      have hasleep : Engine.calls (slept (last.2.scene.clock + s) (.read .caller next) last) =
          [(last.2.scene.clock + s, next)] :=
        calls_slept (le_add_of_nonneg_right nonneg) hlast
      have hall : (done ++ Reading.upToWait r'.lines ++ [.wait ms]) ++ later = told := by
        rw [← all, htold]
        simp
      refine .reading hasleep (hsilent.trans answer) whole ?_ hall more measured ?_ ?_
      · simp only [List.length_append, List.length_singleton]
        omega
      · rw [hdue]
        linarith
      · intro k rest' hmeanwhile hturn hclock
        exact ⟨start, hstart, hdealt.concat (.wait length
          ⟨next, k, rest', hmeanwhile, hturn, hclock, rfl⟩)⟩

theorem Underway.tick (h : Underway begun told bad limit g) (hg : InTime g) (htick : Tick g k) :
    Underway begun told bad limit k := by
  by_cases hturn : ∃ r rest, g.2.scene.world.agenda.ready = .read .caller r :: rest
  · obtain ⟨r, rest, hready⟩ := hturn
    cases htick with
    | @task t others hnow =>
      rw [hready] at hnow
      cases hnow
      exact h.turn hg hready
    | pass hidle =>
      rw [hready] at hidle
      cases hidle
  · exact h.between hg ⟨htick, fun r rest hready => hturn ⟨r, rest, hready⟩⟩

theorem Underway.ticks (h : Underway begun told bad limit g) (hg : InTime g)
    (hticks : ReflTransGen Tick g k) : Underway begun told bad limit k := by
  induction hticks using ReflTransGen.head_induction_on with
  | refl => exact h
  | head htick _ ih => exact ih (h.tick hg htick) (hg.tick htick)

theorem InTime.ticks (hg : InTime g) (hticks : ReflTransGen Tick g k) : InTime k := by
  induction hticks with
  | refl => exact hg
  | tail _ htick ih => exact ih.tick htick

def opened (r : Reading) (g : Settings × Stage World) : Settings × Stage World :=
  withScene g { g.2.scene with world := { g.2.scene.world with
    answer := none, agenda := g.2.scene.world.agenda.spawn (.read .caller r) } }

theorem opened_eq_slept (r : Reading) (g : Settings × Stage World) :
    opened r g = slept (g.2.scene.clock + 0) (.read .caller r) (withAnswer none g) := by
  have hnow : g.2.scene.clock + 0 ≤ (withAnswer none g).2.scene.clock := (add_zero _).le
  rw [slept, if_pos hnow]
  rfl

theorem inTime_opened (hg : InTime g) (r : Reading) : InTime (opened r g) :=
  ⟨hg.chain, hg.timely.spawn fun _ h => by cases h⟩

theorem underway_opened (hnone : calls g = []) (text : String)
    (hmeasured : ∀ line ∈ lines text, Measured line)
    (hrecord : Recounts 1 (lines text) told bad) :
    Underway (withAnswer none g) told bad (g.2.scene.clock + span (lines text))
      (opened (.ofText text) g) := by
  have hcalls : calls (slept (g.2.scene.clock + 0) (.read .caller (.ofText text))
      (withAnswer none g)) = [(g.2.scene.clock + 0, .ofText text)] :=
    calls_slept (g := withAnswer none g) (add_zero _).ge hnone
  rw [opened_eq_slept]
  have htime : g.2.scene.clock + 0 + span (lines text) ≤ g.2.scene.clock + span (lines text) := by
    rw [add_zero]
  refine .reading hcalls rfl rfl rfl (List.nil_append told) hrecord hmeasured htime ?_
  intro k rest hmeanwhile hready hclock
  exact ⟨_, ⟨.ofText text, k, rest, hmeanwhile, hready, hclock, rfl⟩, .nil _⟩

/-- In the end the reading has given its answer. -/
theorem Underway.answer_of_late (h : Underway begun told bad limit g)
    (hidle : g.2.scene.world.agenda.ready = [])
    (hend : g.2.scene.world.answer.isSome = true ∨
      ∀ e ∈ g.2.scene.world.agenda.sleeping, limit < e.1) :
    ∃ result last, calls g = [] ∧ g.2.scene.world.answer = some result ∧ Ends told bad result ∧
      Through begun told last ∧ Meanwhile (withAnswer (some result) last) g := by
  cases h with
  | answered calls answer ends through meanwhile =>
    exact ⟨_, _, calls, answer, ends, through, meanwhile⟩
  | @reading r done todo due calls answer whole count all more measured time resume =>
    exfalso
    rcases hend with hanswer | hlate
    · rw [answer] at hanswer
      cases hanswer
    · -- a reading that is still to go on would have been due within the limit
      have hspan := span_nonneg measured
      rw [Engine.calls, hidle, List.filterMap_nil, List.nil_append] at calls
      have hmem : (due, r) ∈ g.2.scene.world.agenda.sleeping.filterMap
          fun e => e.2.call?.map (e.1, ·) := by rw [calls]; exact List.mem_singleton.mpr rfl
      obtain ⟨e, he, hcall⟩ := List.mem_filterMap.mp hmem
      obtain ⟨r', -, hpair⟩ := Option.map_eq_some_iff.mp hcall
      obtain rfl : e.1 = due := congrArg Prod.fst hpair
      have hlt := hlate e he
      linarith

theorem replay_of_answer {r : Reading} {result : Except Failure Nat}
    (hrun : runFor (span r.lines) (·.answer.isSome) (opened r g) = .ok () h)
    (hanswer : h.2.scene.world.answer = some result) :
    after (replay r) g = h ∧ outcome (replay r) g = result := by
  have hopened : change (fun w => { w with
      answer := none, agenda := w.agenda.spawn (.read .caller r) }) g = .ok () (opened r g) := rfl
  have hworld : world h = .ok h.2.scene.world h := rfl
  cases result with
  | ok n =>
    have hreplay : replay r g = .ok n h := by
      rw [replay, bind_of_ok hopened, bind_of_ok hrun, bind_of_ok hworld, hanswer]
      rfl
    exact ⟨after_of_ok hreplay, by simp [outcome, hreplay]⟩
  | error f =>
    have hreplay : replay r g = .error f h := by
      rw [replay, bind_of_ok hopened, bind_of_ok hrun, bind_of_ok hworld, hanswer]
      rfl
    exact ⟨after_of_error hreplay, by simp [outcome, hreplay]⟩

/-- A record is dealt with up to the first line that is invalid, and then the result is given, which
leaves the engine as it has to be for another record. -/
theorem replay_spec (hg : InTime g) (hnone : calls g = []) {text : String}
    (hmeasured : ∀ line ∈ lines text, Measured line) (hrecord : Recounts 1 (lines text) told bad) :
    ∃ result last, Ends told bad result ∧ Through (withAnswer none g) told last ∧
      Meanwhile (withAnswer (some result) last) (after (replay (.ofText text)) g) ∧
      outcome (replay (.ofText text)) g = result ∧ InTime (after (replay (.ofText text)) g) ∧
      calls (after (replay (.ofText text)) g) = [] := by
  have hopened := inTime_opened hg (.ofText text)
  obtain ⟨h, hrun, hticks, hidle, hend⟩ :=
    runFor_of_inTime hopened (span (lines text)) (·.answer.isSome)
  have hunderway := (underway_opened hnone text hmeasured hrecord).ticks hopened hticks
  obtain ⟨result, last, hcalls, hanswer, hends, hthrough, hmeanwhile⟩ :=
    hunderway.answer_of_late hidle hend
  obtain ⟨hafter, houtcome⟩ := replay_of_answer (r := .ofText text) hrun hanswer
  rw [hafter]
  exact ⟨result, last, hends, hthrough, hmeanwhile, houtcome, hopened.ticks hticks, hcalls⟩

/-- What a record tells of up to its first invalid line is dealt with in its order, and the caller
is given the number of that, or the line that is invalid; nothing is left that reads the record. This
assumes that no alarm is overdue when the reading starts (`InTime`), which is so in every engine that
has been started with its addons (`Lives.free`). -/
theorem record_is_played_back (hg : InTime g) (hnone : calls g = []) (text : String)
    (hmeasured : ∀ line ∈ lines text, Measured line) :
    ∃ told bad result start last, Recounts 1 (lines text) told bad ∧ Ends told bad result ∧
      Waits 0 (withAnswer none g) start ∧ Dealt told start last ∧
      Meanwhile (withAnswer (some result) last) (after (replay (.ofText text)) g) ∧
      outcome (replay (.ofText text)) g = result ∧
      calls (after (replay (.ofText text)) g) = [] := by
  obtain ⟨told, bad, hrecord⟩ := exists_recounts 1 (lines text)
  obtain ⟨result, last, hends, ⟨start, hstart, hdealt⟩, hmeanwhile, houtcome, -, hcalls⟩ :=
    replay_spec hg hnone hmeasured hrecord
  exact ⟨told, bad, result, start, last, hrecord, hends, hstart, hdealt, hmeanwhile, houtcome, hcalls⟩

def starting : Settings × Stage World :=
  let world : World := .fresh .empty "" (.ofEntries []) (.fresh .recording none)
  (Settings.empty.withDeclared ([Settings.configDirectory, Settings.redirectsEnabled] ++
      Chain.standard.flatMap (·.declares)),
    ⟨⟨[], Chain.standard⟩, ⟨0, world.spawn (.alarm ⟨0, "redirectCleanup", .whole 300, none⟩), []⟩⟩)

theorem inTime_starting : InTime starting := by
  refine ⟨rfl, .nil, List.forall_mem_nil _, fun x hx => ?_, fun _ _ => List.not_mem_nil.elim⟩
  obtain rfl := Task.alarm.inj (List.mem_singleton.mp hx)
  exact ⟨rfl, .inl rfl⟩

def sampleRecord : String :=
  "# visit\n\x7b\"event\": \"navigation\", \"tabId\": 1, \"url\": \"http://a/\"\x7d\n" ++
    " \x7b\"event\": \"wait\", \"ms\": 1500\x7d\n\n[]\n\x7b\"event\": \"removed\", \"tabId\": 1\x7d\n"

theorem measured_sampleRecord : ∀ line ∈ lines sampleRecord, Measured line := by decide +kernel

theorem sample_record_is_played_back : InTime starting ∧ calls starting = [] ∧
    (∀ line ∈ lines sampleRecord, Measured line) ∧
    ∃ told bad result start last, Recounts 1 (lines sampleRecord) told bad ∧ Ends told bad result ∧
      Waits 0 (withAnswer none starting) start ∧ Dealt told start last ∧
      Meanwhile (withAnswer (some result) last) (after (replay (.ofText sampleRecord)) starting) ∧
      outcome (replay (.ofText sampleRecord)) starting = result ∧
      calls (after (replay (.ofText sampleRecord)) starting) = [] :=
  ⟨inTime_starting, rfl, measured_sampleRecord,
    record_is_played_back inTime_starting rfl sampleRecord measured_sampleRecord⟩

end Engine
end Detour
