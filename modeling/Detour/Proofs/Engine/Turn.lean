import Detour.Proofs.Engine.Redirect
import Detour.Proofs.Engine.Upkeep

/-!
# What one move does

A move does one of three things to the ledger (`Course.step_turn`): it keeps it, it records one
redirect, or it gives the first command that waits. Everything that holds along all courses of the
engine is read off these three cases.
-/
namespace Detour

namespace Engine

open Detour.Action (Moves)

section Readers

variable {R : Settings × Stage World → Settings × Stage World → Prop} [IsPreorder _ R]

theorem within_clock : Within R clock := within_get.bind fun _ => within_pure _

theorem within_world : Within R world := within_get.bind fun _ => within_pure _

end Readers

section Alarms

variable {G : Rat → Guard → Guard → Prop} [∀ now, IsPreorder Guard (G now)]

theorem within_change {f : World → World} (ledger : ∀ w, LedgerKept w (f w))
    (guard : ∀ w, (f w).guard = w.guard) : Within (Moves Chain.core (Leaves G)) (change f) :=
  Action.within_onScene fun _ => Detour.within_change ledger guard

theorem within_sleepUntil (due : Rat) (x : AlarmTask) :
    Within (Moves Chain.core (Leaves G)) (sleepUntil due (.alarm x)) := by
  refine within_clock.bind fun now => within_change (fun w => ?_) fun w => rfl
  by_cases h : due ≤ now
  · simpa [h] using LedgerKept.spawn_alarm w x
  · simpa [h] using LedgerKept.sleep_alarm w due x

theorem within_scheduleAfter (x : AlarmTask) (time : Rat) :
    Within (Moves Chain.core (Leaves G)) (scheduleAfter x time) := by
  unfold scheduleAfter
  split
  · exact within_sleepUntil _ _
  · exact within_pure ()

end Alarms

theorem within_fire (x : AlarmTask) (due : Rat) :
    Within (Moves Chain.core (Leaves Guard.Fades)) (fire x due) := by
  have hlog : Within (Moves Chain.core (Leaves Guard.Fades))
      (log (.plain Level.debug s!"Alarm {x.name} fired.")) :=
    Action.within_onScene fun _ => within_log _
  have hfired : Within (Moves Chain.core (Leaves Guard.Fades))
      (change fun w => { w with fired := x.firing due :: w.fired }) :=
    within_change (fun _ => .of_eq rfl rfl rfl) fun _ => rfl
  exact hlog.bind fun _ => hfired.bind fun _ =>
    Action.within_triggerEvent leaves_note (alarm_within (x.firing due))

/-- An alarm keeps the ledger, and has expired entries of the guard dropped at most. -/
theorem within_runAlarm (x : AlarmTask) :
    Within (Moves Chain.core (Leaves Guard.Fades)) (runAlarm x) := by
  unfold runAlarm
  cases x.due with
  | none => exact within_clock.bind fun now => within_scheduleAfter x now
  | some due =>
    refine (within_fire x due).bind fun _ => within_world.bind fun w => ?_
    split
    · exact within_scheduleAfter x due
    · exact within_pure ()

def withReady (g : Settings × Stage World) (ready : List Task) : Settings × Stage World :=
  (g.1, { g.2 with scene := { g.2.scene with world :=
    { g.2.scene.world with agenda := { g.2.scene.world.agenda with ready } } } })

variable {g : Settings × Stage World}

theorem step_of_idle (h : g.2.scene.world.agenda.ready = []) : step g = .ok false g := by
  have hnext : g.2.scene.world.agenda.next? = none := by rw [Agenda.next?, h]
  have hworld : world g = .ok g.2.scene.world g := rfl
  rw [step, bind_of_ok hworld, hnext]
  rfl

theorem attempt_spec {α : Type} (e : Engine α) (g : Settings × Stage World) :
    ∃ r, attempt e g = .ok r (after e g) := by
  cases h : e g with
  | ok a g' => exact ⟨.ok a, by simp [attempt, after, h]⟩
  | error f g' => exact ⟨.error f, by simp [attempt, after, h]⟩

/-- The first task that is ready leaves the agenda and runs, whether it fails or not. -/
theorem step_of_ready {t : Task} {rest : List Task}
    (h : g.2.scene.world.agenda.ready = t :: rest) :
    step g = .ok true (after (runTask t) (withReady g rest)) := by
  have hnext : g.2.scene.world.agenda.next? =
      some (t, { g.2.scene.world.agenda with ready := rest }) := by rw [Agenda.next?, h]
  have hworld : world g = .ok g.2.scene.world g := rfl
  have hpop : change (fun w => { w with agenda := { g.2.scene.world.agenda with ready := rest } })
      g = .ok () (withReady g rest) := rfl
  obtain ⟨r, hrun⟩ := attempt_spec (runTask t) (withReady g rest)
  rw [step, bind_of_ok hworld, hnext]
  dsimp only
  rw [bind_of_ok hpop, bind_of_ok hrun]
  rfl

end Engine

namespace World

def withCommand (w : World) (tab : Id) (url : String) (rest : List Task) : World :=
  { w with agenda := { w.agenda with ready := rest }, tabs := w.tabs.issue tab url }

end World

theorem navigate_spec (tab : Id) (url : String) (s : Scene World) :
    ∃ log, Redirect.navigate tab url s =
      .ok () { s with log, world := { s.world with tabs := s.world.tabs.issue tab url } } := by
  have hissue : World.change (fun w => { w with tabs := s.world.tabs.issue tab url }) s =
      .ok () { s with world := { s.world with tabs := s.world.tabs.issue tab url } } := rfl
  obtain ⟨log, hlog⟩ := log_spec (s.world.tabs.notices tab url)
    { s with world := { s.world with tabs := s.world.tabs.issue tab url } }
  unfold Redirect.navigate
  rw [get_bind, bind_of_ok hissue, bind_of_ok hlog]
  cases s.world.tabs.fault? with
  | none => exact ⟨log, rfl⟩
  | some f => exact log_spec _ _

/-- What a move can do to the guard without recording a redirect. -/
def Move.onGuard : Move → Rat → Guard → Guard → Prop
  | look _ | answer _ | sweep | task => Guard.Fades
  | m => fun _ => Guard.Spares fun tab => m.frees tab

instance (m : Move) (now : Rat) : IsPreorder Guard (m.onGuard now) := by
  cases m with
  | look | answer | sweep | task => exact inferInstanceAs (IsPreorder Guard (Guard.Fades now))
  | close | update | supply | breakTabs | wait | running | done =>
    exact inferInstanceAs (IsPreorder Guard (Guard.Spares _))

theorem Move.keyed_of_onGuard (m : Move) {now : Rat} {g g' : Guard} (h : m.onGuard now g g') :
    g.Keyed → g'.Keyed := by
  cases m with
  | look | answer | sweep | task => exact Guard.Fades.keyed h
  | close | update | supply | breakTabs | wait | running | done => exact Guard.Spares.keyed h

inductive Turn (m : Move) (s t : Scene World) : Prop
  | keeps (clock : s.clock ≤ t.clock) (ledger : LedgerKept s.world t.world)
    (guard : m.onGuard s.millis s.world.guard t.world.guard)
  | records (e : GuardEntry) (clock : t.clock = s.clock) (now : e.recordedAt = s.millis)
    (free : (s.world.guard.isSuppressed s.millis e.tab).1 = false)
    (world : t.world =
      ({ s.world with guard := (s.world.guard.isSuppressed s.millis e.tab).2 } :
        World).withRedirect e)
  | gives (tab : Id) (url : String) (rest : List Task) (clock : t.clock = s.clock)
    (ready : s.world.agenda.ready = .navigate tab url :: rest)
    (world : t.world = s.world.withCommand tab url rest)

/-- An engine with the addons that redirect. -/
structure Course.Sound (c : Course) : Prop where
  chain : c.stage.addons.chain = Chain.core
  keyed : c.world.guard.Keyed
  tidy : c.world.agenda.Tidy

theorem Turn.of_leaves {m : Move} {s t : Scene World} (h : Leaves m.onGuard s t) : Turn m s t :=
  .keeps h.clock.ge h.ledger h.guard

theorem within_ask (n : Navigation) (table : List Setting) :
    Within (Leaves Guard.Fades) (Redirect.ask n table) := by
  intro s
  cases hwatched : n.isWatched table with
  | false =>
    rw [after_of_ok (ask_of_ignored hwatched)]
    exact refl_of (Leaves Guard.Fades) s
  | true =>
    cases hs : (s.world.guard.isSuppressed s.millis n.tab).1 with
    | true =>
      obtain ⟨log, hask⟩ := ask_of_suppressed hwatched hs
      rw [after_of_ok hask]
      exact ⟨rfl, .rfl, .rfl⟩
    | false =>
      rw [after_of_ok (ask_of_free hwatched hs)]
      exact ⟨rfl, .of_eq rfl rfl rfl, Guard.fades_isSuppressed _ _ _⟩

theorem Turn.of_world {m : Move} {s t : Scene World} (clock : t.clock = s.clock)
    (world : t.world = s.world) : Turn m s t := by
  refine .of_leaves ⟨clock, ?_, ?_⟩
  · rw [world]
    exact .rfl
  · rw [world]
    exact refl_of (m.onGuard s.millis) _

theorem finish_turn (k : Nat) (n : Navigation) (r : Rules.Request) (table : List Setting)
    (s : Scene World) : Turn (.answer k) s (after (Redirect.finish n r table) s) := by
  obtain ⟨log, hfinish⟩ := finish_spec n r table s
  rw [after_of_ok hfinish]
  cases Rule.targetOf (r.usable table s.world) n.url with
  | none => exact .of_world rfl rfl
  | some url =>
    cases hs : (s.world.guard.isSuppressed s.millis n.tab).1 with
    | true => exact .of_world rfl (World.redirecting_of_suppressed hs url)
    | false =>
      exact .records ⟨n.tab, url, s.millis⟩ rfl rfl hs (World.redirecting_of_free hs url)

namespace Course

variable {c : Course}

/-- An operation that stays within what a move can do to the guard. -/
theorem turn_of_within {α : Type} {a : Engine α} {m : Move} (hc : c.Sound)
    (ha : Within (Action.Moves Chain.core (Leaves m.onGuard)) a) :
    (c.act a).stage.addons = c.stage.addons ∧ Turn m c.scene (c.act a).scene := by
  obtain ⟨haddons, hleaves⟩ := ha (c.settings, c.stage)
  exact ⟨haddons, .of_leaves (hleaves hc.chain)⟩

theorem answer_turn (k : Nat) :
    (c.answer k).stage.addons = c.stage.addons ∧ Turn (.answer k) c.scene (c.answer k).scene := by
  unfold answer
  cases c.waiting[k]? with
  | none => exact ⟨rfl, .of_world rfl rfl⟩
  | some w =>
    obtain ⟨n, r⟩ := w
    have hact := Action.after_onScene (Redirect.finish n r) (c.settings, c.stage)
    simp only [act, hact, scene]
    exact ⟨trivial, finish_turn k n r _ _⟩

theorem wait_turn (time : Rat) :
    (c.step (.wait time)).stage.addons = c.stage.addons ∧
      Turn (.wait time) c.scene (c.step (.wait time)).scene :=
  ⟨rfl, .keeps (le_max_left _ _) (.wakeAt _ _) .rfl⟩

/-- A command that is ready is given once, and that is all, whether it fails or not. -/
theorem task_of_command {tab : Id} {url : String} {rest : List Task}
    (hready : c.world.agenda.ready = .navigate tab url :: rest) :
    (c.step .task).stage.addons = c.stage.addons ∧ (c.step .task).scene.clock = c.scene.clock ∧
      (c.step .task).world = c.world.withCommand tab url rest := by
  have hstep : after Engine.step (c.settings, c.stage) =
      after (Engine.runTask (.navigate tab url)) (Engine.withReady (c.settings, c.stage) rest) :=
    after_of_ok (Engine.step_of_ready hready)
  have hact := Action.after_onScene (fun _ => Redirect.navigate tab url)
    (Engine.withReady (c.settings, c.stage) rest)
  obtain ⟨log, hnavigate⟩ :=
    navigate_spec tab url (Engine.withReady (c.settings, c.stage) rest).2.scene
  rw [after_of_ok hnavigate] at hact
  simp only [step, act, hstep, Engine.runTask, Engine.onScene, hact]
  exact ⟨rfl, rfl, rfl⟩

theorem task_turn (hc : c.Sound) :
    (c.step .task).stage.addons = c.stage.addons ∧ Turn .task c.scene (c.step .task).scene := by
  cases hready : c.world.agenda.ready with
  | nil =>
    have hstep : after Engine.step (c.settings, c.stage) = (c.settings, c.stage) :=
      after_of_ok (Engine.step_of_idle hready)
    simp only [step, act, hstep, scene]
    exact ⟨trivial, .of_world rfl rfl⟩
  | cons t rest =>
    have hstep : after Engine.step (c.settings, c.stage) =
        after (Engine.runTask t) (Engine.withReady (c.settings, c.stage) rest) :=
      after_of_ok (Engine.step_of_ready hready)
    rcases hc.tidy.ready t (by simp [hready]) with ⟨x, rfl⟩ | ⟨tab, url, rfl⟩
    · simp only [step, act, hstep, scene]
      obtain ⟨haddons, hleaves⟩ :=
        Engine.within_runAlarm x (Engine.withReady (c.settings, c.stage) rest)
      have hpop : Leaves Guard.Fades c.scene
          (Engine.withReady (c.settings, c.stage) rest).2.scene :=
        ⟨rfl, .pop_alarm hready, .rfl⟩
      exact ⟨haddons, .of_leaves (trans_of (Leaves Guard.Fades) hpop (hleaves hc.chain))⟩
    · obtain ⟨haddons, hclock, hworld⟩ := task_of_command hready
      exact ⟨haddons, .gives tab url rest hclock hready hworld⟩

theorem step_turn (hc : c.Sound) (m : Move) :
    (c.step m).stage.addons = c.stage.addons ∧ Turn m c.scene (c.step m).scene := by
  cases m with
  | look n => exact turn_of_within (m := .look n) hc (Action.within_onScene (within_ask n))
  | answer k => exact answer_turn k
  | close tab =>
    exact turn_of_within hc (Action.within_triggerEvent leaves_note (tabRemoved_within tab))
  | sweep => exact turn_of_within (m := .sweep) hc (Action.within_onScene fun _ => within_sweep)
  | update values =>
    exact turn_of_within (m := .update values) hc
      (Action.within_update leaves_note (configure_within _) values)
  | supply files memory =>
    exact turn_of_within hc (Engine.within_change (fun _ => .of_eq rfl rfl rfl) fun _ => rfl)
  | breakTabs failure =>
    exact turn_of_within hc (Engine.within_change (fun _ => .of_eq rfl rfl rfl) fun _ => rfl)
  | wait time => exact wait_turn time
  | task => exact task_turn hc
  | running => exact turn_of_within hc (Action.within_triggerEvent leaves_note running_within)
  | done => exact turn_of_within hc (Action.within_triggerEvent leaves_note done_within)

theorem Sound.of_turn (hc : c.Sound) {m : Move} {d : Course}
    (hd : d.stage.addons = c.stage.addons) (h : Turn m c.scene d.scene) : d.Sound := by
  have hchain : d.stage.addons.chain = Chain.core := by rw [hd, hc.chain]
  cases h with
  | keeps clock ledger guard =>
    exact ⟨hchain, m.keyed_of_onGuard guard hc.keyed, ledger.tidy hc.tidy⟩
  | records e clock now free world =>
    refine ⟨hchain, ?_, ?_⟩
    · rw [Course.world, world]
      exact (hc.keyed.isSuppressed _ _).record _ _ _
    · rw [Course.world, world]
      exact hc.tidy.spawn (.inr ⟨e.tab, e.url, rfl⟩)
  | gives tab url rest clock ready world =>
    refine ⟨hchain, ?_, ?_⟩
    · rw [Course.world, world]
      exact hc.keyed
    · rw [Course.world, world]
      exact hc.tidy.pop ready

theorem Sound.step (hc : c.Sound) (m : Move) : (c.step m).Sound :=
  hc.of_turn (step_turn hc m).1 (step_turn hc m).2

theorem Sound.run (hc : c.Sound) (moves : List Move) : (c.run moves).Sound := by
  induction moves generalizing c with
  | nil => exact hc
  | cons m moves ih => exact ih (hc.step m)

theorem Reachable.sound (hc : c.Reachable) : c.Sound := by
  induction hc with
  | opening settings lookup s cooldown =>
    exact ⟨rfl, ⟨.nil, List.forall_mem_nil _⟩, ⟨List.forall_mem_nil _, List.forall_mem_nil _⟩⟩
  | step m _ ih => exact ih.step m

end Course
end Detour
