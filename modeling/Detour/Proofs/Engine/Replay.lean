import Detour.Proofs.Engine.Keeping
import Detour.Proofs.Engine.Navigation

/-!
# Reading a record in the background

How the reading of a record ends is settled by its lines (`Reading.result?`): with the number of
events, with a line that is no event, with a fault in the encoding, or with a wait that is too long.
Events do not come into it, since they never fail. What has been read up to a wait leaves a task
that is to end the same way (`Engine.readLines_spec`). In the end the result is logged and the
engine is stopped, if the result is one that is reported (`Engine.report?`).
-/
namespace Detour

namespace Reading

/-- How the reading of some lines ends; not at all if there is a wait without end. -/
def endOf (ending : Option Text.Utf8.Fault) (number events : Nat) :
    List String → Option (Except Failure Nat)
  | [] => some <| match ending with
    | none => .ok events
    | some f => .error (.encoding f)
  | line :: rest =>
    match Command.ofLine line with
    | .error f => some (.error (.replay (.line number f)))
    | .ok none => endOf ending (number + 1) events rest
    | .ok (some (.wait ms)) =>
      match Pause.ofMillis ms with
      | .seconds _ => endOf ending (number + 1) (events + 1) rest
      | .endless => none
      | .tooLong => some (.error .waitTooLong)
    | .ok (some (.navigation _)) | .ok (some (.removed _)) =>
      endOf ending (number + 1) (events + 1) rest

def result? (r : Reading) : Option (Except Failure Nat) :=
  endOf r.ending r.number r.events r.lines

/-- How the reading of a file ends, if it can be opened at all. -/
def resultOf (source : Except Failure Reading) : Option (Except Failure Nat) :=
  match source with
  | .ok r => r.result?
  | .error f => some (.error f)

end Reading

namespace Dispatch

theorem triggerEvent_navigation_ok (n : Navigation) (table : List Setting) (s : Scene World) :
    ∃ t, triggerEvent (.navigationCompleted n) Chain.core table s = .ok () t := by
  obtain ⟨request, t, hask⟩ := ask_spec n table s
  cases request with
  | none => exact ⟨t, triggerEvent_of_unasked hask⟩
  | some r =>
    obtain ⟨log, hfinish⟩ := finish_spec n r table t
    exact ⟨_, triggerEvent_of_asked hask hfinish⟩

theorem triggerEvent_removal (tab : Id) (table : List Setting) (s : Scene World) :
    triggerEvent (.tabRemoved tab) Chain.core table s =
      .ok () { s with world := s.world.mapGuard (·.clear tab) } := by
  unfold Chain.core
  rw [triggerEvent_of_absent rfl rfl, triggerEvent_of_plain (a := Chain.loopGuard) rfl rfl rfl,
    triggerEvent_of_absent rfl rfl, triggerEvent_of_absent rfl rfl, triggerEvent_of_absent rfl rfl]
  rfl

end Dispatch

namespace Engine

variable {g : Settings × Stage World}

/-- Records do not matter to the events that they tell of. -/
theorem triggerEvent_standard {event : Event} {t : Scene World}
    (habsent : Chain.readEvents.handler event = .absent)
    (hchain : g.2.addons.chain = Chain.standard)
    (hcore : Dispatch.triggerEvent event Chain.core g.1.table g.2.scene = .ok () t) :
    Action.triggerEvent event g = .ok () (g.1, { g.2 with scene := t }) := by
  rw [← Dispatch.triggerEvent_concat_of_absent habsent rfl] at hcore
  have hstandard : Chain.core ++ [Chain.readEvents] = g.2.addons.chain := hchain.symm
  rw [hstandard] at hcore
  exact Action.triggerEvent_of_ok hcore

theorem triggerEvent_ok {event : Event}
    (habsent : Chain.readEvents.handler event = .absent)
    (hcore : ∀ table s, ∃ t, Dispatch.triggerEvent event Chain.core table s = .ok () t)
    (hchain : g.2.addons.chain = Chain.standard) :
    ∃ h, Action.triggerEvent event g = .ok () h ∧ h.2.addons.chain = Chain.standard := by
  obtain ⟨t, ht⟩ := hcore g.1.table g.2.scene
  exact ⟨_, triggerEvent_standard habsent hchain ht, hchain⟩

/-- What has been read so far is to end in some way. -/
def Stands (result : Option (Except Failure Nat)) : ReadState → Prop
  | .ended r => result = some r
  | .waits (.seconds _) r => result = r.result?
  | .waits .endless _ => result = none
  | .waits .tooLong _ => result = some (.error .waitTooLong)

/-- Reading on never fails, and ends as the lines say. -/
theorem readLines_spec (hchain : g.2.addons.chain = Chain.standard)
    (ending : Option Text.Utf8.Fault) (lines : List String) (number events : Nat) :
    ∃ state h, readLines ending number events lines g = .ok state h ∧
      Stands (Reading.endOf ending number events lines) state := by
  -- Events change the engine, so the hypothesis is about every engine with these addons.
  induction lines generalizing number events g with
  | nil => exact ⟨_, g, rfl, rfl⟩
  | cons line rest ih =>
    unfold readLines Reading.endOf
    cases hline : Command.ofLine line with
    | error f => exact ⟨_, g, rfl, rfl⟩
    | ok command? =>
      cases command? with
      | none => exact ih hchain _ _
      | some command =>
        cases command with
        | navigation n =>
          have habsent : Chain.readEvents.handler (.navigationCompleted n) = .absent := rfl
          obtain ⟨h, htrigger, hstill⟩ :=
            triggerEvent_ok habsent (Dispatch.triggerEvent_navigation_ok n) hchain
          dsimp only
          rw [bind_of_ok htrigger]
          exact ih hstill _ _
        | removed tab =>
          have habsent : Chain.readEvents.handler (.tabRemoved tab) = .absent := rfl
          have hcore (table : List Setting) (s : Scene World) :
              ∃ t, Dispatch.triggerEvent (.tabRemoved tab) Chain.core table s = .ok () t :=
            ⟨_, Dispatch.triggerEvent_removal tab table s⟩
          obtain ⟨h, htrigger, hstill⟩ := triggerEvent_ok habsent hcore hchain
          dsimp only
          rw [bind_of_ok htrigger]
          exact ih hstill _ _
        | wait ms =>
          refine ⟨_, g, rfl, ?_⟩
          cases hpause : Pause.ofMillis ms <;> simp [Stands, Reading.result?, hpause]

theorem keeping_readLines (ending : Option Text.Utf8.Fault) (lines : List String)
    (number events : Nat) : Within Keeping (readLines ending number events lines) := by
  induction lines generalizing number events with
  | nil => exact within_pure _
  | cons line rest ih =>
    unfold readLines
    split
    · exact within_pure _
    · exact ih _ _
    · exact within_pure _
    · exact (keeping_triggerEvent _).bind fun _ => ih _ _
    · exact (keeping_triggerEvent _).bind fun _ => ih _ _

/-- What is logged of a result. A failure that is neither in the lines nor in opening the file is
not reported. -/
def report? (path : String) : Except Failure Nat → Option LogRecord
  | .ok n => some (.plain Level.info s!"Replayed {n} events from {path}.")
  | .error (.replay f) => some (.plain Level.error s!"Failed to read {path}: {f.message}")
  | .error _ => none

def leave (serial : Nat) : Engine Unit := do
  if (← world).reading = some serial then change fun w => { w with reading := none }

def stop : Engine Unit := do
  let (s, _) ← get
  if !(World.valueIn s.table Chain.keepServingSetting.name).isTrue then
    change fun w => w.spawn .exit

/-- What is to be said of a result; a failure that is not reported is passed on. -/
def tell (path : String) (r : Except Failure Nat) : Engine Unit :=
  match r with
  | .ok n => log (.plain Level.info s!"Replayed {n} events from {path}.")
  | .error (.replay f) => log (.plain Level.error s!"Failed to read {path}: {f.message}")
  | .error f => throw f

theorem leave_eq (serial : Nat) (g : Settings × Stage World) :
    leave serial g = (if g.2.scene.world.reading = some serial then
      change fun w => { w with reading := none } else pure ()) g :=
  bind_of_ok (show world g = .ok g.2.scene.world g from rfl)

theorem endBackground_eq (serial : Nat) (path : String) (r : Except Failure Nat) :
    endBackground serial path r = (do leave serial; tell path r; stop) := by
  funext g
  have hworld : world g = .ok g.2.scene.world g := rfl
  rw [endBackground, bind_of_ok hworld]
  -- What follows the first step is repeated in both branches.
  by_cases hreading : g.2.scene.world.reading = some serial
  · have hleft : leave serial g = .ok () _ :=
      (leave_eq serial g).trans (by rw [if_pos hreading]; rfl)
    rw [if_pos hreading, bind_of_ok hleft]
    cases r with
    | ok n => rfl
    | error f => cases f <;> rfl
  · have hleft : leave serial g = .ok () g :=
      (leave_eq serial g).trans (by rw [if_neg hreading]; rfl)
    rw [if_neg hreading, bind_of_ok hleft]
    cases r with
    | ok n => rfl
    | error f => cases f <;> rfl

theorem tell_of_reported {path : String} {r : Except Failure Nat} {record : LogRecord}
    (h : report? path r = some record) : tell path r = log record := by
  unfold report? at h
  split at h <;> cases h <;> rfl

theorem keeping_leave (serial : Nat) : Within Keeping (leave serial) := by
  refine within_world.bind fun w => ?_
  split
  · exact keeping_change (fun _ => .rfl) fun _ => rfl
  · exact within_pure ()

theorem keeping_tell (path : String) (r : Except Failure Nat) : Within Keeping (tell path r) := by
  unfold tell
  split
  · exact keeping_log _
  · exact keeping_log _
  · exact within_throw _

theorem keeping_stop : Within Keeping stop := by
  refine within_get.bind fun g => ?_
  dsimp only
  split
  · exact keeping_change (fun w => Agenda.keeps_spawn w.agenda .exit) fun _ => rfl
  · exact within_pure ()

theorem keeping_endReading (who : Reader) (r : Except Failure Nat) :
    Within Keeping (endReading who r) := by
  cases who with
  | caller => exact keeping_change (fun _ => .rfl) fun _ => rfl
  | background serial path =>
    rw [endReading, endBackground_eq]
    exact (keeping_leave serial).bind fun _ => (keeping_tell path r).bind fun _ => keeping_stop

/-- The engine has been asked to stop, and the log says how a reading has ended. -/
structure Closed (record : LogRecord) (s : Scene World) : Prop where
  stopping : Task.exit ∈ s.world.agenda.ready ∨ s.world.exiting = true
  told : ∃ time, (time, record) ∈ s.log

theorem Closed.keeps {record : LogRecord} {s t : Scene World} (h : Closed record s)
    (hst : Keeps s t) : Closed record t := by
  refine ⟨h.stopping.imp (fun hexit => hst.agenda.ready _ hexit rfl) hst.exiting, ?_⟩
  obtain ⟨time, htold⟩ := h.told
  exact ⟨time, hst.log.subset htold⟩

def goesOn (s : Settings) : Bool :=
  (World.valueIn s.table Chain.keepServingSetting.name).isTrue

def withReading (g : Settings × Stage World) (reading : Option Nat) : Settings × Stage World :=
  (g.1, { g.2 with scene := { g.2.scene with world := { g.2.scene.world with reading } } })

theorem leave_spec (serial : Nat) (g : Settings × Stage World) :
    ∃ reading, leave serial g = .ok () (withReading g reading) := by
  rw [leave_eq]
  split
  · exact ⟨none, rfl⟩
  · exact ⟨g.2.scene.world.reading, rfl⟩

theorem stop_of_not_goesOn (h : goesOn g.1 = false) :
    stop g = change (fun w => w.spawn .exit) g := by
  rw [stop, get_bind]
  simp only [goesOn] at h
  simp [h]

theorem closed_of_reported {path : String} {r : Except Failure Nat} {record : LogRecord}
    (h : report? path r = some record) (hstop : goesOn g.1 = false) (serial : Nat) :
    Closed record (after (endBackground serial path r) g).2.scene := by
  obtain ⟨reading, hleave⟩ := leave_spec serial g
  have hlog : log record (withReading g reading) = .ok () (g.1, { (withReading g reading).2 with
      scene := (withReading g reading).2.scene.note record }) := rfl
  have hexit := stop_of_not_goesOn (g := (g.1, { (withReading g reading).2 with
    scene := (withReading g reading).2.scene.note record })) hstop
  rw [endBackground_eq, tell_of_reported h, after_bind_of_ok hleave, after_bind_of_ok hlog,
    after_of_eq hexit]
  exact ⟨.inl (List.mem_append_right _ (List.mem_singleton.mpr rfl)),
    ⟨g.2.scene.clock, List.mem_cons_self ..⟩⟩

/-- A failure that is not reported is lost: nothing is logged and nothing is asked for. -/
theorem endBackground_of_unreported {path : String} {r : Except Failure Nat}
    (h : report? path r = none) (serial : Nat) :
    ∃ reading, after (endBackground serial path r) g = withReading g reading := by
  obtain ⟨reading, hleave⟩ := leave_spec serial g
  have htell : ∃ f, tell path r = throw f := by
    unfold report? at h
    split at h
    · cases h
    · cases h
    · next f hf => exact ⟨f, by unfold tell; split <;> simp_all⟩
  obtain ⟨f, htell⟩ := htell
  refine ⟨reading, ?_⟩
  rw [endBackground_eq, htell, after_bind_of_ok hleave]
  rfl

theorem keeping_readOn (who : Reader) (r : Reading) : Within Keeping (readOn who r) := by
  refine (within_attempt (keeping_readLines _ _ _ _)).bind fun state => ?_
  split
  · exact keeping_endReading _ _
  · exact keeping_endReading _ _
  · exact keeping_endReading _ _
  · exact within_pure ()
  · exact within_clock.bind fun now => keeping_sleepUntil _ _

theorem keeping_openRecord (who : Reader) (path : String) :
    Within Keeping (openRecord who path) := by
  refine within_world.bind fun w => ?_
  split
  · exact keeping_readOn _ _
  · exact keeping_endReading _ _

theorem keeping_runTask (t : Task) : Within Keeping (runTask t) := by
  cases t with
  | alarm x => exact keeping_runAlarm x
  | navigate tab url => exact keeping_navigate tab url
  | openRecord serial path => exact keeping_openRecord _ _
  | read who r => exact keeping_readOn who r
  | exit =>
    have hexit : Within Keeps (World.change fun w => { w with exiting := true }) :=
      fun s => ⟨.rfl, fun _ => rfl, List.suffix_refl s.log⟩
    exact keeping_onScene hexit

theorem mem_tasks_sleepUntil (due : Rat) (t : Task) :
    t ∈ (after (sleepUntil due t) g).2.scene.world.agenda.tasks := by
  have hsleep : sleepUntil due t g = change (fun w => { w with
      agenda := if due ≤ g.2.scene.clock then w.agenda.spawn t else w.agenda.sleepUntil due t }) g :=
    rfl
  have hagenda : (after (sleepUntil due t) g).2.scene.world.agenda =
      if due ≤ g.2.scene.clock then g.2.scene.world.agenda.spawn t
      else g.2.scene.world.agenda.sleepUntil due t := congrArg (·.2.scene.world.agenda)
    (after_of_eq hsleep)
  rw [hagenda]
  split
  · exact Agenda.mem_tasks_spawn.mpr (.inl rfl)
  · exact Agenda.mem_tasks_sleepUntil.mpr (.inl rfl)

/-- A reading under way goes on after a wait as it is to end, or ends so, unless there is a wait
without end. -/
theorem readOn_spec (hchain : g.2.addons.chain = Chain.standard) (who : Reader) (r : Reading) :
    (∃ r' : Reading, r'.result? = r.result? ∧
      Task.read who r' ∈ (after (readOn who r) g).2.scene.world.agenda.tasks) ∨
    r.result? = none ∨
    ∃ result h, r.result? = some result ∧ h.1 = g.1 ∧
      after (readOn who r) g = after (endReading who result) h := by
  obtain ⟨state, h, hread, hstands⟩ := readLines_spec hchain r.ending r.lines r.number r.events
  have hattempt : attempt (readLines r.ending r.number r.events r.lines) g = .ok (.ok state) h := by
    simp [attempt, hread]
  have hsame : h.1 = g.1 := by
    have hkept := keeping_readLines r.ending r.lines r.number r.events g
    rw [after_of_ok hread] at hkept
    exact hkept.1
  have hon : after (readOn who r) g = _ := after_bind_of_ok hattempt
  rw [hon]
  cases state with
  | ended result => exact .inr (.inr ⟨result, h, hstands, hsame, rfl⟩)
  | waits p r' =>
    cases p with
    | seconds s => exact .inl ⟨r', hstands.symm, mem_tasks_sleepUntil _ _⟩
    | endless => exact .inr (.inl hstands)
    | tooLong => exact .inr (.inr ⟨_, h, hstands, hsame, rfl⟩)

/-- A reading that is to end with a result that is reported is still under way, or has ended so. -/
def Bound (serial : Nat) (path : String) (result : Option (Except Failure Nat)) (s : Scene World) :
    Prop :=
  ∀ record, result.bind (report? path) = some record →
    (∃ r : Reading, r.result? = result ∧
      Task.read (.background serial path) r ∈ s.world.agenda.tasks) ∨ Closed record s

theorem bound_readOn (hchain : g.2.addons.chain = Chain.standard) (hstop : goesOn g.1 = false)
    (serial : Nat) (path : String) (r : Reading) :
    Bound serial path r.result? (after (readOn (.background serial path) r) g).2.scene := by
  intro record hrecord
  rcases readOn_spec hchain (.background serial path) r with
    hwaits | hendless | ⟨x, h, hx, hsame, hend⟩
  · exact .inl hwaits
  · rw [hendless] at hrecord
    cases hrecord
  · rw [hx] at hrecord
    rw [hend]
    exact .inr (closed_of_reported hrecord (hsame ▸ hstop) serial)

theorem bound_openRecord (hchain : g.2.addons.chain = Chain.standard) (hstop : goesOn g.1 = false)
    (serial : Nat) (path : String) :
    Bound serial path
      (Reading.resultOf (Reading.ofFile g.2.scene.world.files g.2.scene.world.input path))
      (after (openRecord (.background serial path) path) g).2.scene := by
  have hopen : openRecord (.background serial path) path g =
      (match Reading.ofFile g.2.scene.world.files g.2.scene.world.input path with
        | .ok r => readOn (.background serial path) r
        | .error f => endReading (.background serial path) (.error f)) g := rfl
  rw [after_of_eq hopen]
  cases Reading.ofFile g.2.scene.world.files g.2.scene.world.input path with
  | ok r => exact bound_readOn hchain hstop serial path r
  | error f => exact fun record hrecord => .inr (closed_of_reported hrecord hstop serial)

end Engine
end Detour
