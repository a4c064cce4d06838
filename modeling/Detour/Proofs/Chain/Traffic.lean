import Detour.Proofs.Sending

/-!
# Events under way

Several events may be under way at once: one whose handler is suspended is left where it is, and
others go on meanwhile, or addons are added and removed. A handler that does such a thing itself does
it between its own call and the next. An event that was sent out goes through the addons that were in
the chain then and those that are added behind them; addons that are removed stay on its way, since
their removal makes a new chain.

An event that is left alone does what `Dispatch.triggerEvent` or `Dispatch.trigger` does
(`Round.remaining_stepBy`, `Round.remaining_resume`).
-/
namespace Detour

namespace Dispatch

variable {W : Type} {event : Event}

/-- Whether an event waits for handlers that are suspended, or allows none. -/
inductive Manner where
  | waiting
  | atOnce
  deriving DecidableEq

def beginCall (m : Manner) (event : Event) (a : Addon W) :
    Handling W (Option (Handling W Unit)) := fun table =>
  match m with
  | .waiting => start event a table
  | .atOnce => do
    callSync event a table
    return none

def endCall (finish? : Option (Handling W Unit)) : Handling W Unit := fun table =>
  match finish? with
  | some finish => finish table
  | none => pure ()

def invokeBy : Manner → Event → List (Addon W) → Handling W Unit
  | .waiting => invoke
  | .atOnce => invokeSync

def sendBy : Manner → Event → List (Addon W) → Handling W Unit
  | .waiting => triggerEvent
  | .atOnce => trigger

theorem invokeBy_nil (m : Manner) (event : Event) (table : List Setting) :
    invokeBy m event ([] : List (Addon W)) table = pure () := by
  cases m <;> rfl

theorem invokeBy_cons (m : Manner) (event : Event) (a : Addon W) (rest : List (Addon W))
    (table : List Setting) :
    invokeBy m event (a :: rest) table = (beginCall m event a table >>= fun finish? =>
      endCall finish? table >>= fun _ => invokeBy m event rest table) := by
  cases m with
  | waiting =>
    simp only [invokeBy, beginCall, invoke]
    congr 1
    funext finish?
    cases finish? <;> simp only [endCall, pure_bind]
  | atOnce => simp only [invokeBy, beginCall, invokeSync, bind_assoc, pure_bind, endCall]

theorem sendBy_cons (m : Manner) (event : Event) (a : Addon W) (rest : List (Addon W))
    (table : List Setting) :
    sendBy m event (a :: rest) table = (guarded (invokeBy m event a.tree) table >>= fun
      | .goesOn => sendBy m event rest table
      | .halted => pure ()) := by
  cases m <;> rfl

namespace Round

variable {m : Manner} {r : Round W} {table : List Setting} {s t : Scene W}

def stepBy (m : Manner) (r : Round W) : Handling W (Turn W) := fun table s =>
  match r.here with
  | [] => .ok (r.turnAfter .goesOn) s
  | a :: here =>
    match beginCall m r.event a table s with
    | .ok none s => .ok (.ready { r with here }) s
    | .ok (some finish) s => .ok (.suspended finish { r with here }) s
    | .error f s => r.fail f table s

def leave (m : Manner) (r : Round W) (o : Outcome) : Handling W Unit := fun table =>
  match o with
  | .goesOn => sendBy m r.event r.rest table
  | .halted => pure ()

/-- What is still to be done after a turn if nothing comes between. -/
def Turn.remaining (m : Manner) : Turn W → Handling W Unit
  | .finished => fun _ => pure ()
  | .ready r => fun table => guarded (invokeBy m r.event r.here) table >>= fun o => r.leave m o table
  | .suspended finish r => fun table =>
    guarded (fun table => finish table >>= fun _ => invokeBy m r.event r.here table) table >>=
      fun o => r.leave m o table

theorem remaining_ready (m : Manner) (r : Round W) (table : List Setting) :
    (Turn.ready r).remaining m table =
      (guarded (invokeBy m r.event r.here) table >>= fun o => r.leave m o table) := rfl

theorem remaining_suspended (m : Manner) (finish : Handling W Unit) (r : Round W)
    (table : List Setting) :
    (Turn.suspended finish r).remaining m table =
      (guarded (fun table => finish table >>= fun _ => invokeBy m r.event r.here table) table >>=
        fun o => r.leave m o table) := rfl

theorem remaining_begin (m : Manner) (event : Event) (chain : List (Addon W))
    (table : List Setting) :
    sendBy m event chain table = match begin event chain with
      | some r => (Turn.ready r).remaining m table
      | none => pure () := by
  cases chain with
  | nil => cases m <;> rfl
  | cons a rest =>
    rw [sendBy_cons]
    rfl

theorem remaining_turnAfter (r : Round W) (o : Outcome) (table : List Setting) :
    (r.turnAfter o).remaining m table = r.leave m o table := by
  cases o with
  | halted => rfl
  | goesOn =>
    have hbegin := remaining_begin m r.event r.rest table
    rw [leave, hbegin, turnAfter, nextAddon]
    cases begin r.event r.rest <;> rfl

theorem guarded_of_error {part : Handling W Unit} {f : Failure} (h : part table s = .error f t) :
    guarded part table s = guarded (fun _ => throw f) table t := by
  simp only [guarded, h]
  rfl

theorem guarded_of_next {part next : Handling W Unit} {table : List Setting} {s t : Scene W}
    (h : part table s = next table t) : guarded part table s = guarded next table t := by
  simp only [guarded, h]

/-- After a failure only the addons behind the tree are still to be told. -/
theorem remaining_fail (part : Handling W Unit) {f : Failure} (h : part table s = .error f t) :
    (r.fail f table >>= fun turn => turn.remaining m table) t =
      (guarded part table >>= fun o => r.leave m o table) s := by
  have hfail : r.fail f table = (guarded (fun _ => throw f) table >>= fun o =>
      pure (r.turnAfter o)) := rfl
  rw [hfail, bind_assoc]
  simp only [pure_bind, remaining_turnAfter]
  exact (bind_of_eq (guarded_of_error h) _).symm

/-- To call the next handler, and then to do what is still to be done, is what was to be done. -/
theorem remaining_stepBy (m : Manner) (r : Round W) (table : List Setting) :
    (r.stepBy m table >>= fun turn => turn.remaining m table) =
      (Turn.ready r).remaining m table := by
  funext s
  rw [remaining_ready]
  cases hhere : r.here with
  | nil =>
    have hstep : r.stepBy m table s = .ok (r.turnAfter .goesOn) s := by simp [stepBy, hhere]
    have hdone : guarded (invokeBy m r.event []) table s = .ok .goesOn s :=
      guarded_of_ok (by rw [invokeBy_nil]; rfl)
    rw [bind_of_ok hstep, bind_of_ok hdone, remaining_turnAfter]
  | cons a here =>
    have hcons := congrFun (invokeBy_cons m r.event a here table) s
    cases hcall : beginCall m r.event a table s with
    | error f t =>
      have hstep : r.stepBy m table s = r.fail f table t := by simp [stepBy, hhere, hcall]
      rw [bind_of_error hcall] at hcons
      rw [bind_of_eq hstep, remaining_fail _ hcons]
    | ok finish? t =>
      rw [bind_of_ok hcall] at hcons
      cases finish? with
      | none =>
        have hstep : r.stepBy m table s = .ok (.ready { r with here }) t := by
          simp [stepBy, hhere, hcall]
        rw [bind_of_ok hstep, remaining_ready]
        exact (bind_of_eq (guarded_of_next hcons) _).symm
      | some finish =>
        have hstep : r.stepBy m table s = .ok (.suspended finish { r with here }) t := by
          simp [stepBy, hhere, hcall]
        rw [bind_of_ok hstep, remaining_suspended]
        exact (bind_of_eq (guarded_of_next hcons) _).symm

theorem remaining_resume (m : Manner) (finish : Handling W Unit) (r : Round W)
    (table : List Setting) :
    (r.resume finish table >>= fun turn => turn.remaining m table) =
      (Turn.suspended finish r).remaining m table := by
  funext s
  rw [remaining_suspended]
  cases hfinish : finish table s with
  | ok u t =>
    have hresume : r.resume finish table s = .ok (.ready r) t := by simp [resume, hfinish]
    rw [bind_of_ok hresume, remaining_ready]
    exact (bind_of_eq (guarded_of_next (bind_of_ok hfinish)) _).symm
  | error f t =>
    have hresume : r.resume finish table s = r.fail f table t := by simp [resume, hfinish]
    rw [bind_of_eq hresume,
      remaining_fail (fun table => finish table >>= fun _ => invokeBy m r.event r.here table)
        (bind_of_error hfinish)]

def ahead (r : Round W) : List (Addon W) := r.here ++ Addon.forest r.rest

def Turn.extend (a : Addon W) : Turn W → Turn W
  | .finished => .finished
  | .ready r => .ready { r with rest := r.rest ++ [a] }
  | .suspended finish r => .suspended finish { r with rest := r.rest ++ [a] }

end Round
end Dispatch

open Dispatch

structure Underway (W : Type) where
  manner : Manner
  /-- Whether the chain that it goes through is the present one. -/
  follows : Bool
  turn : Round.Turn W

namespace Underway

variable {W : Type}

/-- Do the next thing that the event has to do. -/
def proceed (u : Underway W) : Handling W (Round.Turn W) := fun table =>
  match u.turn with
  | .finished => pure .finished
  | .ready r => r.stepBy u.manner table
  | .suspended finish r => r.resume finish table

def extend (a : Addon W) (u : Underway W) : Underway W :=
  if u.follows then { u with turn := u.turn.extend a } else u

def leaveBehind (u : Underway W) : Underway W := { u with follows := false }

end Underway

/-- Settings, addons and the events under way. -/
structure Traffic (W : Type) where
  settings : Settings
  stage : Stage W
  underway : List (Underway W)

inductive Traffic.Move (W : Type) where
  | send (manner : Manner) (event : Event)
  /-- One of the events under way goes on. -/
  | proceed (index : Nat)
  | add (a : Addon W)
  | remove (a : Addon W)
  | update (values : List (String × Value))

namespace Traffic

variable {W : Type}

def send (m : Manner) (event : Event) (t : Traffic W) : Traffic W :=
  match Round.begin event t.stage.addons.chain with
  | some r => { t with underway := t.underway ++ [⟨m, true, .ready r⟩] }
  | none => t

/-- A refusal ends the event that it comes from. -/
def proceed (index : Nat) (t : Traffic W) : Traffic W :=
  match t.underway[index]? with
  | none => t
  | some u =>
    match u.proceed t.settings.table t.stage.scene with
    | .ok turn scene =>
      { t with stage := { t.stage with scene }, underway := t.underway.set index { u with turn } }
    | .error _ scene =>
      { t with
        stage := { t.stage with scene }
        underway := t.underway.set index { u with turn := .finished } }

def act (action : Action W Unit) (t : Traffic W) : Traffic W :=
  { t with
    settings := (after action (t.settings, t.stage)).1
    stage := (after action (t.settings, t.stage)).2 }

def add (a : Addon W) (t : Traffic W) : Traffic W :=
  match outcome (Action.add a) (t.settings, t.stage) with
  | .ok _ => { t.act (Action.add a) with underway := t.underway.map (·.extend a) }
  | .error _ => t.act (Action.add a)

/-- The first addon that is forgotten makes a new chain. -/
def remove (a : Addon W) (t : Traffic W) : Traffic W :=
  if t.stage.addons.contains a.name then
    { t.act (Action.remove a) with underway := t.underway.map (·.leaveBehind) }
  else t.act (Action.remove a)

def step (t : Traffic W) : Move W → Traffic W
  | .send m event => t.send m event
  | .proceed index => t.proceed index
  | .add a => t.add a
  | .remove a => t.remove a
  | .update values => t.act (Action.update values)

def run (t : Traffic W) (moves : List (Move W)) : Traffic W := moves.foldl step t

end Traffic
end Detour
