import Detour.Proofs.Signal.Run
import Mathlib.Data.List.Basic

/-!
# The course of a send

Receivers may connect, disconnect and drop others, send again and fail while a send goes on. Still
each connection that there was at its start has its turn, in order, up to the first that fails, and
in its turn a receiver is called just where it is still alive; and no connection is lost or comes
back (`Signal.send_course`). The prune at the end of a send spares the receiver that was called last,
even if another has dropped it meanwhile (`Signal.last_called_stays_connected`).
-/
namespace Detour.Signal

variable {α : Type} {b : Behaviour α} {kept : List Receiver} {a : α} {s t : State α}

theorem State.isAlive_iff {x : Receiver} : s.isAlive kept x = true ↔ x ∈ s.owned ∨ x ∈ kept := by
  simp [isAlive]

theorem State.isAlive_mono {more : List Receiver} (h : kept ⊆ more) {x : Receiver}
    (hx : s.isAlive kept x = true) : s.isAlive more x = true :=
  isAlive_iff.mpr ((isAlive_iff.mp hx).imp_right fun hkept => h hkept)

/-- A receiver that is alive while another is called was alive before, or is the one called. -/
theorem State.isAlive_of_note {last : Option Receiver} {r x : Receiver}
    (halive : s.isAlive (last.toList ++ kept) r = true)
    (hx : (s.note r a).isAlive (r :: kept) x = true) : s.isAlive (last.toList ++ kept) x = true := by
  rw [isAlive_iff, List.mem_cons] at hx
  obtain howned | rfl | hkept := hx
  · exact isAlive_iff.mpr (.inl howned)
  · exact halive
  · exact isAlive_iff.mpr (.inr (List.mem_append_right _ hkept))

/-- Nobody comes back to life. -/
theorem Runs.isAlive_before {task : Task α} {edits : List Edit} {held : List Receiver} {e : Ending}
    (h : Runs b kept task s edits held e t) {x : Receiver} (hx : t.isAlive (held ++ kept) x = true) :
    s.isAlive (task.held ++ kept) x = true := by
  induction h with
  | ended | done | failed => exact hx
  | passed _ _ ih => exact State.isAlive_mono (List.subset_append_right _ _) (ih hx)
  | called halive _ _ ihcall ihrest =>
    exact State.isAlive_of_note halive
      (ihcall (State.isAlive_mono (List.subset_append_right _ _) (ihrest hx)))
  | broken halive _ ih =>
    exact State.isAlive_of_note halive (ih (State.isAlive_mono (List.subset_append_right _ _) hx))
  | connect _ ih | disconnect _ ih => exact ih hx
  | drop _ ih =>
    exact State.isAlive_iff.mpr ((State.isAlive_iff.mp (ih hx)).imp_left List.mem_of_mem_filter)
  | sent _ _ ihsend ihrest | attempted _ _ ihsend ihrest =>
    exact ihsend (State.isAlive_mono (List.subset_append_right _ _) (ihrest hx))
  | sentInVain _ ih => exact ih (State.isAlive_mono (List.subset_append_right _ _) hx)

theorem connectionsAfter_append (first later : List Edit) (rs : List Receiver) :
    connectionsAfter (first ++ later) rs = connectionsAfter later (connectionsAfter first rs) :=
  List.foldl_append

theorem ownersAfter_append (first later : List Edit) (rs : List Receiver) :
    ownersAfter (first ++ later) rs = ownersAfter later (ownersAfter first rs) :=
  List.foldl_append

/-- Connections to other receivers play no part. -/
theorem filter_connectionsAfter_congr {p : Receiver → Bool} {rs rs' : List Receiver}
    (h : rs.filter p = rs'.filter p) (edits : List Edit) :
    (connectionsAfter edits rs).filter p = (connectionsAfter edits rs').filter p := by
  induction edits generalizing rs rs' with
  | nil => exact h
  | cons edit edits ih =>
    have hedit : (edit.connections rs).filter p = (edit.connections rs').filter p := by
      cases edit with
      | connect r => simp [Edit.connections, h]
      | disconnect r =>
        simp only [Edit.connections]
        rw [List.filter_comm, h, List.filter_comm]
      | drop r => exact h
    exact ih hedit

theorem Runs.owned_eq {task : Task α} {edits : List Edit} {held : List Receiver} {e : Ending}
    (h : Runs b kept task s edits held e t) : t.owned = ownersAfter edits s.owned := by
  induction h with
  | ended | done | failed => rfl
  | passed _ _ ih | broken _ _ ih | connect _ ih | disconnect _ ih | drop _ ih | sentInVain _ ih =>
    exact ih
  | called _ _ _ ihfirst ihlater =>
    rw [ownersAfter_append, ihlater, ihfirst]
    rfl
  | sent _ _ ihfirst ihlater | attempted _ _ ihfirst ihlater =>
    rw [ownersAfter_append, ihlater, ihfirst]

/-- Of the receivers that live to the end the connections are as the edits made them, whichever
sends pruned them on the way. -/
theorem Runs.filter_connected {task : Task α} {edits : List Edit} {held : List Receiver} {e : Ending}
    (h : Runs b kept task s edits held e t) {p : Receiver → Bool}
    (hp : ∀ x, p x = true → t.isAlive (held ++ kept) x = true) :
    t.connected.filter p = (connectionsAfter edits s.connected).filter p := by
  induction h with
  | @ended kept a last s =>
    have hboth : ∀ x, (p x && s.isAlive (last.toList ++ kept) x) = p x := fun x => by
      cases hx : p x with
      | false => rfl
      | true => exact hp x hx
    simp [State.prune, List.filter_filter, hboth, connectionsAfter]
  | done | failed => rfl
  | passed _ _ ih | connect _ ih | disconnect _ ih | drop _ ih => exact ih hp
  | broken _ _ ih | sentInVain _ ih =>
    exact ih fun x hx => State.isAlive_mono (List.subset_append_right _ _) (hp x hx)
  | called _ _ hrest ihfirst ihlater | sent _ hrest ihfirst ihlater
  | attempted _ hrest ihfirst ihlater =>
    have hfirst := ihfirst fun x hx =>
      State.isAlive_mono (List.subset_append_right _ _) (hrest.isAlive_before (hp x hx))
    rw [connectionsAfter_append, ihlater hp]
    exact filter_connectionsAfter_congr hfirst _

structure Turn (α : Type) where
  receiver : Receiver
  isCalled : Bool
  before : State α
  /-- What is connected, disconnected and dropped in it, also in sends that it starts. -/
  edits : List Edit
  /-- What is called in sends that it starts, the latest first. -/
  nested : List (Receiver × α)
  ending : Ending
  after : State α

namespace Turn

def held (turn : Turn α) : Option Receiver := if turn.isCalled then some turn.receiver else none

def calls (a : α) (turn : Turn α) : List (Receiver × α) :=
  if turn.isCalled then turn.nested ++ [(turn.receiver, a)] else []

/-- A receiver that is alive when its turn comes, `last` being the one called before it, is called
and does what it does; otherwise nothing happens. -/
structure Taken (b : Behaviour α) (kept : List Receiver) (a : α) (last : Option Receiver)
    (turn : Turn α) : Prop where
  isCalled_eq : turn.isCalled = turn.before.isAlive (last.toList ++ kept) turn.receiver
  runs : turn.isCalled = true → ∃ held,
    Runs b (turn.receiver :: kept)
      (.reactions (b (turn.before.note turn.receiver a).calls turn.receiver a))
      (turn.before.note turn.receiver a) turn.edits held turn.ending turn.after
  rests : turn.isCalled = false →
    turn.edits = [] ∧ turn.ending = .finished ∧ turn.after = turn.before
  calls_eq : turn.after.calls = turn.calls a ++ turn.before.calls

end Turn

/-- Each turn begins where the one before has ended, and only the last may fail. -/
def Linked (b : Behaviour α) (kept : List Receiver) (a : α) :
    Option Receiver → State α → List (Turn α) → Prop
  | _, _, [] => True
  | last, s, turn :: rest => turn.before = s ∧ turn.Taken b kept a last ∧
      (turn.ending = .failed → rest = []) ∧ Linked b kept a turn.held turn.after rest

def heldAfter (last : Option Receiver) (turns : List (Turn α)) : Option Receiver :=
  turns.foldl (fun _ turn => turn.held) last

def callsOf (a : α) (turns : List (Turn α)) : List (Receiver × α) :=
  turns.reverse.flatMap (·.calls a)

def editsOf (turns : List (Turn α)) : List Edit := turns.flatMap (·.edits)

/-- The turns of a list of connections, up to the first that fails. -/
structure Plays (b : Behaviour α) (kept : List Receiver) (a : α) (last : Option Receiver)
    (rest : List Receiver) (s : State α) (turns : List (Turn α)) (e : Ending) : Prop where
  linked : Linked b kept a last s turns
  in_order : turns.map (·.receiver) <+: rest
  finished : e = .finished → turns.map (·.receiver) = rest
  failed_iff : e = .failed ↔ ∃ turn ∈ turns, turn.ending = .failed

theorem Turn.taken_of_dead {last : Option Receiver} {r : Receiver}
    (h : s.isAlive (last.toList ++ kept) r = false) :
    Turn.Taken b kept a last ⟨r, false, s, [], [], .finished, s⟩ where
  isCalled_eq := h.symm
  runs h := nomatch h
  rests _ := ⟨rfl, rfl, rfl⟩
  calls_eq := rfl

/-- What is called in a turn is noted on top of its own call. -/
theorem Runs.nested {r : Receiver} {rest : List (Reaction α)} {edits : List Edit}
    {held : List Receiver} {e : Ending}
    (h : Runs b (r :: kept) (.reactions rest) (s.note r a) edits held e t) :
    ∃ nested, t.calls = (nested ++ [(r, a)]) ++ s.calls := by
  obtain ⟨nested, hnested⟩ := h.calls_suffix
  refine ⟨nested, ?_⟩
  rw [← hnested, List.append_assoc]
  rfl

theorem Turn.taken_of_alive {last : Option Receiver} {r : Receiver} {edits : List Edit}
    {nested : List (Receiver × α)} {held : List Receiver} {e : Ending}
    (halive : s.isAlive (last.toList ++ kept) r = true)
    (h : Runs b (r :: kept) (.reactions (b (s.note r a).calls r a)) (s.note r a) edits held e t)
    (hnested : t.calls = (nested ++ [(r, a)]) ++ s.calls) :
    Turn.Taken b kept a last ⟨r, true, s, edits, nested, e, t⟩ where
  isCalled_eq := halive.symm
  runs _ := ⟨held, h⟩
  rests h := nomatch h
  calls_eq := hnested

theorem callsOf_cons (turn : Turn α) (turns : List (Turn α)) :
    callsOf a (turn :: turns) = callsOf a turns ++ turn.calls a := by
  simp [callsOf]

theorem Plays.cons {last : Option Receiver} {rest : List Receiver} {turn : Turn α}
    {turns : List (Turn α)} {e : Ending} (hturn : turn.Taken b kept a last)
    (hends : turn.ending = .finished)
    (h : Plays b kept a turn.held rest turn.after turns e) :
    Plays b kept a last (turn.receiver :: rest) turn.before (turn :: turns) e where
  linked := ⟨rfl, hturn, by simp [hends], h.linked⟩
  in_order := List.cons_prefix_cons.mpr ⟨rfl, h.in_order⟩
  finished he := by rw [List.map_cons, h.finished he]
  failed_iff := by simp [h.failed_iff, hends]

theorem Plays.of_failed {last : Option Receiver} {turn : Turn α} (hturn : turn.Taken b kept a last)
    (hends : turn.ending = .failed) (rest : List Receiver) :
    Plays b kept a last (turn.receiver :: rest) turn.before [turn] .failed where
  linked := ⟨rfl, hturn, fun _ => rfl, trivial⟩
  in_order := List.cons_prefix_cons.mpr ⟨rfl, List.nil_prefix⟩
  finished := nofun
  failed_iff := by simp [hends]

theorem Runs.exists_turns {last : Option Receiver} {rest : List Receiver} {edits : List Edit}
    {held : List Receiver} {e : Ending} (h : Runs b kept (.turns a last rest) s edits held e t) :
    ∃ turns, Plays b kept a last rest s turns e ∧ edits = editsOf turns ∧
      held = (heldAfter last turns).toList ∧ t.calls = callsOf a turns ++ s.calls := by
  induction rest generalizing last s edits with
  | nil =>
    cases h with
    | ended =>
      exact ⟨[], ⟨trivial, List.prefix_rfl, fun _ => rfl, by simp⟩, rfl, rfl, rfl⟩
  | cons r rest ih =>
    cases h with
    | passed hdead hrest =>
      obtain ⟨turns, hplays, rfl, rfl, hcalls⟩ := ih hrest
      refine ⟨_, Plays.cons (Turn.taken_of_dead hdead) rfl hplays, rfl, rfl, ?_⟩
      rw [callsOf_cons, hcalls]
      simp [Turn.calls]
    | called halive hcall hrest =>
      obtain ⟨nested, hnested⟩ := hcall.nested
      obtain ⟨turns, hplays, rfl, rfl, hcalls⟩ := ih hrest
      refine ⟨_, Plays.cons (Turn.taken_of_alive halive hcall hnested) rfl hplays, rfl, rfl, ?_⟩
      rw [callsOf_cons, hcalls, hnested]
      simp [Turn.calls]
    | broken halive hcall =>
      obtain ⟨nested, hnested⟩ := hcall.nested
      refine ⟨_, Plays.of_failed (Turn.taken_of_alive halive hcall hnested) rfl rest, ?_, rfl, ?_⟩
      · simp [editsOf]
      · rw [callsOf_cons, hnested]
        rfl

/-- How a send goes and what it leaves. -/
structure Course (b : Behaviour α) (kept : List Receiver) (a : α) (s : State α)
    (turns : List (Turn α)) (e : Ending) (t : State α) : Prop where
  plays : Plays b kept a none s.connected s turns e
  calls : t.calls = callsOf a turns ++ s.calls
  owned : t.owned = ownersAfter (editsOf turns) s.owned
  /-- Nobody comes back to life. -/
  lives : ∀ x, t.isAlive ((heldAfter none turns).toList ++ kept) x = true → s.isAlive kept x = true
  returned : e = .finished → t.connected = (connectionsAfter (editsOf turns) s.connected).filter
    (t.isAlive ((heldAfter none turns).toList ++ kept))
  failed : e = .failed → t.connected.filter (t.isAlive ((heldAfter none turns).toList ++ kept)) =
    (connectionsAfter (editsOf turns) s.connected).filter
      (t.isAlive ((heldAfter none turns).toList ++ kept))

theorem Runs.connected_of_finished {last : Option Receiver} {rest : List Receiver}
    {edits : List Edit} {held : List Receiver}
    (h : Runs b kept (.turns a last rest) s edits held .finished t) :
    t.connected.filter (t.isAlive (held ++ kept)) = t.connected := by
  induction rest generalizing last s edits with
  | nil =>
    cases h with
    | ended => exact List.filter_eq_self.mpr fun _ hx => List.of_mem_filter hx
  | cons r rest ih =>
    cases h with
    | passed _ hrest => exact ih hrest
    | called _ _ hrest => exact ih hrest

/-- A send has its course, and so has one that a receiver starts in its turn. -/
theorem Runs.course {edits : List Edit} {held : List Receiver} {e : Ending}
    (h : Runs b kept (.turns a none s.connected) s edits held e t) :
    ∃ turns, Course b kept a s turns e t := by
  obtain ⟨turns, hplays, rfl, rfl, hcalls⟩ := h.exists_turns
  have hconnected := h.filter_connected fun _ hx => hx
  refine ⟨turns, hplays, hcalls, h.owned_eq, fun x hx => h.isAlive_before hx, ?_,
    fun _ => hconnected⟩
  rintro rfl
  rw [← h.connected_of_finished, hconnected]

/-- Each receiver that was connected when a send started has its turn, in order and once for each
connection, up to the first that fails, and is called just where it is alive in its turn. What has
been connected and disconnected meanwhile is so in the end, in sends within the send as well, and of
the receivers that are still alive no connection is lost or doubled. Alive means owned, or held by
the send as the one it called last, or by a send around it as the one being called. -/
theorem send_course {e : Ending} (h : Ends b kept a s e t) :
    ∃ turns, Course b kept a s turns e t := by
  obtain ⟨edits, held, hrun⟩ := h.run
  exact hrun.course

/-- When a round starts the first receiver connects another, starts a round within the round and
drops the third, and in that round the second disconnects itself. -/
def sampleBehaviour : Behaviour Nat
  | _, 0, 0 => [.connect 3, .attempt 1, .drop 2]
  | _, 1, 1 => [.disconnect 1, .fail]
  | _, _, _ => []

/-- The second receiver is called although it has been disconnected, the third is dead by then, and
the fourth stays. -/
theorem sample_send_course :
    Ends sampleBehaviour [] 0 ⟨[0, 1, 2], [0, 1, 2, 3], []⟩ .finished
      ⟨[0, 3], [0, 1, 3], [(1, 0), (1, 1), (0, 1), (0, 0)]⟩ ∧
    ∃ turns, Course sampleBehaviour [] 0 ⟨[0, 1, 2], [0, 1, 2, 3], []⟩ turns .finished
      ⟨[0, 3], [0, 1, 3], [(1, 0), (1, 1), (0, 1), (0, 0)]⟩ :=
  have hends := Ends.of_add 9 fun _ => rfl
  ⟨hends, send_course hends⟩

/-- In the second receiver's turn a send within the send calls the first, which drops the second. -/
def droppingBehaviour : Behaviour Nat
  | _, 0, 1 => [.drop 1]
  | _, 1, 0 => [.send 1]
  | _, _, _ => []

/-- No receiver drops itself or changes the connections, and the send returns. The receiver that was
called last is dead then and still connected. -/
theorem last_called_stays_connected :
    (∀ calls r a, ∀ x ∈ droppingBehaviour calls r a, x = .send 1 ∨ x = .drop 1 ∧ r = 0) ∧
      ∃ t, Ends droppingBehaviour [] 0 ⟨[0, 1], [0, 1], []⟩ .finished t ∧
        t.calls = [(1, 1), (0, 1), (1, 0), (0, 0)] ∧ t.connected = [0, 1] ∧
        t.isAlive [] 1 = false := by
  constructor
  · intro calls r a x hx
    unfold droppingBehaviour at hx
    split at hx
    · exact .inr ⟨List.mem_singleton.mp hx, rfl⟩
    · exact .inl (List.mem_singleton.mp hx)
    · cases hx
  · exact ⟨⟨[0, 1], [0], [(1, 1), (0, 1), (1, 0), (0, 0)]⟩, .of_add 9 fun _ => rfl, rfl, rfl, rfl⟩

end Detour.Signal
