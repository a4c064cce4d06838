/-!
# Signals

A signal calls its receivers in the order in which they were connected. It does not keep a
receiver alive: one that nobody else owns any more is passed over and, after a send that no
receiver broke off, forgotten. A receiver that is called may itself connect, disconnect, drop a
receiver, send or fail; a send keeps the receiver it called last alive until it is done.
-/
namespace Detour.Signal

/-- Receivers are known by number. -/
abbrev Receiver := Nat

inductive Reaction (α : Type) where
  | connect (r : Receiver)
  | disconnect (r : Receiver)
  /-- The owner of a receiver lets go of it. -/
  | drop (r : Receiver)
  | send (a : α)
  /-- Sends, and goes on also where a receiver breaks that off. -/
  | attempt (a : α)
  | fail
  deriving Repr, DecidableEq

structure State (α : Type) where
  connected : List Receiver
  owned : List Receiver
  calls : List (Receiver × α)
  deriving Repr, DecidableEq

/-- What a receiver does when it is called, given all calls up to this one, the latest first. -/
abbrev Behaviour (α : Type) := List (Receiver × α) → Receiver → α → List (Reaction α)

variable {α : Type}

def State.empty : State α := ⟨[], [], []⟩

def State.connect (s : State α) (r : Receiver) : State α := { s with connected := s.connected ++ [r] }

def State.disconnect (s : State α) (r : Receiver) : State α :=
  { s with connected := s.connected.filter (· != r) }

def State.own (s : State α) (r : Receiver) : State α := { s with owned := r :: s.owned }

def State.drop (s : State α) (r : Receiver) : State α :=
  { s with owned := s.owned.filter (· != r) }

/-- Owned, or kept by a send under way. -/
def State.isAlive (s : State α) (kept : List Receiver) (r : Receiver) : Bool :=
  s.owned.contains r || kept.contains r

def State.prune (s : State α) (kept : List Receiver) : State α :=
  { s with connected := s.connected.filter (s.isAlive kept) }

inductive Ending where
  | finished
  | failed
  deriving Repr, DecidableEq

mutual
/-- Send to the receivers of a list; `last` was called last. Nested sends use up the fuel. -/
def deliver (b : Behaviour α) (a : α) (kept : List Receiver) :
    Nat → Option Receiver → List Receiver → State α → Ending × State α
  | 0, _, _, s => (.failed, s)
  | _ + 1, last, [], s => (.finished, s.prune (last.toList ++ kept))
  | fuel + 1, last, r :: rest, s =>
    if s.isAlive (last.toList ++ kept) r then
      let s := { s with calls := (r, a) :: s.calls }
      match react b (r :: kept) fuel (b s.calls r a) s with
      | (.finished, s) => deliver b a kept fuel (some r) rest s
      | failed => failed
    else deliver b a kept fuel none rest s

/-- What a receiver does, one thing after the other. -/
def react (b : Behaviour α) (kept : List Receiver) :
    Nat → List (Reaction α) → State α → Ending × State α
  | 0, _, s => (.failed, s)
  | _ + 1, [], s => (.finished, s)
  | fuel + 1, reaction :: rest, s =>
    match reaction with
    | .connect r => react b kept fuel rest (s.connect r)
    | .disconnect r => react b kept fuel rest (s.disconnect r)
    | .drop r => react b kept fuel rest (s.drop r)
    | .fail => (.failed, s)
    | .send a =>
      match deliver b a kept fuel none s.connected s with
      | (.finished, s) => react b kept fuel rest s
      | failed => failed
    | .attempt a => react b kept fuel rest (deliver b a kept fuel none s.connected s).2
end

/-- Send to all receivers connected now. -/
def send (b : Behaviour α) (fuel : Nat) (a : α) (s : State α) : Ending × State α :=
  deliver b a [] fuel none s.connected s

end Detour.Signal
