import Detour.Failure
import Detour.Signal

/-!
# Receivers by name

Receivers of one signal that an owner holds under names. Each notes its calls and then does what
its kind says. Making a receiver lets go of the one that had its name; a receiver that nobody
holds is forgotten by the signal.
-/
namespace Detour.Signal

inductive ReceiverKind where
  | plain
  | failing
  /-- Returns something that would have to be waited for. -/
  | awaitable
  /-- Cannot be connected, since its calls would have to be waited for. -/
  | suspending
  | disconnecting (other : String)
  | connecting (other : String)
  | dropping (other : String)
  deriving DecidableEq, Repr

structure NamedReceiver where
  name : String
  serial : Receiver
  kind : ReceiverKind
  deriving DecidableEq, Repr

structure Board (α : Type) where
  held : List NamedReceiver
  made : List NamedReceiver
  state : State α

namespace Board

variable {α : Type}

def empty : Board α := ⟨[], [], .empty⟩

def find? (b : Board α) (name : String) : Option NamedReceiver := b.held.find? (·.name = name)

def ofSerial? (b : Board α) (serial : Receiver) : Option NamedReceiver :=
  b.made.find? (·.serial = serial)

/-- What a receiver does after it has noted a call. -/
def reactions (b : Board α) (r : Receiver) : List (Reaction α) :=
  let about (other : String) (reaction : Receiver → Reaction α) : List (Reaction α) :=
    match b.find? other with
    | some h => [reaction h.serial]
    | none => [.fail]
  match b.ofSerial? r with
  | some ⟨_, _, .failing⟩ | some ⟨_, _, .awaitable⟩ => [.fail]
  | some ⟨_, _, .disconnecting other⟩ => about other .disconnect
  | some ⟨_, _, .connecting other⟩ => about other .connect
  | some ⟨_, _, .dropping other⟩ => ((b.find? other).map fun h => Reaction.drop h.serial).toList
  | _ => []

/-- Why the receiver called last has broken off a send. -/
def failure (b : Board α) : Failure :=
  match b.state.calls.head?.bind fun c => b.ofSerial? c.1 with
  | some ⟨name, _, .failing⟩ => .foreign "ValueError" (name ++ " failed")
  | some ⟨_, _, .disconnecting other⟩ | some ⟨_, _, .connecting other⟩ => .noSetting other
  | _ => .assertion

def drop (b : Board α) (name : String) : Board α :=
  match b.find? name with
  | some h => { b with held := b.held.filter (·.name != name), state := b.state.drop h.serial }
  | none => b

def make (b : Board α) (name : String) (kind : ReceiverKind) : Board α :=
  let b := b.drop name
  let h : NamedReceiver := ⟨name, b.made.length, kind⟩
  { held := h :: b.held, made := h :: b.made, state := b.state.own h.serial }

def holder (b : Board α) (name : String) : Except Failure NamedReceiver :=
  match b.find? name with
  | some h => .ok h
  | none => .error (.noSetting name)

def connect (b : Board α) (name : String) : Except Failure (Board α) := do
  let h ← b.holder name
  if h.kind = .suspending then throw .assertion
  return { b with state := b.state.connect h.serial }

def disconnect (b : Board α) (name : String) : Except Failure (Board α) := do
  return { b with state := b.state.disconnect (← b.holder name).serial }

/-- Send a value; the failure that broke it off, the board, and the calls by name. -/
def send (b : Board α) (a : α) : Option Failure × Board α × List (String × α) :=
  let start := { b.state with calls := [] }
  let (ending, state) := Signal.send (fun _ r _ => b.reactions r) (start.connected.length + 9) a start
  let b := { b with state, held := b.held.filter (state.owned.contains ·.serial) }
  let calls := state.calls.reverse.map fun c => (((b.ofSerial? c.1).map (·.name)).getD "", c.2)
  (if ending = .finished then none else some b.failure, b, calls)

end Board
end Detour.Signal
