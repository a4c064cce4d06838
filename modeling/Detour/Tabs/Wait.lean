import Detour.Agenda
import Detour.Tabs

/-!
# Waiting for commands

Whoever waits until some number of commands has been given looks at the number, and as long as it
is too small waits for the next command to be signalled and looks again. All share one signal,
which each of them takes back before it waits. A wait ends at its deadline, also if the number is
reached only then.
-/
namespace Detour.Tabs

structure Waiter where
  serial : Nat
  count : Int
  deriving DecidableEq, Repr

inductive DeskTask where
  | issue (tab : Id) (url : String)
  /-- Look at the number of commands. -/
  | look (w : Waiter)
  /-- The deadline of a wait. -/
  | expire (serial : Nat)
  deriving DecidableEq, Repr

inductive WaitEnd where
  | reached
  | timedOut
  deriving DecidableEq, Repr

structure Desk where
  clock : Rat
  tabs : Tabs
  agenda : Agenda DeskTask
  signalled : Bool
  /-- Those who wait for the signal, in order. -/
  waiting : List Waiter
  ended : List (Nat × WaitEnd)
  nextSerial : Nat
  log : List LogRecord
  deriving Repr

namespace Desk

def fresh (tabs : Tabs) (clock : Rat) : Desk := ⟨clock, tabs, .empty, false, [], [], 0, []⟩

/-- Raise the signal. Those who wait for it look again, but only if it was not up already. -/
def signal (d : Desk) : Desk :=
  if d.signalled then d
  else
    { d with signalled := true, waiting := []
             agenda := d.waiting.foldl (fun a w => a.spawn (.look w)) d.agenda }

/-- Give a command now; only one that is recorded is signalled. -/
def issue (d : Desk) (tab : Id) (url : String) : Desk :=
  let d := { d with tabs := d.tabs.issue tab url, log := d.log ++ d.tabs.notices tab url }
  match d.tabs.surface with
  | .recording => d.signal
  | _ => d

/-- Give a command after some time. -/
def issueLater (d : Desk) (seconds : Rat) (tab : Id) (url : String) : Desk :=
  let task := DeskTask.issue tab url
  { d with agenda :=
      if seconds ≤ 0 then d.agenda.spawn task else d.agenda.sleepUntil (d.clock + seconds) task }

def isOf (serial : Nat) : DeskTask → Bool
  | .issue .. => false
  | .look w => w.serial = serial
  | .expire s => s = serial

def finish (d : Desk) (serial : Nat) (e : WaitEnd) : Desk :=
  { d with agenda := d.agenda.cancel (isOf serial), waiting := d.waiting.filter (·.serial != serial)
           ended := (serial, e) :: d.ended }

/-- Begin to wait; without time left a wait has failed at once. -/
def beginWait (d : Desk) (count : Int) (seconds : Rat) : Nat × Desk :=
  let serial := d.nextSerial
  let d := { d with nextSerial := serial + 1 }
  if seconds ≤ 0 then (serial, d.finish serial .timedOut)
  else
    let agenda := d.agenda.sleepUntil (d.clock + seconds) (.expire serial)
    (serial, { d with agenda := agenda.spawn (.look ⟨serial, count⟩) })

/-- Look at the number; while it is too small, take the signal back and wait for it. -/
def look (d : Desk) (w : Waiter) : Desk :=
  if w.count ≤ d.tabs.issued.length then d.finish w.serial .reached
  else { d with signalled := false, waiting := d.waiting ++ [w] }

def run (d : Desk) : DeskTask → Desk
  | .issue tab url => d.issue tab url
  | .look w => d.look w
  | .expire serial => d.finish serial .timedOut

/-- Run the next task; if none is ready and there is something to wait for, let time pass until
the next one is. -/
def step? (d : Desk) (mayPass : Bool) : Option Desk :=
  match d.agenda.next?, d.agenda.nextDue? with
  | some (t, agenda), _ => some ({ d with agenda }.run t)
  | none, some due =>
    if mayPass then some { d with clock := due, agenda := d.agenda.wakeAt due } else none
  | none, none => none

/-- Step as long as something is ready, and let time pass until a wait has ended. -/
def runUntil (serial? : Option Nat) : Nat → Desk → Desk
  | 0, d => d
  | fuel + 1, d =>
    let mayPass := match serial? with
      | some serial => (d.ended.lookup serial).isNone
      | none => false
    match d.step? mayPass with
    | some d => runUntil serial? fuel d
    | none => d

/-- More steps than there can be: every command can make each waiter look once more. -/
def bound (d : Desk) : Nat :=
  let n := d.agenda.tasks.length + d.waiting.length + 1
  n * n + 2 * n

def settle (d : Desk) : Desk := d.runUntil none d.bound

/-- Wait until some number of commands has been given, for so many seconds at most. -/
def waitFor (d : Desk) (count : Int) (seconds : Rat) : WaitEnd × Desk :=
  let (serial, d) := d.beginWait count seconds
  let d := d.runUntil (some serial) d.bound
  ((d.ended.lookup serial).getD .timedOut, d)

end Desk
end Detour.Tabs
