import Detour.Engine.Chain
import Detour.Settings.Base

/-!
# Running the engine

The tasks that are ready run one after the other (`settle`), and time moves from one sleeper to
the next (`runUntil`, `advance`). A task that fails is lost; what it has changed stays.
-/
namespace Detour

/-- An operation on the engine: its settings, its addons and its world. -/
abbrev Engine (α : Type) := Action World α

namespace Engine

def onScene {α : Type} (h : EStateM Failure (Scene World) α) : Engine α := Action.onScene fun _ => h

def world : Engine World := return (← get).2.scene.world

def change (f : World → World) : Engine Unit := onScene (World.change f)

def log (r : LogRecord) : Engine Unit := onScene (World.log [r])

def clock : Engine Rat := return (← get).2.scene.clock

def setClock (t : Rat) : Engine Unit := onScene (modify fun s => { s with clock := t })

/-- Try something; its failure, if it has one. -/
def attempt {α : Type} (e : Engine α) : Engine (Except Failure α) := fun s =>
  match e s with
  | .ok a s => .ok (.ok a) s
  | .error f s => .ok (.error f) s

/-- Have a task run at some time, or as the last one that is ready if that time has come. -/
def sleepUntil (due : Rat) (t : Task) : Engine Unit := do
  let now ← clock
  change fun w =>
    { w with agenda := if due ≤ now then w.agenda.spawn t else w.agenda.sleepUntil due t }

/-- Set off an alarm that is due. -/
def fire (t : AlarmTask) (due : Rat) : Engine Unit := do
  log (.plain Level.debug s!"Alarm {t.name} fired.")
  change fun w => { w with fired := t.firing due :: w.fired }
  Action.triggerEvent (.alarm (t.firing due))

/-- Have an alarm go off a period after some time. -/
def scheduleAfter (t : AlarmTask) (time : Rat) : Engine Unit :=
  match t.dueAfter? time with
  | some due => sleepUntil due (.alarm { t with due := some due })
  | none => pure ()

/-- Run the task of an alarm: first find out when it is due, then set it off again and again. -/
def runAlarm (t : AlarmTask) : Engine Unit := do
  match t.due with
  | none => scheduleAfter t (← clock)
  | some due =>
    fire t due
    if (← world).alarms.isCurrent t then scheduleAfter t due

/-- How a record has been read: to its end, or up to a wait. -/
inductive ReadState where
  | ended (r : Except Failure Nat)
  | waits (p : Pause) (r : Reading)

/-- Read lines up to the next wait. Each event is dealt with before the next line is read. -/
def readLines (ending : Option Text.Utf8.Fault) (number events : Nat) : List String → Engine ReadState
  | [] => return .ended <| match ending with
      | none => .ok events
      | some f => .error (.encoding f)
  | line :: rest => do
    match Command.ofLine line with
    | .error f => return .ended (.error (.replay (.line number f)))
    | .ok none => readLines ending (number + 1) events rest
    | .ok (some (.wait ms)) => return .waits (.ofMillis ms) ⟨number + 1, rest, ending, events + 1⟩
    | .ok (some (.navigation n)) =>
      Action.triggerEvent (.navigationCompleted n)
      readLines ending (number + 1) (events + 1) rest
    | .ok (some (.removed tab)) =>
      Action.triggerEvent (.tabRemoved tab)
      readLines ending (number + 1) (events + 1) rest

/-- A reading in the background has ended: what comes of it is logged, and the engine stops unless
it is to go on. Only a faulty record or a file that cannot be opened counts as a result; any other
failure is lost. -/
def endBackground (serial : Nat) (path : String) (r : Except Failure Nat) : Engine Unit := do
  if (← world).reading = some serial then change fun w => { w with reading := none }
  match r with
  | .ok n => log (.plain Level.info s!"Replayed {n} events from {path}.")
  | .error (.replay f) => log (.plain Level.error s!"Failed to read {path}: {f.message}")
  | .error f => throw f
  let (s, _) ← get
  if !(World.valueIn s.table Chain.keepServingSetting.name).isTrue then
    change fun w => w.spawn .exit

def endReading (who : Reader) (r : Except Failure Nat) : Engine Unit :=
  match who with
  | .caller => change fun w => { w with answer := some r }
  | .background serial path => endBackground serial path r

def readOn (who : Reader) (r : Reading) : Engine Unit := do
  match ← attempt (readLines r.ending r.number r.events r.lines) with
  | .error f => endReading who (.error f)
  | .ok (.ended result) => endReading who result
  | .ok (.waits .tooLong _) => endReading who (.error .waitTooLong)
  | .ok (.waits .endless _) => pure ()
  | .ok (.waits (.seconds s) r) => sleepUntil ((← clock) + s) (.read who r)

def openRecord (who : Reader) (path : String) : Engine Unit := do
  let w ← world
  match Reading.ofFile w.files w.input path with
  | .ok r => readOn who r
  | .error f => endReading who (.error f)

def runTask : Task → Engine Unit
  | .alarm t => runAlarm t
  | .navigate tab url => onScene (Redirect.navigate tab url)
  | .openRecord serial path => openRecord (.background serial path) path
  | .read who r => readOn who r
  | .exit => change fun w => { w with exiting := true }

/-- Run the first task that is ready, if there is one. -/
def step : Engine Bool := do
  match (← world).agenda.next? with
  | none => return false
  | some (t, agenda) =>
    change fun w => { w with agenda }
    let _ ← attempt (runTask t)
    return true

def steps : Nat → Engine Unit
  | 0 => pure ()
  | fuel + 1 => do
    if ← step then steps fuel

/-- How many lines a file of events has. -/
def lineCount (w : World) (path : String) : Nat :=
  match Reading.ofFile w.files w.input path with
  | .ok r => r.lines.length
  | .error _ => 0

/-- How many steps a task can take at most before time has to pass, with those of the tasks that
it leads to. -/
def weight (w : World) : Task → Nat
  | .openRecord _ path => 2 * lineCount w path + 3
  | .read _ r => 2 * r.lines.length + 3
  | _ => 1

def totalWeight (w : World) : List Task → Nat
  | [] => 0
  | t :: ts => weight w t + totalWeight w ts

/-- Run tasks until none is ready. -/
def settle : Engine Unit := do
  let w ← world
  steps (totalWeight w w.agenda.ready + 1)

/-- Let time pass until the next sleeper is due, if that is no later than some time. -/
def pass (limit : Rat) : Engine Bool := do
  match (← world).agenda.nextDue? with
  | none => return false
  | some due =>
    if limit < due then return false
    setClock due
    change fun w => { w with agenda := w.agenda.wakeAt due }
    return true

/-- Run everything up to some time, or until some state of the world is reached. -/
def runUntil (limit : Rat) (reached : World → Bool) : Nat → Engine Unit
  | 0 => pure ()
  | fuel + 1 => do
    settle
    if !reached (← world) then
      if ← pass limit then runUntil limit reached fuel

/-- How often a task can be woken at most in so many seconds. -/
def wakings (w : World) (seconds : Rat) : Task → Nat
  | .alarm t => (seconds / t.period.seconds?.getD 1).floor.toNat + 2
  | .openRecord _ path => lineCount w path + 1
  | .read _ r => r.lines.length + 1
  | _ => 1

def totalWakings (w : World) (seconds : Rat) : List Task → Nat
  | [] => 0
  | t :: ts => wakings w seconds t + totalWakings w seconds ts

/-- Run everything in the next seconds, or until some state of the world is reached. -/
def runFor (seconds : Rat) (reached : World → Bool) : Engine Unit := do
  let w ← world
  runUntil ((← clock) + seconds) reached (totalWakings w seconds w.agenda.tasks + 1)

/-- Let so many seconds pass. -/
def advance (seconds : Rat) : Engine Unit := do
  let target := (← clock) + seconds
  runFor seconds fun _ => false
  if (← clock) < target then setClock target

/-- Declare the settings that are always there, set some, and load addons. -/
def assemble (addons : List (Addon World)) (initial : List (String × Value)) : Engine Unit := do
  Settings.declareBase Stage.listener
  Action.update initial
  Action.addAll addons

/-- Tell all addons that the engine is done; the terminal is left last. -/
def done : Engine Unit := do
  Action.triggerEvent .done
  change fun w => { w with terminal := { w.terminal with installed := false } }

/-- Deal with one event of a record; a wait takes its time. -/
def obey : Command → Engine Unit
  | .navigation n => Action.triggerEvent (.navigationCompleted n)
  | .removed tab => Action.triggerEvent (.tabRemoved tab)
  | .wait ms =>
    match Pause.ofMillis ms with
    | .seconds s => advance s
    | .endless => pure ()
    | .tooLong => throw .waitTooLong

/-- How many seconds a line waits. -/
def waitOf (line : String) : Rat :=
  match Command.ofLine line with
  | .ok (some (.wait ms)) =>
    match Pause.ofMillis ms with
    | .seconds s => s
    | _ => 0
  | _ => 0

/-- How many seconds the waits of a record take in all. -/
def span : List String → Rat
  | [] => 0
  | line :: rest => waitOf line + span rest

/-- Read a record and wait until it has been dealt with; the number of its events. -/
def replay (r : Reading) : Engine Nat := do
  change fun w => { w with answer := none, agenda := w.agenda.spawn (.read .caller r) }
  runFor (span r.lines) (·.answer.isSome)
  match (← world).answer with
  | some (.ok n) => return n
  | some (.error f) => throw f
  | none => throw .timeout

def replayFile (path : String) : Engine Nat := do
  let w ← world
  match Reading.ofFile w.files w.input path with
  | .ok r => replay r
  | .error f => throw f

/-- Handle a navigation up to where it waits. -/
def startNavigation (n : Navigation) :
    Engine (Option (WorldHandling Unit × Dispatch.Round World)) := do
  match Dispatch.Round.begin (.navigationCompleted n) (← Action.addons).chain with
  | none => return none
  | some r =>
    match ← Action.onScene (r.run r.size) with
    | .suspended finish r => return some (finish, r)
    | _ => return none

def finishNavigation (finish : WorldHandling Unit) (r : Dispatch.Round World) : Engine Unit := do
  match ← Action.onScene (r.resume finish) with
  | .ready r =>
    let _ ← Action.onScene (r.run r.size)
  | _ => pure ()

/-- Start navigations while the memory is held back, do something, and let them finish. -/
def race (navigations : List Navigation) (during : Engine Unit) : Engine Unit := do
  change fun w => { w with memory := { w.memory with held := true } }
  let waiting ← navigations.filterMapM startNavigation
  settle
  let result ← attempt during
  change fun w => { w with memory := { w.memory with held := false } }
  waiting.forM fun (finish, r) => finishNavigation finish r
  match result with
  | .ok () => pure ()
  | .error f => throw f

end Engine
end Detour
