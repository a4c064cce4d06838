import Detour.Engine.Redirect

/-!
# The engine's addons

Events go through alarms, loop guard, rules, redirects, cleanup and replay in this order; a
terminal comes before them where there is one. Each addon keeps its part of the world in step with
its settings and refuses settings that it cannot use.
-/
namespace Detour.Chain

open World

/-- An addon of the engine, called by its name. -/
def addon (name : String) (declares : List Declaration)
    (handler : Event → Option (WorldHandling Unit)) : Addon World :=
  .mk name name declares (fun e => match handler e with
    | some run => .plain run
    | none => .absent) []

def startTasks (tasks : List AlarmTask) : EStateM Failure (Scene World) Unit :=
  change fun w => { w with agenda := tasks.foldl (fun a t => a.spawn (.alarm t)) w.agenda }

def runAlarms : EStateM Failure (Scene World) Unit := do
  let (alarms, tasks) := (← get).world.alarms.run
  change fun w => { w with alarms }
  startTasks tasks

/-- The tasks that belong to alarms which are no longer what they were started for. -/
def isStale (alarms : Alarms) : Task → Bool
  | .alarm t => !alarms.isCurrent t
  | _ => false

def setAlarms (alarms : Alarms) : EStateM Failure (Scene World) Unit :=
  change fun w => { w with alarms, agenda := w.agenda.cancel (isStale alarms) }

def stopAlarms : EStateM Failure (Scene World) Unit := do setAlarms (← get).world.alarms.stop

/-- Create an alarm in place of the one of its name. -/
def createAlarm (name : String) (period : Period) : EStateM Failure (Scene World) Unit := do
  match (← get).world.alarms.create name period with
  | none => throw (.periodNotPositive period.shown)
  | some (alarms, task) =>
    setAlarms alarms
    startTasks task.toList

def clearAlarm (name : String) : EStateM Failure (Scene World) Bool := do
  let (existed, alarms) := (← get).world.alarms.clear name
  setAlarms alarms
  return existed

def alarms : Addon World := addon "alarms" [] fun
  | .running => some fun _ => runAlarms
  | .done => some fun _ => stopAlarms
  | _ => none

def cooldownSetting : Declaration :=
  { name := "redirect_cooldown", type := .int, default := .int Guard.standardCooldown
    help := "Time in milliseconds after a redirect during which no further redirects are issued " ++
      "on the same tab."
    choices := none }

/-- A setting must be a positive number. -/
def requirePositive (d : Declaration) : WorldHandling Int := fun table => do
  let n := wholeIn table d.name
  if n ≤ 0 then throw (.setting (.notPositive d.name n))
  return n

/-- Have the guard suppress further redirects of a tab. -/
def remember (tab : Id) (url : String) : EStateM Failure (Scene World) Unit := do
  let now := (← get).millis
  change fun w => w.mapGuard (·.record now tab url)

/-- Drop expired entries of the guard and count them. -/
def sweep : EStateM Failure (Scene World) Nat := do
  let s ← get
  let (evicted, swept) := s.world.guard.sweep s.millis
  change fun w => { w with guard := swept }
  return evicted

def loopGuard : Addon World := addon "loopguard" [cooldownSetting] fun
  | .configure updated => some fun table => do
    if updated.contains cooldownSetting.name then
      let cooldown ← requirePositive cooldownSetting table
      change fun w => w.mapGuard fun g => { g with cooldown }
  | .tabRemoved tab => some fun _ => change fun w => w.mapGuard (·.clear tab)
  | .done => some fun _ => change fun w => w.mapGuard Guard.reset
  | _ => none

def ruleStore : Addon World := addon "rulestore" [Rules.fileSetting, Rules.keySetting] fun
  | .configure updated => some (Rules.configure updated)
  | _ => none

def redirector : Addon World :=
  .mk "redirector" "redirector" [] (fun
    | .navigationCompleted n => .suspending (Redirect.begin n)
    | _ => .absent) []

def cleanupAlarm : String := "redirectCleanup"

def intervalSetting : Declaration :=
  { name := "cleanup_interval", type := .int, default := .int 300
    help := "Interval in seconds at which expired loop guard entries are evicted.", choices := none }

/-- Have the guard swept at every interval. -/
def scheduleCleanup : WorldHandling Unit := fun table => do
  createAlarm cleanupAlarm (.whole (wholeIn table intervalSetting.name))
  change fun w => { w with cleanupScheduled := true }

def cleanup : Addon World := addon "cleanup" [intervalSetting] fun
  | .configure updated => some fun table => do
    if updated.contains intervalSetting.name then
      let _ ← requirePositive intervalSetting table
      if (← get).world.cleanupScheduled then scheduleCleanup table
  | .running => some scheduleCleanup
  | .alarm a => some fun _ => do
    if a.name = cleanupAlarm then
      let evicted ← sweep
      if evicted != 0 then
        log [.plain Level.debug s!"Evicted {evicted} expired loop guard entries."]
  | .done => some fun _ => change fun w => { w with cleanupScheduled := false }
  | _ => none

def recordSetting : Declaration :=
  { name := "rfile", type := .optionalStr, default := .null
    help := "Replay platform events from file, - for stdin.", choices := none }

def keepServingSetting : Declaration :=
  { name := "keepserving", type := .bool, default := .bool false
    help := "Continue running after all events have been replayed.", choices := none }

/-- Start to read a file of events in the background; it is opened when its task first runs. -/
def startReading (path : String) : EStateM Failure (Scene World) Unit :=
  change fun w =>
    { w with agenda := w.agenda.spawn (.openRecord w.nextReading path), reading := some w.nextReading
             nextReading := w.nextReading + 1 }

def readEvents : Addon World := addon "readevents" [recordSetting, keepServingSetting] fun
  | .running => some fun table => do
    match textIn table recordSetting.name with
    | "" => pure ()
    | path => startReading path
  | _ => none

def verbositySetting : Declaration :=
  { name := "termlog_verbosity", type := .str, default := .str "info", help := "Log verbosity."
    choices := some (.texts Level.names) }

/-- The addon that sets what the terminal shows. -/
def terminal : Addon World := addon "termlog" [verbositySetting] fun
  | .configure updated => some fun table => do
    if updated.contains verbositySetting.name then
      let verbosity := (Level.ofName? (textIn table verbositySetting.name)).getD Level.info
      change fun w => { w with terminal := { w.terminal with verbosity } }
  | _ => none

/-- The addons that redirect, without the replay of records. -/
def core : List (Addon World) := [alarms, loopGuard, ruleStore, redirector, cleanup]

def standard : List (Addon World) := core ++ [readEvents]

end Detour.Chain
