import Detour.CommandLine
import Detour.Config
import Detour.Settings.Text

/-!
# The tool

A run of the tool reads its command line, sets what is given there by name, loads the config
files, lets the other flags take effect, and then runs the engine until a stop is asked for. What
is refused on the way ends it with a message.
-/
namespace Detour.Tool

def configFiles : List String := ["config.yaml", "config.yml"]

/-- What a run starts from. -/
structure Start where
  args : List String
  files : FileTree
  input : String
  runtime : String
  platform : String
  /-- Seconds since the epoch. -/
  clock : Rat
  /-- After how many seconds a stop is asked for from outside. -/
  stopAfter : Option Rat

/-- How a run ended: its exit code, or a failure that nobody has dealt with. -/
structure Report where
  ending : Except Failure Nat
  out : String
  err : String

/-- Load the engine, with its commands shown on the terminal. -/
def load : Engine Unit := Engine.assemble (Chain.terminal :: Chain.standard) []

/-- Set what the command line and the config files give, the config files after the texts. -/
def configure (s : Start) (given : List (String × Value)) : Engine (Option Exit) := do
  Action.setFromTexts (CommandLine.settingTexts given) true
  let directory := World.textIn (← get).1.table Settings.configDirectory.name
  let paths := configFiles.map (Path.joinText directory)
  Config.loadPaths Stage.listener (← Engine.world).files paths
  CommandLine.apply s.runtime s.platform given

/-- How long the engine runs until it stops by itself or from outside. -/
def duration (s : Start) : Engine Rat := do
  let w ← Engine.world
  let path := World.textIn (← get).1.table Chain.recordSetting.name
  let lines := match Reading.ofFile w.files w.input path with
    | .ok r => r.lines
    | .error _ => []
  return Engine.span lines + s.stopAfter.getD 0

/-- Get ready to run; the run ends here if its settings are refused, or if only the version or the
settings are asked for. -/
def enter (s : Start) (given : List (String × Value)) : Engine (Option Exit) := do
  match ← Engine.attempt (configure s given) with
  | .error (.setting f) => return some ⟨1, "", s!"{CommandLine.program}: {f.message}\n"⟩
  | .error f => throw f
  | .ok (some e) => return some e
  | .ok none =>
    if CommandLine.isOn given CommandLine.optionsFlag.dest then
      match (← get).1.dump with
      | .ok text => return some ⟨0, text, ""⟩
      | .error f => throw f
    return none

/-- Tell all addons that the engine runs; if one refuses, it is done. -/
def begin : Engine Unit := do
  Engine.change fun w => { w with exiting := false }
  match ← Engine.attempt (Action.triggerEvent .running) with
  | .ok () => pure ()
  | .error f =>
    Engine.done
    throw f

/-- What follows the reading of the command line. -/
def work (s : Start) (given : List (String × Value)) : Engine Exit := do
  match ← enter s given with
  | some e => return e
  | none =>
    begin
    Engine.runFor (← duration s) (·.exiting)
    Engine.done
    return ⟨0, "", ""⟩

/-- Load the engine and have it stopped from outside if that is wanted. -/
def start (s : Start) : Engine Unit := do
  load
  match s.stopAfter with
  | some seconds => Engine.sleepUntil (s.clock + seconds) .exit
  | none => pure ()

def initial (s : Start) : Settings × Stage World :=
  let world := World.fresh s.files s.input (.ofEntries []) (.fresh .logging none)
  (.empty, ⟨.empty, ⟨s.clock, world, []⟩⟩)

/-- A whole run; the terminal shows the log on the standard output. -/
def run (s : Start) : Report :=
  match start s (initial s) with
  | .error f _ => ⟨.error f, "", ""⟩
  | .ok _ state =>
    match CommandLine.read state.1 s.args with
    | .error (.exit e) => ⟨.ok e.code, e.out, e.err⟩
    | .error (.failure f) => ⟨.error f, "", ""⟩
    | .ok given =>
      let shown (state : Settings × Stage World) : String :=
        let scene := state.2.scene
        { scene.world.terminal with installed := true }.text scene.log.reverse
      match work s given state with
      | .ok e state => ⟨.ok e.code, shown state ++ e.out, e.err⟩
      | .error f state => ⟨.error f, shown state, ""⟩

end Detour.Tool
