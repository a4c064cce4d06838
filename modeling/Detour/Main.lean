import Detour.Tool

/-!
# The program

Runs the tool on the files of the system, in real time: it prints what the engine logs and sleeps
until the next task is due. The rules file is read anew whenever time has passed. Times on the
terminal are those of the system's monotonic clock.
-/
namespace Detour.Program

/-- The tree without files of the system yet; only where the current user is at home is looked up. -/
def bare : IO FileTree := do
  let home := (← IO.getEnv "HOME").map fun home => ("", home)
  return { FileTree.empty with homes := home.toList }

/-- The tree with a file of the system, if there is one. -/
def fetch (files : FileTree) (path : String) : IO FileTree := do
  let place := (((Path.ofString path).expandUser? files.homes).getD (Path.ofString path)).absolute.parts
  try
    let bytes ← IO.FS.readBinFile (Path.expandText files.homes path)
    return files.install place (.file bytes.toList)
  catch _ => return files

/-- The files that the command line may name: what stands in an argument, or behind an equals sign
in one, and the config files in such a directory. -/
def candidates (args : List String) : List String :=
  let named := args ++ args.map fun a => String.ofList (((a.toList.dropWhile (· != '=')).drop 1))
  let directories := "~/.navredirect" :: named
  named ++ directories.flatMap fun d => Tool.configFiles.map (Path.joinText d)

def seconds : IO Rat := return ((← IO.monoMsNow) : Rat) / 1000

abbrev State := Settings × Stage World

/-- Do something, and print what has been logged by then. -/
def perform {α : Type} (e : Engine α) (state : State) : IO (Except Failure α × State) := do
  let (r, state) : Except Failure α × State := match e state with
    | .ok a state => (.ok a, state)
    | .error f state => (.error f, state)
  let scene := state.2.scene
  IO.print ({ scene.world.terminal with installed := true }.text scene.log.reverse)
  (← IO.getStdout).flush
  return (r, (state.1, { state.2 with scene := { scene with log := [] } }))

/-- Read the files that the settings name. -/
def refresh (state : State) : IO State := do
  let world := state.2.scene.world
  let rules := (world.rulesPath.map (·.text)).toList
  let files ← (World.textIn state.1.table "rfile" :: rules).foldlM fetch world.files
  return (state.1, { state.2 with scene := { state.2.scene with world := { world with files } } })

/-- Run until a stop is asked for. -/
partial def serve (state : State) : IO Unit := do
  let (_, state) ← perform Engine.settle state
  let world := state.2.scene.world
  if world.exiting then
    let _ ← perform Engine.done state
  else
    match world.agenda.nextDue? with
    | none => pure ()
    | some due =>
      let wait := ((due - (← seconds)) * 1000).ceil.toNat
      IO.sleep wait.toUInt32
      let (_, state) ← perform (Engine.pass due) (← refresh state)
      serve state

def leave (e : Exit) : IO UInt32 := do
  IO.print e.out
  IO.eprint e.err
  return e.code.toUInt32

def fail (f : Failure) : IO UInt32 := leave ⟨1, "", f.report ++ "\n"⟩

end Detour.Program

open Detour Detour.Program

def main (args : List String) : IO UInt32 := do
  let files ← (candidates args).foldlM fetch (← bare)
  let input ← if args.any (·.endsWith "-") then (← IO.getStdin).readToEnd else pure ""
  let start : Tool.Start := ⟨args, files, input, "-", "-", ← seconds, none⟩
  let (_, state) ← perform (Tool.start start) (Tool.initial start)
  match CommandLine.read state.1 args with
  | .error (.exit e) => leave e
  | .error (.failure f) => fail f
  | .ok given =>
    match ← perform (Tool.enter start given) state with
    | (.error f, _) => fail f
    | (.ok (some e), _) => leave e
    | (.ok none, state) =>
      let (_, state) ← perform Tool.begin (← refresh state)
      serve state
      return 0
