import Detour.Engine.Run
import Detour.Flag.Reading

/-!
# The command line

The flags of the tool, and what they do to the settings. Flags that were not given leave their
settings alone.
-/
namespace Detour.CommandLine

def program : String := "navredirect"

def release : String := "1.0.0"

/-- What is said of the release and of what it runs on. -/
def systemInfo (runtime platform : String) : String :=
  s!"{program}: {release}\nPython:      {runtime}\nPlatform:    {platform}"

def flag (spellings : List String) (dest : String) (action : FlagAction) (default : Value)
    (metavar : Option String) (help : String) : Flag :=
  { spellings, dest, action, default, metavar, choices := none, help := some help, group := none
    title := Flag.mainTitle }

/-- A flag that is on if it is given. -/
def switch (spellings : List String) (dest help : String) : Flag :=
  flag spellings dest (.store true) (.bool false) none help

def versionFlag : Flag :=
  switch ["--version"] "version" "Print version and platform information, then exit."

def optionsFlag : Flag :=
  switch ["--options"] "options" "Print all options with their defaults as YAML, then exit."

def setFlag : Flag :=
  flag ["--set"] "setoptions" .collectText (.list []) (some "option[=value]")
    ("Set any option, including those without a dedicated flag. Without a value, booleans " ++
      "become true and optional values become None. Booleans also accept true, false and toggle.")

def quietFlag : Flag := switch ["-q", "--quiet"] "quiet" "Only log errors."

def verboseFlag : Flag :=
  switch ["-v", "--verbose"] "verbose" "Log debug output, including suppressed redirects."

def flags (s : Settings) : Except Failure FlagTable := do
  let description := "Replay browser navigation events through the redirect engine."
  let t := FlagTable.start program (some (program ++ " [options]")) (some description)
  let t ← [versionFlag, optionsFlag, setFlag].foldlM FlagTable.add t
  let t ← t.addGroup [quietFlag, verboseFlag]
  let t ← t.addSetting s "rfile" (some "PATH") (some "r") Flag.mainTitle
  let t ← t.addSetting s "keepserving" none none Flag.mainTitle
  let t ← t.addSetting s "redirects_enabled" none none Flag.mainTitle
  let t ← t.addSetting s "rules_file" (some "PATH") none "Rules"
  let t ← t.addSetting s "rules_key" (some "KEY") none "Rules"
  let t ← t.addSetting s "redirect_cooldown" (some "MS") none "Loop Prevention"
  t.addSetting s "cleanup_interval" (some "SECONDS") none "Loop Prevention"

def read (s : Settings) (args : List String) : Except Stop (List (String × Value)) :=
  match flags s with
  | .ok t => t.read args
  | .error f => .error (.failure f)

def isOn (given : List (String × Value)) (dest : String) : Bool :=
  ((given.lookup dest).map Value.isTrue).getD false

/-- The texts given for settings. -/
def settingTexts (given : List (String × Value)) : List String :=
  match given.lookup setFlag.dest with
  | some (.list vs) => vs.map Value.display
  | _ => []

/-- The verbosity that the flags ask for; nothing but errors may stand before a list of settings. -/
def verbosity (given : List (String × Value)) : List (String × Value) :=
  let name := Chain.verbositySetting.name
  if isOn given verboseFlag.dest then [(name, .str "debug")]
  else if isOn given quietFlag.dest || isOn given optionsFlag.dest then [(name, .str "error")]
  else []

/-- The values that the flags give to settings. -/
def settingValues (s : Settings) (given : List (String × Value)) : List (String × Value) :=
  (given ++ verbosity given).filter fun e => s.contains e.1 && !e.2.same .null

/-- Let the flags take effect; the tool ends here if only its version is asked for. -/
def apply (runtime platform : String) (given : List (String × Value)) : Engine (Option Exit) := do
  if isOn given versionFlag.dest then return some ⟨0, systemInfo runtime platform ++ "\n", ""⟩
  Action.update (settingValues (← get).1 given)
  return none

end Detour.CommandLine
