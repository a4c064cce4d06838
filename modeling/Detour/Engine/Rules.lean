import Detour.Engine.World

/-!
# The rules in use

The rules stand as a list under one key of the store and are read anew for every navigation. A
reading is begun and ended apart, since a store may take its time: what counts is what the store
holds at the end.
-/
namespace Detour.Rules

def fileSetting : Declaration :=
  { name := "rules_file", type := .optionalStr, default := .null
    help := "Read redirect rules from a YAML or JSON file. The file is re-read for every " ++
      "navigation, so edits take effect immediately."
    choices := none }

def keySetting : Declaration :=
  { name := "rules_key", type := .str, default := .str "redirectRules"
    help := "Store key under which the redirect rule collection is kept.", choices := none }

/-- The store a reading was begun on, and the key. -/
structure Request where
  path : Option Path
  key : String
  deriving DecidableEq, Repr

/-- Begin a reading. -/
def begin : WorldHandling Request := fun table => do
  let w := (← get).world
  World.change World.countLookup
  return ⟨w.rulesPath, World.textIn table keySetting.name⟩

/-- Whether a reading has to wait. -/
def Request.isHeld (r : Request) (w : World) : Bool := r.path.isNone && w.memory.held

/-- What a reading finds. -/
def Request.value [Yaml.Codec] (r : Request) (w : World) (default : Value) : Except Failure Value :=
  match r.path with
  | some p => (Store.file p).get w.files r.key default
  | none =>
    match w.memory.failure with
    | some f => .error f
    | none => (Store.memory w.memory.entries).get w.files r.key default

/-- The rules found, and the entries passed over. -/
def Request.rules [Yaml.Codec] (r : Request) (table : List Setting) (w : World) :
    Except Failure (List Rule × List Rule.Skipped) := do
  match ← r.value w (.list []) with
  | .list vs | .tuple vs => return Rule.readAll vs
  | _ => throw (.store (.noSequence (World.textIn table keySetting.name)))

/-- End a reading: all rules. -/
def Request.finish [Yaml.Codec] (r : Request) : WorldHandling (List Rule) := fun table => do
  match r.rules table (← get).world with
  | .error f => throw f
  | .ok (rules, skipped) =>
    World.log (skipped.map fun s => .plain Level.warning s.message)
    return rules

/-- End a reading: the enabled rules, of which there are none if it fails. -/
def Request.finishEnabled [Yaml.Codec] (r : Request) : WorldHandling (List Rule) := fun table => do
  match r.rules table (← get).world with
  | .error f =>
    World.log [.plain Level.warning ("Cannot load redirect rules: " ++ f.described)]
    return []
  | .ok (rules, skipped) =>
    World.log (skipped.map fun s => .plain Level.warning s.message)
    return rules.filter (·.enabled)

/-- All rules, read at once. -/
def all [Yaml.Codec] : WorldHandling (List Rule) := fun table => do (← begin table).finish table

def enabled [Yaml.Codec] : WorldHandling (List Rule) := fun table => do (← begin table).finishEnabled table

/-- Read a value of the store in use. -/
def fetch [Yaml.Codec] (key : String) (default : Value) : EStateM Failure (Scene World) Value := do
  let w := (← get).world
  World.change World.countLookup
  match (Request.mk w.rulesPath key).value w default with
  | .ok v => return v
  | .error f => throw f

/-- Put a value into the store in use. -/
def put [Yaml.Codec] (key : String) (value : Value) : EStateM Failure (Scene World) Unit := do
  let w := (← get).world
  match w.store.set w.files key value with
  | .error f => throw f
  | .ok c =>
    World.change fun w => match c.store with
      | .memory entries => { w with memory := { w.memory with entries } }
      | _ => { w with files := c.files }
    World.log c.notices

/-- Replace the rules. -/
def replace [Yaml.Codec] (rules : List Rule) : WorldHandling Unit := fun table =>
  put (World.textIn table keySetting.name) (.list (rules.map Rule.state))

/-- Read the rules from a file from now on; without a path, from the memory. -/
def useFile (path : String) : EStateM Failure (Scene World) Unit :=
  match path with
  | "" => World.change fun w => { w with rulesPath := none }
  | path => do
    match Store.atPath (← get).world.files.homes path with
    | .ok (.file p) => World.change fun w => { w with rulesPath := some p }
    | .ok _ => pure ()
    | .error f => throw f

/-- The key may not be empty; a file named is read from then on. -/
def configure (updated : List String) : WorldHandling Unit := fun table => do
  if updated.contains keySetting.name && World.textIn table keySetting.name = "" then
    throw (.setting .emptyKey)
  if updated.contains fileSetting.name then useFile (World.textIn table fileSetting.name)

end Detour.Rules
