import Detour.Settings
import Detour.Yaml.Codec

/-!
# Config files

A config file is a document that maps the names of settings to values. Settings that do not exist
yet are put off. The value of `rules_file` is taken from the directory of the config file. Config
files that are missing are passed over; of the others the later ones override the earlier.
-/
namespace Detour.Config

/-- The path that a value denotes, its leading tilde replaced. -/
def userPath (homes : Path.Homes) (v : Value) : Except Failure Path :=
  match v with
  | .str s =>
    match (Path.ofString s).expandUser? homes with
    | some p => .ok p
    | none => .error .noHome
  | v => .error (.notPath v.kind)

/-- The absolute path that a value denotes as seen from a directory. -/
def relativePath (homes : Path.Homes) (v : Value) (base : Path) : Except Failure Path :=
  (userPath homes v).map fun p => (base.join p).absolute

/-- Why a text is no config. -/
def failureOf (text : String) : Yaml.Fault → Failure
  | .at mark p => .setting (.badConfig (mark.line + 1) (mark.snippet text.toList) p.message)
  | .unprintable | .indentedBefore => .setting .unreadableConfig
  | .scalar family message => .foreign family message

/-- The entries of a config text; an empty document has none. -/
def parse [Yaml.Codec] (text : String) : Except Failure (List (Value × Value)) :=
  if text = "" then .ok []
  else match Yaml.read text with
    | .error f => .error (failureOf text f)
    | .ok .null => .ok []
    | .ok (.map entries) => .ok entries
    | .ok _ => .error (.setting .noMapping)

def rulesFileKey : String := "rules_file"

/-- Take the rules file, if one is named, from the directory of the config file. -/
def resolveRulesFile (homes : Path.Homes) (base : Option Path) (entries : List (Value × Value)) :
    Except Failure (List (Value × Value)) :=
  match base, Value.field? rulesFileKey entries with
  | some base, some v =>
    if v.isTrue then do
      let p ← relativePath homes v base
      return Value.insert (.str rulesFileKey) (.str p.text) entries
    else .ok entries
  | _, _ => .ok entries

/-- The entries as values by name; the word that the operation keeps for itself is no name. -/
def named (operation : String) (entries : List (Value × Value)) : Except Failure (List (String × Value)) := do
  let values ← entries.mapM fun e => match e.1 with
    | .str name => .ok (name, e.2)
    | _ => .error .nameNotText
  if values.any (·.1 = "self") then throw (.reservedName operation)
  return values

/-- The values that a config text gives, by name. -/
def valuesOf [Yaml.Codec] (homes : Path.Homes) (text : String) (base : Option Path) :
    Except Failure (List (String × Value)) := do
  named "OptManager.update_defer" (← resolveRulesFile homes base (← parse text))

variable {R : Type} [Yaml.Codec]

def load (l : Listener R) (homes : Path.Homes) (text : String) (base : Option Path) :
    Update R Unit :=
  match valuesOf homes text base with
  | .ok values => Settings.updateOrDefer l values
  | .error f => throw f

/-- Load a config file that exists; a refusal names the file. -/
def loadFile (l : Listener R) (files : FileTree) (p : Path) : Update R Unit := fun state =>
  match files.readText p.text with
  | .error (.encoding f) => .error (.setting (.inFile p.text f.message)) state
  | .error (.file f) => .error (.file p.text f) state
  | .ok text =>
    match load l files.homes text (some p.absolute.parent) state with
    | .error (.setting f) state => .error (.setting (.inFile p.text f.message)) state
    | result => result

/-- Whether there is a file; only a name that is too long is a failure. -/
def exists? (files : FileTree) (p : Path) : Except Failure Bool :=
  match files.read p.text with
  | .ok _ => .ok true
  | .error .nameTooLong => .error (.file p.text .nameTooLong)
  | .error _ => .ok false

def loadPaths (l : Listener R) (files : FileTree) : List String → Update R Unit
  | [] => pure ()
  | path :: rest => do
    match userPath files.homes (.str path) with
    | .error f => throw f
    | .ok p =>
      match exists? files p with
      | .error f => throw f
      | .ok true => loadFile l files p
      | .ok false => pure ()
    loadPaths l files rest

end Detour.Config
