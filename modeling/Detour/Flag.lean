import Detour.Settings

/-!
# Flags

The flags of a command line: how each is spelled, what it stores, and where it is listed. A setting
gets a flag named after it; a flag for a truth value has a counterpart that stores the opposite.
-/
namespace Detour

inductive FlagAction where
  | showHelp
  | store (b : Bool)
  | storeText
  | storeWhole
  | collectText
  deriving DecidableEq, Repr

structure Flag where
  spellings : List String
  /-- The name of the value in the result. -/
  dest : String
  action : FlagAction
  default : Value
  metavar : Option String
  choices : Option Choices
  help : Option String
  /-- The number of the group of which only one flag may be given. -/
  group : Option Nat
  /-- The title under which the flag is listed. -/
  title : String
  deriving Repr

structure FlagTable where
  program : String
  usage : Option String
  description : Option String
  flags : List Flag
  titles : List String
  groups : Nat
  deriving Repr

namespace Flag

/-- The title of the flags that are under no other. -/
def mainTitle : String := "options"

def takesText (f : Flag) : Bool :=
  match f.action with
  | .showHelp | .store _ => false
  | .storeText | .storeWhole | .collectText => true

/-- All spellings, as messages name the flag. -/
def name (f : Flag) : String := "/".intercalate f.spellings

def helpFlag : Flag :=
  { spellings := ["-h", "--help"], dest := "help", action := .showHelp, default := .null, metavar := none
    choices := none, help := some "show this help message and exit", group := none, title := mainTitle }

end Flag

namespace FlagTable

def start (program : String) (usage description : Option String) : FlagTable :=
  ⟨program, usage, description, [Flag.helpFlag], [Flag.mainTitle], 0⟩

def spellings (t : FlagTable) : List String := t.flags.flatMap (·.spellings)

def find? (t : FlagTable) (spelling : String) : Option Flag :=
  t.flags.find? (·.spellings.contains spelling)

def add (t : FlagTable) (f : Flag) : Except Failure FlagTable :=
  let taken := f.spellings.filter t.spellings.contains
  if taken.isEmpty then
    let titles := if t.titles.contains f.title then t.titles else t.titles ++ [f.title]
    .ok { t with flags := t.flags ++ [f], titles }
  else .error (.flagTaken f.name taken)

/-- Add flags of which only one may be given. -/
def addGroup (t : FlagTable) (fs : List Flag) : Except Failure FlagTable :=
  fs.foldlM (fun t f => t.add { f with group := some t.groups }) { t with groups := t.groups + 1 }

/-- The long spelling of the flag of a setting. -/
def spellingOf (lead name : String) : String := lead ++ name.map fun c => if c = '_' then '-' else c

/-- The flags of a truth value; a short spelling is that of the flag which changes the default. -/
def flagPair (o : Setting) (short : Option String) (title : String) : List Flag :=
  let extra (b : Bool) := if o.default.isTrue = b then [] else (short.map fun s => "-" ++ s).toList
  let flag (b : Bool) (lead : String) (help : Option String) : Flag :=
    { spellings := spellingOf lead o.name :: extra b, dest := o.name, action := .store b
      default := .null, metavar := none, choices := none, help, group := none, title }
  [flag false "--no-" none, flag true "--" (some o.help)]

/-- The flags of a setting. A setting that does not exist has none. -/
def addSetting (t : FlagTable) (s : Settings) (name : String) (metavar short : Option String)
    (title : String) : Except Failure FlagTable :=
  match s.find? name with
  | none => .ok t
  | some o =>
    let flag (action : FlagAction) (choices : Option Choices) : Flag :=
      { spellings := spellingOf "--" name :: (short.map fun s => "-" ++ s).toList, dest := name, action
        default := .null, metavar, choices, help := some o.help, group := none, title }
    match o.type.entry? with
    | some .flag => t.addGroup (flagPair o short title)
    | some (.whole _) => t.add (flag .storeWhole none)
    | some (.text _) => t.add (flag .storeText o.choices)
    | none => .error (.notAFlagType o.type)

end FlagTable
end Detour
