import Detour.Setting

/-!
# Settings

The table of all settings and the values put off until their settings are declared. Every change
is announced to a listener, which may refuse it; a refusal takes the whole update back and
announces the values restored. Any other failure leaves what has been assigned so far. A listener
sees the table and keeps a state of its own, but cannot change a setting.
-/
namespace Detour

/-- A value put off: as it is, or as the texts of a command line. -/
inductive PutOff where
  | value (v : Value)
  | texts (ts : List String)
  deriving Repr, BEq

structure Settings where
  table : List Setting
  putOff : List (String × PutOff)
  deriving Repr, BEq, Inhabited

/-- Whoever is told of changes of the named settings, and of refusals. -/
structure Listener (R : Type) where
  changed : List Setting → List String → EStateM Failure R Unit
  refused : List Setting → Failure → EStateM Failure R Unit

/-- An operation on the settings beside the state of their listener. -/
abbrev Update (R α : Type) := EStateM Failure (Settings × R) α

namespace Settings

def empty : Settings := ⟨[], []⟩

def find? (s : Settings) (name : String) : Option Setting := s.table.find? (·.name = name)

def contains (s : Settings) (name : String) : Bool := (s.find? name).isSome

def names (s : Settings) : List String := s.table.map (·.name)

def current? (s : Settings) (name : String) : Option Value := (s.find? name).map (·.current)

/-- Put a setting in the place of the one of its name, or at the end. -/
def putInTable (o : Setting) : List Setting → List Setting
  | [] => [o]
  | p :: rest => if p.name = o.name then o :: rest else p :: putInTable o rest

def put (s : Settings) (o : Setting) : Settings := { s with table := putInTable o s.table }

def putOffValue (name : String) (p : PutOff) : List (String × PutOff) → List (String × PutOff)
  | [] => [(name, p)]
  | e :: rest => if e.1 = name then (name, p) :: rest else e :: putOffValue name p rest

def defer (s : Settings) (name : String) (p : PutOff) : Settings :=
  { s with putOff := putOffValue name p s.putOff }

variable {R : Type}

def notify (l : Listener R) (names : List String) : Update R Unit := fun (s, r) =>
  match l.changed s.table names r with
  | .ok _ r => .ok () (s, r)
  | .error f r => .error f (s, r)

def notifyRefused (l : Listener R) (f : Failure) : Update R Unit := fun (s, r) =>
  match l.refused s.table f r with
  | .ok _ r => .ok () (s, r)
  | .error f r => .error f (s, r)

def restore (table : List Setting) : Update R Unit :=
  modify fun (s, r) => ({ s with table }, r)

/-- Take a refused change back: the table is as before, and all are told. -/
def takeBack (l : Listener R) (names : List String) (passOn : Bool) (table : List Setting)
    (f : SettingFault) : Update R Unit := do
  notifyRefused l (.setting f)
  restore table
  notify l names
  if passOn then throw (.setting f)

/-- Do something that may be refused, and then is taken back. The refusal itself ends here unless it
is to be passed on. -/
def withRollback (l : Listener R) (names : List String) (passOn : Bool) (body : Update R Unit) :
    Update R Unit := fun start =>
  match body start with
  | .error (.setting f) state => takeBack l names passOn start.1.table f state
  | result => result

/-- Declare a setting, in place of one of its name. -/
def declare (l : Listener R) (d : Declaration) : Update R Unit := do
  match Setting.declare d with
  | .ok o =>
    modify fun (s, r) => (s.put o, r)
    notify l [d.name]
  | .error f => throw f

/-- Assign one value to a setting that exists. -/
def assign (name : String) (v : Value) : Update R Unit := fun (s, r) =>
  match s.find? name with
  | none => .error (.noSetting name) (s, r)
  | some o =>
    match o.assign v with
    | .ok o => .ok () (s.put o, r)
    | .error f => .error f (s, r)

def assignAll : List (String × Value) → Update R Unit
  | [] => pure ()
  | (name, v) :: rest => do
    assign name v
    assignAll rest

/-- Set the settings that exist, all or, if it is refused, none; the rest of the values is left. -/
def updateKnown (l : Listener R) (values : List (String × Value)) :
    Update R (List (String × Value)) := do
  let (s, _) ← get
  let (known, unknown) := values.partition fun e => s.contains e.1
  let names := known.map (·.1)
  if !known.isEmpty then
    withRollback l names true do
      assignAll known
      notify l names
  return unknown

def update (l : Listener R) (values : List (String × Value)) : Update R Unit := do
  let unknown ← updateKnown l values
  if !unknown.isEmpty then throw (.unknownSettings (unknown.map (·.1)))

/-- Update by values that are handed over under their names. The word that the operation keeps for
itself is no such name. -/
def updateByName (l : Listener R) (values : List (String × Value)) : Update R Unit :=
  if values.any (·.1 = "self") then throw (.reservedName "OptManager.update") else update l values

/-- Set what exists and put off the rest. -/
def updateOrDefer (l : Listener R) (values : List (String × Value)) : Update R Unit := do
  let unknown ← updateKnown l values
  modify fun (s, r) => (unknown.foldl (fun s e => s.defer e.1 (.value e.2)) s, r)

/-- The name and, behind the first equals sign, the text. -/
def splitSpec (spec : String) : String × Option String :=
  let cs := spec.toList
  let name := cs.takeWhile (· != '=')
  match cs.drop name.length with
  | [] => (spec, none)
  | _ :: text => (String.ofList name, some (String.ofList text))

def addText (name : String) (text : Option String) :
    List (String × List String) → List (String × List String)
  | [] => [(name, text.toList)]
  | (n, ts) :: rest =>
    if n = name then (n, ts ++ text.toList) :: rest else (n, ts) :: addText name text rest

/-- The texts given for each name, in the order in which names come up. -/
def groupSpecs (specs : List String) : List (String × List String) :=
  specs.foldl (fun groups spec => let (name, text) := splitSpec spec; addText name text groups) []

/-- The values that the texts denote. -/
def readGroups (s : Settings) : List (String × List String) → Except Failure (List (String × Value))
  | [] => .ok []
  | (name, texts) :: rest =>
    match s.find? name with
    | none => readGroups s rest
    | some o => do
      let v ← o.ofTexts texts
      return (name, v) :: (← readGroups s rest)

/-- Set settings from texts of the form `name=text`; names without a setting are put off or
refused. -/
def setFromTexts (l : Listener R) (specs : List String) (putOff : Bool) : Update R Unit := do
  let (s, _) ← get
  let groups := groupSpecs specs
  let values ← match s.readGroups groups with
    | .ok values => pure values
    | .error f => throw f
  let unknown := groups.filter fun g => !s.contains g.1
  if !unknown.isEmpty && !putOff then throw (.setting (.unknown (unknown.map (·.1))))
  modify fun (s, r) => (unknown.foldl (fun s g => s.defer g.1 (.texts g.2)) s, r)
  updateByName l values

/-- The values put off whose settings exist by now. -/
def readyValues (s : Settings) : List (String × PutOff) → Except Failure (List (String × Value))
  | [] => .ok []
  | (name, p) :: rest =>
    match s.find? name with
    | none => readyValues s rest
    | some o => do
      let v ← match p with
        | .value v => pure v
        | .texts ts => o.ofTexts ts
      return (name, v) :: (← readyValues s rest)

/-- Set the values put off whose settings exist by now. -/
def processPutOff (l : Listener R) : Update R Unit := do
  let (s, _) ← get
  let values ← match s.readyValues s.putOff with
    | .ok values => pure values
    | .error f => throw f
  updateByName l values
  modify fun (s, r) =>
    ({ s with putOff := s.putOff.filter fun e => !(values.map (·.1)).contains e.1 }, r)

/-- Declare a setting unless there is one that says the same; a different one is replaced, which
is reported. Choices have to be listed one by one. -/
def declareOnce (l : Listener R) (warn : String → R → R) (d : Declaration) : Update R Unit := do
  if let some (.partsOf _) := d.choices then throw .assertion
  let (s, _) ← get
  match s.find? d.name with
  | none => declare l d
  | some old =>
    if !old.agrees d then
      modify fun (s, r) => (s, warn ("Over-riding existing option " ++ d.name) r)
      declare l d

end Settings
end Detour
