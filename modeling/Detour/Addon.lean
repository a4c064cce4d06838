import Detour.Event
import Detour.Log
import Detour.Settings

/-!
# Addons

An addon has handlers for some events, settings of its own and further addons below it. An event
goes through the addons of a chain in order, and through each one's tree from the top. A failure
of a handler is logged and skips the rest of that tree; a halt ends the event; a refusal of
settings ends it and is passed on.

A handler sees the table of settings and changes the scene: the world of its addons and the log.
Time is that of the scene.
-/
namespace Detour

structure Scene (W : Type) where
  /-- Seconds since the epoch. -/
  clock : Rat
  world : W
  /-- The latest record first, each with the time it was made at. -/
  log : List (Rat × LogRecord)
  deriving Repr

def Scene.note {W : Type} (s : Scene W) (r : LogRecord) : Scene W :=
  { s with log := (s.clock, r) :: s.log }

def Scene.noteAll {W : Type} (s : Scene W) (rs : List LogRecord) : Scene W := rs.foldl note s

/-- What a handler does. -/
abbrev Handling (W α : Type) := List Setting → EStateM Failure (Scene W) α

inductive Handler (W : Type) where
  | absent
  | notCallable
  | plain (run : Handling W Unit)
  /-- A function that leaves its work to whoever waits for what it returns. -/
  | awaitable (work : Handling W Unit)
  /-- A handler that may be suspended once; then what is left of it is returned. -/
  | suspending (start : Handling W (Option (Handling W Unit)))

inductive Addon (W : Type) where
  | mk (id name : String) (declares : List Declaration) (handler : Event → Handler W)
    (children : List (Addon W))

namespace Addon

variable {W : Type}

instance : Inhabited (Addon W) := ⟨mk "" "" [] (fun _ => .absent) []⟩

def id : Addon W → String
  | mk id .. => id

def name : Addon W → String
  | mk _ name .. => name

def declares : Addon W → List Declaration
  | mk _ _ declares .. => declares

def handler : Addon W → Event → Handler W
  | mk _ _ _ handler _ => handler

def children : Addon W → List (Addon W)
  | mk _ _ _ _ children => children

mutual
/-- The addon and those below it, each before its children. -/
def tree : Addon W → List (Addon W)
  | mk id name declares handler children => mk id name declares handler children :: forest children

def forest : List (Addon W) → List (Addon W)
  | [] => []
  | a :: rest => tree a ++ forest rest
end

end Addon

namespace Dispatch

variable {W : Type}

/-- Call one handler where nothing may be waited for. -/
def callSync (event : Event) (a : Addon W) : Handling W Unit := fun table =>
  match a.handler event with
  | .absent => pure ()
  | .notCallable => throw (.addon (.notCallable event.name a.id))
  | .suspending _ => throw (.addon (.suspends event.name a.id))
  | .awaitable _ => pure ()
  | .plain run => run table

/-- Call the handlers of a list of addons in turn. -/
def invokeSync (event : Event) : List (Addon W) → Handling W Unit
  | [], _ => pure ()
  | a :: rest, table => do
    callSync event a table
    invokeSync event rest table

/-- Call one handler; what is left of it if it is suspended. -/
def start (event : Event) (a : Addon W) : Handling W (Option (Handling W Unit)) := fun table =>
  match a.handler event with
  | .absent => pure none
  | .notCallable => throw (.addon (.notCallable event.name a.id))
  | .plain run | .awaitable run => do
    run table
    return none
  | .suspending start => start table

/-- Call the handlers of a list of addons in turn, waiting for each to be done. -/
def invoke (event : Event) : List (Addon W) → Handling W Unit
  | [], _ => pure ()
  | a :: rest, table => do
    match ← start event a table with
    | some finish => finish table
    | none => pure ()
    invoke event rest table

/-- How an event left an addon's tree: by a halt, or ready for the next addon. -/
inductive Outcome where
  | goesOn
  | halted
  deriving DecidableEq, Repr

/-- Do a part of a dispatch: a halt ends the event, a refusal is passed on, any other failure is
logged. -/
def guarded (part : Handling W Unit) : Handling W Outcome := fun table s =>
  match part table s with
  | .ok _ s => .ok .goesOn s
  | .error (.halt _) s => .ok .halted s
  | .error (.setting f) s => .error (.setting f) s
  | .error f s => .ok .goesOn (s.note ⟨Level.error, "Addon error: " ++ f.described, none, some f⟩)

/-- Send an event whose handlers may not be suspended through a chain. -/
def trigger (event : Event) : List (Addon W) → Handling W Unit
  | [], _ => pure ()
  | a :: rest, table => do
    match ← guarded (invokeSync event a.tree) table with
    | .goesOn => trigger event rest table
    | .halted => pure ()

/-- Send an event through a chain, waiting for handlers that are suspended. -/
def triggerEvent (event : Event) : List (Addon W) → Handling W Unit
  | [], _ => pure ()
  | a :: rest, table => do
    match ← guarded (invoke event a.tree) table with
    | .goesOn => triggerEvent event rest table
    | .halted => pure ()

/-- An event under way: the handlers still to be called in the tree it is in, and the addons
behind it. -/
structure Round (W : Type) where
  event : Event
  here : List (Addon W)
  rest : List (Addon W)

namespace Round

def begin (event : Event) : List (Addon W) → Option (Round W)
  | [] => none
  | a :: rest => some ⟨event, a.tree, rest⟩

/-- The round at the next addon of the chain. -/
def nextAddon (r : Round W) : Option (Round W) := begin r.event r.rest

inductive Turn (W : Type) where
  | finished
  | ready (r : Round W)
  | suspended (finish : Handling W Unit) (r : Round W)

def turnAfter (r : Round W) : Outcome → Turn W
  | .halted => .finished
  | .goesOn =>
    match r.nextAddon with
    | some r => .ready r
    | none => .finished

/-- Note a failure of a handler and leave the tree it happened in. -/
def fail (r : Round W) (f : Failure) : Handling W (Turn W) := fun table => do
  return r.turnAfter (← guarded (fun _ => throw f) table)

/-- Call the next handler of the round. -/
def step (r : Round W) : Handling W (Turn W) := fun table s =>
  match r.here with
  | [] => .ok (r.turnAfter .goesOn) s
  | a :: here =>
    match start r.event a table s with
    | .ok none s => .ok (.ready { r with here }) s
    | .ok (some finish) s => .ok (.suspended finish { r with here }) s
    | .error f s => r.fail f table s

/-- Go on with what is left of a handler that was suspended. -/
def resume (finish : Handling W Unit) (r : Round W) : Handling W (Turn W) := fun table s =>
  match finish table s with
  | .ok _ s => .ok (.ready r) s
  | .error f s => r.fail f table s

/-- How many steps a round takes at most if nothing is suspended. -/
def size (r : Round W) : Nat := (r.here.length + 1) + (Addon.forest r.rest).length + r.rest.length

/-- Step until a handler is suspended or nothing is left to call. -/
def run : Nat → Round W → Handling W (Turn W)
  | 0, r, _ => pure (.ready r)
  | fuel + 1, r, table => do
    match ← r.step table with
    | .ready r => run fuel r table
    | turn => pure turn

end Round
end Dispatch

/-- The addons loaded, by name, and the chain that events go through. -/
structure AddonTable (W : Type) where
  lookup : List (String × Addon W)
  chain : List (Addon W)

/-- Settings, addons and their scene. -/
structure Stage (W : Type) where
  addons : AddonTable W
  scene : Scene W

abbrev Action (W α : Type) := Update (Stage W) α

namespace Stage

variable {W : Type}

/-- The addons of the chain are the listener of the settings. -/
def listener : Listener (Stage W) where
  changed := fun table names g =>
    match Dispatch.trigger (.configure names) g.addons.chain table g.scene with
    | .ok _ scene => .ok () { g with scene }
    | .error f scene => .error f { g with scene }
  refused := fun _ _ => pure ()

def warn (message : String) (g : Stage W) : Stage W :=
  { g with scene := g.scene.note (.plain Level.warning message) }

end Stage

namespace AddonTable

variable {W : Type}

def empty : AddonTable W := ⟨[], []⟩

def get? (t : AddonTable W) (name : String) : Option (Addon W) := t.lookup.lookup name

def contains (t : AddonTable W) (name : String) : Bool := (t.get? name).isSome

def putName (name : String) (a : Addon W) : List (String × Addon W) → List (String × Addon W)
  | [] => [(name, a)]
  | e :: rest => if e.1 = name then (name, a) :: rest else e :: putName name a rest

/-- Make the addons findable by their names. -/
def index (t : AddonTable W) (addons : List (Addon W)) : AddonTable W :=
  { t with lookup := addons.foldl (fun l a => putName a.name a l) t.lookup }

/-- Forget an addon under its name and in the chain. -/
def forget (t : AddonTable W) (a : Addon W) : AddonTable W :=
  ⟨t.lookup.filter (·.1 != a.name), t.chain.filter (·.id != a.id)⟩

/-- The names of the chain. -/
def shown (t : AddonTable W) : String := ", ".intercalate (t.chain.map (·.name))

end AddonTable

namespace Action

variable {W : Type}

def onScene {α : Type} (h : Handling W α) : Action W α := fun (s, g) =>
  match h s.table g.scene with
  | .ok a scene => .ok a (s, { g with scene })
  | .error f scene => .error f (s, { g with scene })

def addons : Action W (AddonTable W) := return (← get).2.addons

def setAddons (t : AddonTable W) : Action W Unit := modify fun (s, g) => (s, { g with addons := t })

def trigger (event : Event) : Action W Unit := do
  onScene (Dispatch.trigger event (← addons).chain)

def triggerEvent (event : Event) : Action W Unit := do
  onScene (Dispatch.triggerEvent event (← addons).chain)

def declareAll : List Declaration → Action W Unit
  | [] => pure ()
  | d :: rest => do
    Settings.declareOnce Stage.listener Stage.warn d
    declareAll rest

/-- Load a list of addons: call the handler of each and declare its settings. -/
def load : List (Addon W) → Action W Unit
  | [] => pure ()
  | a :: rest => do
    onScene (Dispatch.callSync .load a)
    declareAll a.declares
    load rest

/-- Load an addon and those below it and make them findable; then values put off for their
settings are set. -/
def register (a : Addon W) : Action W Unit := do
  let t ← addons
  match a.tree.find? fun b => t.contains b.name with
  | some b => throw (.addon (.alreadyExists b.name))
  | none => pure ()
  load a.tree
  setAddons ((← addons).index a.tree)
  Settings.processPutOff Stage.listener

/-- Register an addon and put it at the end of the chain. -/
def add (a : Addon W) : Action W Unit := do
  register a
  let t ← addons
  setAddons { t with chain := t.chain ++ [a] }

def addAll : List (Addon W) → Action W Unit
  | [] => pure ()
  | a :: rest => do
    add a
    addAll rest

def forgetAll : List (Addon W) → Action W Unit
  | [] => pure ()
  | a :: rest => do
    let t ← addons
    unless t.contains a.name do throw (.addon (.unknown a.name))
    setAddons (t.forget a)
    forgetAll rest

/-- Remove an addon and those below it; it is told last. -/
def remove (a : Addon W) : Action W Unit := do
  forgetAll a.tree
  onScene (Dispatch.invokeSync .done a.tree)

def doneAll : List (Addon W) → Action W Unit
  | [] => pure ()
  | a :: rest => do
    onScene (Dispatch.invokeSync .done a.tree)
    doneAll rest

/-- Tell every addon that it is done and forget them all. -/
def clear : Action W Unit := do
  doneAll (← addons).chain
  setAddons AddonTable.empty

/-- Set settings. -/
def update (values : List (String × Value)) : Action W Unit :=
  Settings.update Stage.listener values

def setFromTexts (specs : List String) (putOff : Bool) : Action W Unit :=
  Settings.setFromTexts Stage.listener specs putOff

/-- Run until a stop is asked for, which it is at once: all addons are told that the engine runs,
and in any case that it is done. -/
def run : Action W Unit := fun g =>
  match triggerEvent .running g with
  | .ok _ g => triggerEvent .done g
  | .error f g =>
    match triggerEvent .done g with
    | .ok _ g => .error f g
    | .error f g => .error f g

/-- Set settings for one addon, which is registered if need be; with none to set it is told that
nothing has changed. -/
def configure (a : Addon W) (values : List (String × Value)) : Action W Unit := do
  unless (← addons).contains a.name do register a
  Settings.withRollback Stage.listener (values.map (·.1)) true do
    if values.isEmpty then onScene (Dispatch.invokeSync (.configure []) a.tree)
    else update values

end Action
end Detour
