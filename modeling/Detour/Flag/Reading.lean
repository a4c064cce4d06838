import Detour.Flag.Help

/-!
# Reading a command line

An argument that begins with a hyphen is a flag: by its full spelling, by the beginning of a long
spelling that fits no other flag, or as several short flags in one. All arguments are told apart
before any of them takes effect.
-/
namespace Detour

/-- How a program ends, and what it prints. -/
structure Exit where
  code : Nat
  out : String
  err : String
  deriving DecidableEq, Repr

/-- Why reading the command line does not lead to a run: help was asked for, or something is wrong. -/
inductive Stop where
  | exit (e : Exit)
  | failure (f : Failure)
  deriving Repr

namespace FlagTable
open Text

/-- A complaint about the command line. -/
def complain {α : Type} (t : FlagTable) (message : String) : Except Stop α :=
  .error (.exit ⟨2, "", t.usageMessage ++ t.program ++ ": error: " ++ message ++ "\n"⟩)

def complainOf {α : Type} (t : FlagTable) (f : Flag) (message : String) : Except Stop α :=
  t.complain s!"argument {f.name}: {message}"

inductive Argument where
  | text (s : String)
  /-- Two hyphens, after which there are no flags. -/
  | separator
  | flag (f : Flag) (spelling : String) (given : Option String)
  | unknown (s : String)

/-- Whether all of a text, but for a line feed at its end, is a negative number. -/
def isNegativeNumber (cs : List Char) : Bool :=
  match cs with
  | '-' :: rest =>
    let rest := if rest.getLast? = some '\n' then rest.dropLast else rest
    let whole := rest.takeWhile isDigit
    match rest.drop whole.length with
    | [] => !whole.isEmpty
    | '.' :: part => !part.isEmpty && part.all isDigit
    | _ => false
  | _ => false

/-- The text before the first equals sign, and what is behind it. -/
def splitGiven (s : String) : String × Option String :=
  let cs := s.toList
  let name := cs.takeWhile (· != '=')
  match cs.drop name.length with
  | [] => (s, none)
  | _ :: given => (String.ofList name, some (String.ofList given))

/-- The flags that an argument may stand for, with the spelling and the text given along. -/
def candidates (t : FlagTable) (arg : String) : List (Flag × String × Option String) :=
  let spelled := t.flags.flatMap fun f => f.spellings.map fun s => (f, s)
  match arg.toList with
  | '-' :: '-' :: _ =>
    let (lead, given) := splitGiven arg
    (spelled.filter fun e => e.2.startsWith lead).map fun e => (e.1, e.2, given)
  | cs =>
    let short := String.ofList (cs.take 2)
    spelled.filterMap fun e =>
      if e.2 = short then some (e.1, e.2, some (String.ofList (cs.drop 2)))
      else if e.2.startsWith arg then some (e.1, e.2, none)
      else none

def hasNumberFlags (t : FlagTable) : Bool := t.spellings.any fun s => isNegativeNumber s.toList

def classify (t : FlagTable) (arg : String) : Except Stop Argument :=
  if arg.toList.head? != some '-' then .ok (.text arg)
  else match t.find? arg with
    | some f => .ok (.flag f arg none)
    | none =>
      let (name, given) := splitGiven arg
      if arg.length = 1 then .ok (.text arg)
      else match given, t.find? name with
        | some g, some f => .ok (.flag f name (some g))
        | _, _ => match candidates t arg with
          | [(f, spelling, g)] => .ok (.flag f spelling g)
          | [] =>
            if (isNegativeNumber arg.toList && !t.hasNumberFlags) || arg.contains ' ' then .ok (.text arg)
            else .ok (.unknown arg)
          | found =>
            let options := ", ".intercalate (found.map (·.2.1))
            t.complain s!"ambiguous option: {arg} could match {options}"

/-- All arguments; behind a separator all are texts. -/
def classifyAll (t : FlagTable) : List String → Except Stop (List (String × Argument))
  | [] => .ok []
  | "--" :: rest => .ok (("--", .separator) :: rest.map fun s => (s, .text s))
  | arg :: rest => do
    let a ← t.classify arg
    return (arg, a) :: (← classifyAll t rest)

/-- What has been read: values by name, the flags given, and arguments that are none. -/
structure Reading where
  values : List (String × Value)
  given : List Flag
  extra : List String

def Reading.put (name : String) (v : Value) (values : List (String × Value)) : List (String × Value) :=
  values.map fun e => if e.1 = name then (name, v) else e

/-- The value that a text denotes for a flag. -/
def valueOf (t : FlagTable) (f : Flag) (text : String) : Except Stop Value := do
  let v ← match f.action with
    | .storeWhole => match Whole.readInt text with
      | .ok n => pure (Value.int n)
      | .error _ => t.complainOf f ("invalid int value: " ++ quoted text)
    | _ => pure (.str text)
  match f.choices with
  | some choices =>
    if choices.allowsText text then return v
    else
      let valid := ", ".intercalate (choices.names.map quoted)
      t.complainOf f s!"invalid choice: {v.shown} (choose from {valid})"
  | none => return v

/-- Let a flag take effect; another of its group must not have been given. -/
def apply (t : FlagTable) (r : Reading) (f : Flag) (text : Option String) : Except Stop Reading := do
  let v ← match text with
    | some s => t.valueOf f s
    | none => pure .null
  let rivals := t.flags.filter fun g => g.group.isSome && g.group == f.group && g.spellings != f.spellings
  match rivals.find? fun g => r.given.any (·.spellings == g.spellings) with
  | some rival => t.complainOf f ("not allowed with argument " ++ rival.name)
  | none =>
    let r := { r with given := f :: r.given }
    match f.action with
    | .showHelp =>
      match t.help with
      | .ok s => throw (.exit ⟨0, s, ""⟩)
      | .error e => throw (.failure e)
    | .store b => return { r with values := Reading.put f.dest (.bool b) r.values }
    | .storeText | .storeWhole => return { r with values := Reading.put f.dest v r.values }
    | .collectText =>
      let old := match r.values.lookup f.dest with
        | some (.list xs) => xs
        | _ => []
      return { r with values := Reading.put f.dest (.list (old ++ [v])) r.values }

/-- The flags in one argument, each with its text if it takes one: short flags may stand together,
of which only the last may take a text. -/
def unfold (t : FlagTable) : Nat → Flag → String → String → Except Stop (List (Flag × Option String))
  | 0, _, _, _ => .ok []
  | fuel + 1, f, spelling, given =>
    if f.takesText then .ok [(f, some given)]
    else if spelling.toList[1]? != some '-' && given != "" then
      let next := "-" ++ String.ofList (given.toList.take 1)
      match t.find? next with
      | none => t.complainOf f ("ignored explicit argument " ++ quoted given)
      | some g =>
        let rest := String.ofList (given.toList.drop 1)
        if rest = "" then .ok [(f, none), (g, none)]
        else do return (f, none) :: (← unfold t fuel g next rest)
    else t.complainOf f ("ignored explicit argument " ++ quoted given)

def readAll (t : FlagTable) : Nat → List (String × Argument) → Reading → Except Stop Reading
  | 0, _, r => .ok r
  | _, [], r => .ok r
  | fuel + 1, (s, a) :: rest, r =>
    match a with
    | .text _ | .separator | .unknown _ => readAll t fuel rest { r with extra := r.extra ++ [s] }
    | .flag f spelling given => do
      let parts ← match given with
        | some g => t.unfold (g.length + 1) f spelling g
        | none => pure [(f, none)]
      let (parts, rest) ← match parts.getLast? with
        | some (last, none) =>
          if last.takesText then
            match rest with
            | (text, .text _) :: rest => pure (parts.dropLast ++ [(last, some text)], rest)
            | _ => t.complainOf last "expected one argument"
          else pure (parts, rest)
        | _ => pure (parts, rest)
      let r ← parts.foldlM (fun r p => t.apply r p.1 p.2) r
      readAll t fuel rest r

/-- The values before any argument is read, by name. -/
def defaults (t : FlagTable) : List (String × Value) :=
  t.flags.foldl (fun values f =>
    if f.action = .showHelp || values.any (·.1 = f.dest) then values
    else values ++ [(f.dest, f.default)]) []

/-- The values that a command line gives; anything that is no flag is refused. -/
def read (t : FlagTable) (args : List String) : Except Stop (List (String × Value)) := do
  let arguments ← t.classifyAll args
  let r ← t.readAll (arguments.length + 1) arguments ⟨t.defaults, [], []⟩
  if r.extra.isEmpty then return r.values
  else t.complain ("unrecognized arguments: " ++ " ".intercalate r.extra)

end FlagTable
end Detour
