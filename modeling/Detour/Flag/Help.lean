import Detour.Flag
import Detour.Text.Wrap

/-!
# Usage and help texts

The usage line names all flags; flags that exclude each other stand in one pair of brackets with
bars between them. The help text lists the flags by title, with their help in a second column.
-/
namespace Detour.Flag
open Text

/-- How wide the texts may be. -/
def width : Nat := 78

/-- The column of help texts is never further right than this. -/
def helpLimit : Nat := 24

/-- What stands for the text that a flag takes. -/
def placeholder (f : Flag) : String :=
  match f.metavar, f.choices with
  | some m, _ => m
  | none, some choices => "\x7b" ++ ",".intercalate choices.names ++ "\x7d"
  | none, none => String.ofList (f.dest.toList.map Char.toUpper)

def withPlaceholder (f : Flag) (spelling : String) : String :=
  if f.takesText then spelling ++ " " ++ f.placeholder else spelling

def usagePart (f : Flag) : String :=
  let part := f.withPlaceholder (f.spellings.headD "")
  if f.group.isSome then part else "[" ++ part ++ "]"

/-- The parts of the usage with the brackets and bars of groups between them. -/
def usageParts : Option Nat → List Flag → List String
  | open_, [] => if open_.isSome then ["]"] else []
  | open_, f :: fs =>
    let lead := match open_, f.group with
      | none, none => []
      | none, some _ => ["["]
      | some _, none => ["]"]
      | some a, some b => if a = b then ["|"] else ["]", "["]
    lead ++ f.usagePart :: usageParts f.group fs

def isOpening (c : Char) : Bool := c = '[' || c = '('

def isClosing (c : Char) : Bool := c = ']' || c = ')'

/-- Leave out one space behind every opening bracket. -/
def tightenOpening : List Char → List Char
  | c :: ' ' :: cs => if isOpening c then c :: tightenOpening cs else c :: tightenOpening (' ' :: cs)
  | c :: cs => c :: tightenOpening cs
  | [] => []

/-- Leave out one space in front of every closing bracket. -/
def tightenClosing : List Char → List Char
  | ' ' :: c :: cs => if isClosing c then c :: tightenClosing cs else ' ' :: tightenClosing (c :: cs)
  | c :: cs => c :: tightenClosing cs
  | [] => []

/-- Leave out brackets with nothing but spaces between them; `skip` characters are left out. -/
def dropEmpty : Nat → List Char → List Char
  | _, [] => []
  | n + 1, _ :: cs => dropEmpty n cs
  | 0, c :: cs =>
    let blanks := cs.takeWhile (· = ' ')
    if isOpening c && ((cs.drop blanks.length).head?.map isClosing).getD false then
      dropEmpty (blanks.length + 1) cs
    else c :: dropEmpty 0 cs

def usageText (fs : List Flag) : List Char :=
  trim (dropEmpty 0 (tightenClosing (tightenOpening (" ".intercalate (usageParts none fs)).toList)))

/-- The length of a bracketed part: up to closing brackets with a blank or nothing behind them. -/
def bracketed? (closing : Char) : Nat → List Char → Option Nat
  | _, [] => none
  | n, c :: cs =>
    let run := (c :: cs).takeWhile (· = closing)
    if !run.isEmpty && ((c :: cs).drop run.length).head?.all isBlank then some (n + run.length)
    else bracketed? closing (n + 1) cs

/-- The parts of a usage that stay on one line. -/
def lineParts : Nat → List Char → List (List Char)
  | 0, _ => []
  | fuel + 1, cs =>
    match cs.dropWhile isBlank with
    | [] => []
    | c :: rest =>
      let word := ((c :: rest).takeWhile (!isBlank ·)).length
      let size := match c with
        | '(' => (bracketed? ')' 1 rest).getD word
        | '[' => (bracketed? ']' 1 rest).getD word
        | _ => word
      (c :: rest).take size :: lineParts fuel ((c :: rest).drop size)

/-- Parts on lines of a width, each line with an indentation that counts on the first as well. -/
def fillParts (indent : Nat) : List String → Nat → List (List Char) → List String
  | line, _, [] => if line.isEmpty then [] else [" ".intercalate line]
  | line, used, p :: ps =>
    if width < used + 1 + p.length && !line.isEmpty then
      " ".intercalate line :: fillParts indent [String.ofList p] (indent + p.length) ps
    else fillParts indent (line ++ [String.ofList p]) (used + p.length + 1) ps

end Flag

namespace FlagTable
open Detour.Flag Text

def usageLead : String := "usage: "

/-- The usage of the program, on several lines if it is long. -/
def usageLines (t : FlagTable) : String :=
  match t.usage with
  | some u => u
  | none =>
    let body := usageText t.flags
    let whole := " ".intercalate ([t.program, String.ofList body].filter (· != ""))
    if usageLead.length + whole.length ≤ Flag.width then whole
    else
      let parts := lineParts (body.length + 1) body
      let head := usageLead.length + t.program.length
      if 4 * head ≤ 3 * Flag.width then
        let indent := String.ofList (List.replicate (head + 1) ' ')
        let lines := fillParts (head + 1) [] (usageLead.length - 1) (t.program.toList :: parts)
        ("\n" ++ indent).intercalate lines
      else
        let indent := String.ofList (List.replicate usageLead.length ' ')
        let lines := fillParts usageLead.length [] (usageLead.length - 1) parts
        "\n".intercalate (t.program :: lines.map (indent ++ ·))

/-- The usage as it is printed in front of a complaint. -/
def usageMessage (t : FlagTable) : String := usageLead ++ t.usageLines ++ "\n"

/-- A flag as it is listed: all its spellings. -/
def invocation (f : Flag) : String := ", ".intercalate (f.spellings.map f.withPlaceholder)

def helpColumn (t : FlagTable) : Nat :=
  let longest := (t.flags.map fun f => (invocation f).length + 2).foldl max 0
  min (longest + 2) helpLimit

/-- What may be filled into the help of a flag. -/
def helpFields (t : FlagTable) (f : Flag) : List (Value × Value) :=
  let text (s : Option String) : Value := (s.map Value.str).getD .null
  let kind : Value := match f.action with
    | .storeText | .collectText => .str "str"
    | .storeWhole => .str "int"
    | _ => .null
  [(.str "prog", .str t.program), (.str "dest", .str f.dest), (.str "default", f.default),
    (.str "help", text f.help), (.str "metavar", text f.metavar), (.str "type", kind),
    (.str "choices", text (f.choices.map fun c => ", ".intercalate c.names)), (.str "required", .bool false),
    (.str "option_strings", .list (f.spellings.map .str)),
    (.str "nargs", if f.takesText then .null else .int 0), (.str "const", .null)]

def helpText (t : FlagTable) (f : Flag) (help : String) : Except Failure String :=
  match Template.format help (.named (helpFields t f)) with
  | .ok s => .ok s
  | .error e => .error (.template e)

def spaces (n : Nat) : String := String.ofList (List.replicate n ' ')

/-- Every run of blanks as one space. -/
def joined (s : String) : String :=
  let cs := s.toList.map fun c => if isAsciiBlank c then ' ' else c
  let words := (pieces (· = ' ') cs).filter (!·.isEmpty)
  String.ofList (trim (" ".intercalate (words.map String.ofList)).toList)

/-- The lines of a flag in the help text. -/
def entryText (t : FlagTable) (f : Flag) : Except Failure String := do
  let column := helpColumn t
  let room := column - 4
  let head := invocation f
  match f.help.filter (· != "") with
  | none => return s!"  {head}\n"
  | some help =>
    let short := head.length ≤ room
    let first := if short then "  " ++ head ++ spaces (room - head.length) ++ "  "
      else "  " ++ head ++ "\n" ++ spaces column
    let lines := wrap (max (Flag.width - column) 11) (joined (← helpText t f help))
    return first ++ ("\n" ++ spaces column).intercalate lines ++ "\n"

/-- The flags under a title; a title without flags is left out. -/
def titleText (t : FlagTable) (title : String) : Except Failure String := do
  let entries ← (t.flags.filter (·.title = title)).mapM (entryText t)
  return if entries.isEmpty then "" else s!"\n{title}:\n" ++ String.join entries

def help (t : FlagTable) : Except Failure String := do
  let description := match t.description with
    | some d => "\n" ++ "\n".intercalate (wrap Flag.width (joined d)) ++ "\n"
    | none => ""
  let sections ← t.titles.mapM (titleText t)
  return t.usageMessage ++ description ++ String.join sections

end FlagTable
end Detour
