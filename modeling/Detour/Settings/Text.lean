import Detour.Settings
import Detour.Text.Wrap
import Detour.Yaml.Printer

/-!
# All settings as a document

Every setting with its default, in the order of the names, below its help text as a comment. The
text is a config file that changes nothing.
-/
namespace Detour.Settings

/-- How wide comments are. -/
def commentWidth : Nat := 70

/-- What is said of the values that a setting takes. -/
def valuesNote (o : Setting) : Except Failure String :=
  match o.choices.map (·.names), o.type.described? with
  | some (c :: cs), _ =>
    let choices := ", ".intercalate ((c :: cs).map Text.quoted)
    .ok s!"Valid values are {choices}."
  | _, some type => .ok s!"Type {type}."
  | _, none => .error .undescribedType

/-- The lines above a setting: an empty one and a comment. -/
def commentLines (o : Setting) : Except Failure (List String) := do
  let note ← valuesNote o
  return "\n" :: (Text.wrap commentWidth (o.help ++ " " ++ note)).map fun line => "# " ++ line ++ "\n"

def sorted (s : Settings) : List Setting := s.table.mergeSort fun a b => a.name ≤ b.name

/-- Write one setting below its comment. -/
def writeEntry (o : Setting) (comment : List String) : Yaml.Write Unit := do
  if (← get).column != 0 then Yaml.Pen.lineBreak "\n"
  modify fun p => { p with text := p.text ++ String.join comment }
  Yaml.Pen.writeEntries [] 0 [(.plain (.str o.name), (Yaml.Shared.ofValue 0 o.default).1)]

def dump (s : Settings) : Except Failure String := do
  let entries ← s.sorted.mapM fun o => return (o, ← commentLines o)
  if entries.isEmpty then return "\x7b\x7d\n"
  let body : Yaml.Write Unit := do
    entries.forM fun e => writeEntry e.1 e.2
    Yaml.Pen.indentTo 0
  return (body.run .blank).2.text

end Detour.Settings
