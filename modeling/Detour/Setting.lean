import Detour.Failure
import Detour.Text.Words

/-!
# A setting

A typed value with a default. A value is assigned only if it has the type of the setting and,
where choices are given, is one of them; until then the default is current. `Setting.ofTexts`
reads a value from the texts given for it on a command line.
-/
namespace Detour

/-- The texts that a setting may take: some texts, or the parts of one text. -/
inductive Choices where
  | texts (ts : List String)
  | partsOf (s : String)
  deriving DecidableEq, Repr, Inhabited

namespace Choices

/-- The choices one by one; of a text, its characters. -/
def names : Choices → List String
  | texts ts => ts
  | partsOf s => s.toList.map String.singleton

def allowsText : Choices → String → Bool
  | texts ts, t => ts.contains t
  | partsOf s, t => Text.isInfix t.toList s.toList

/-- Whether a value may be taken; only a text can be part of a text. -/
def allows (c : Choices) (v : Value) : Except Failure Bool :=
  match c, v with
  | c, .str t => .ok (c.allowsText t)
  | texts _, _ => .ok false
  | partsOf _, v => .error (.notPartOfText v.kind)

end Choices

/-- What an addon says of a setting of its own. -/
structure Declaration where
  name : String
  type : TypeSpec
  default : Value
  help : String
  choices : Option Choices
  deriving Repr, BEq, Inhabited

structure Setting where
  name : String
  type : TypeSpec
  default : Value
  help : String
  choices : Option Choices
  /-- What has been assigned. -/
  value : Option Value
  deriving Repr, BEq, Inhabited

namespace Setting

def checkType (name : String) (type : TypeSpec) (v : Value) : Except Failure Unit :=
  if type.holds v then .ok () else .error (.wrongType name type v.className)

/-- A setting that nothing has been assigned to; blanks in its help text are made single. -/
def declare (d : Declaration) : Except Failure Setting := do
  checkType d.name d.type d.default
  return { name := d.name, type := d.type, default := d.default, help := Text.squeezed d.help
           choices := d.choices, value := none }

/-- Whether the setting is what is declared. -/
def agrees (o : Setting) (d : Declaration) : Bool :=
  o.type.same d.type && o.default.same d.default && o.help = Text.squeezed d.help &&
    o.choices = d.choices

def current (o : Setting) : Value := o.value.getD o.default

def assign (o : Setting) (v : Value) : Except Failure Setting := do
  checkType o.name o.type v
  match o.choices with
  | some choices =>
    if ← choices.allows v then return { o with value := some v }
    else throw (.setting (.notAChoice o.name v choices.names))
  | none => return { o with value := some v }

/-- Whether the current value differs from the default. -/
def hasChanged (o : Setting) : Bool := !o.current.same o.default

/-- The value and the type, as they are shown together. -/
def shown (o : Setting) : String := s!"{o.current.shown} [{o.type.shown}]"

def flagOfText (o : Setting) : Option String → Except Failure Value
  | none | some "" | some "true" => .ok (.bool true)
  | some "false" => .ok (.bool false)
  | some "toggle" => .ok (.bool !o.current.isTrue)
  | some _ => .error (.setting .badFlag)

def wholeOfText (text : String) : Except Failure Value :=
  match Whole.readInt text with
  | .ok n => .ok (.int n)
  | .error _ => .error (.setting (.notInteger text))

/-- The value that a text, or no text, denotes for the setting. -/
def ofText (o : Setting) (text : Option String) : Except Failure Value :=
  match o.type.entry? with
  | some .flag => o.flagOfText text
  | some (.text optional) =>
    match text with
    | some s => .ok (.str s)
    | none => if optional then .ok .null else .error (.setting (.required o.name))
  | some (.whole optional) =>
    match text with
    | none | some "" => if optional then .ok .null else .error (.setting (.required o.name))
    | some s => wholeOfText s
  | none => .error (.unsupportedType o.type)

/-- The value for all the texts given for the setting; there may be one at most. -/
def ofTexts (o : Setting) : List String → Except Failure Value
  | [] => o.ofText none
  | [text] => o.ofText (some text)
  | texts => .error (.setting (.severalValues o.name texts))

end Setting
end Detour
