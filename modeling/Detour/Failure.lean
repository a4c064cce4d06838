import Detour.FileTree
import Detour.Log.Template
import Detour.Navigation
import Detour.Rule
import Detour.TypeSpec

/-!
# Failures

Everything that can go wrong, by cause, with its message. `Failure.kind` names the family that
callers and log readers tell apart; a refusal of settings (`Failure.isRefusal`) is the one that
takes an update back.
-/
namespace Detour

/-- Why new settings are refused. -/
inductive SettingFault where
  | notAChoice (name : String) (value : Value) (choices : List String)
  | severalValues (name : String) (texts : List String)
  | badFlag
  | required (name : String)
  | notInteger (text : String)
  | unknown (names : List String)
  | notPositive (name : String) (n : Int)
  | emptyKey
  | unreadableConfig
  | badConfig (line : Nat) (snippet problem : String)
  | noMapping
  | inFile (path reason : String)
  | other (message : String)
  deriving Repr, BEq

inductive AddonFault where
  | alreadyExists (name : String)
  | unknown (name : String)
  | notCallable (hook addon : String)
  | suspends (hook addon : String)
  deriving DecidableEq, Repr

inductive StoreFault where
  | unreadable (path reason : String)
  | broken (path : String) (line : Nat) (snippet problem : String)
  | unparsable (path : String)
  | noMapping (path : String)
  | noSequence (key : String)
  | unwritable (path reason : String)
  | other (message : String)
  deriving DecidableEq, Repr

/-- Why a line is no event. -/
inductive EventFault where
  | syntaxError (message : String)
  | notObject
  | unknownKind (kind : Value)
  | tabNotNumber
  | badWait (ms : Value)
  | navigation (f : Navigation.Fault)
  deriving Repr, BEq

inductive ReplayFault where
  | line (number : Nat) (f : EventFault)
  | file (message : String)
  deriving Repr, BEq

inductive Failure where
  | setting (f : SettingFault)
  | addon (f : AddonFault)
  | halt (message : String)
  | store (f : StoreFault)
  | replay (f : ReplayFault)
  | rule (f : Rule.Fault)
  | event (f : EventFault)
  | expression (source : List Char) (f : Regex.Fault)
  | periodNotPositive (period : String)
  | wrongType (name : String) (expected : TypeSpec) (kind : String)
  | unknownSettings (names : List String)
  | noSetting (name : String)
  | noAttribute (name : String)
  | reservedName (operation : String)
  | nameNotText
  | notPartOfText (kind : String)
  | template (f : Template.Fault)
  | unsupportedType (t : TypeSpec)
  | undescribedType
  /-- An operation that the thing at hand does not have. -/
  | unsupported
  | noHome
  | notPath (kind : String)
  | file (path : String) (f : FileFault)
  | encoding (f : Text.Utf8.Fault)
  | notIterable (kind : String)
  /-- A flag that is spelled like flags that exist already. -/
  | flagTaken (flag : String) (spellings : List String)
  | notAFlagType (t : TypeSpec)
  | assertion
  | timeout
  | waitTooLong
  | foreign (kind message : String)
  deriving Repr, BEq

def SettingFault.message : SettingFault → String
  | notAChoice name value choices =>
    let valid := ", ".intercalate choices
    s!"Invalid value for {name}: {value.shown}. Valid values are {valid}."
  | severalValues name texts =>
    s!"Received multiple values for {name}: {(Value.list (texts.map .str)).shown}"
  | badFlag => "Boolean must be \"true\", \"false\", \"toggle\" or have the value omitted."
  | required name => "Option is required: " ++ name
  | notInteger text => "Not an integer: " ++ text
  | unknown names => "Unknown option(s): " ++ ", ".intercalate names
  | notPositive name n => s!"{name} must be positive, not {n}"
  | emptyKey => "rules_key must not be empty."
  | unreadableConfig => "Could not parse options."
  | badConfig line snippet problem => s!"Config error at line {line}:\n{snippet}\n{problem}"
  | noMapping => "Config error - no keys found."
  | inFile path reason => s!"Error reading {path}: {reason}"
  | other message => message

def AddonFault.message : AddonFault → String
  | alreadyExists name => s!"An addon called '{name}' already exists."
  | unknown name => "No such addon: " ++ name
  | notCallable hook addon => s!"Addon handler {hook} ({addon}) not callable"
  | suspends hook addon => s!"Async handler {hook} ({addon}) cannot be called from sync context"

def StoreFault.message : StoreFault → String
  | unreadable path reason => s!"Cannot read {path}: {reason}"
  | broken path line snippet problem => s!"Error in {path} at line {line}:\n{snippet}\n{problem}"
  | unparsable path => s!"Could not parse {path}."
  | noMapping path => path ++ " does not contain a mapping."
  | noSequence key => key ++ " is not a sequence of rules."
  | unwritable path reason => s!"Cannot write {path}: {reason}"
  | other message => message

def EventFault.message : EventFault → String
  | syntaxError message => message
  | notObject => "not a JSON object"
  | unknownKind kind => "Unknown event type: " ++ kind.shown
  | tabNotNumber => "tabId must be an integer"
  | badWait ms => "Invalid wait time: " ++ ms.shown
  | navigation f => f.message

def ReplayFault.message : ReplayFault → String
  | line number f => s!"Line {number}: {f.message}"
  | file message => message

namespace Failure

def message : Failure → String
  | setting f => f.message
  | addon f => f.message
  | halt message => message
  | store f => f.message
  | replay f => f.message
  | rule f => f.message
  | event f => f.message
  | expression source f => f.message source
  | periodNotPositive period => "Alarm period must be positive, not " ++ period
  | wrongType name expected kind => s!"Expected {expected.shown} for {name}, but got {kind}."
  | unknownSettings names => "Unknown options: " ++ ", ".intercalate names
  | noSetting name => name
  | noAttribute name => "No such option: " ++ name
  | reservedName operation => s!"{operation}() got multiple values for argument 'self'"
  | nameNotText => "keywords must be strings"
  | notPartOfText kind => "'in <string>' requires string as left operand, not " ++ kind
  | template f => f.message
  | unsupportedType t => "Unsupported option type: " ++ t.shown
  | noHome => "Could not determine home directory."
  | notPath "bytes" =>
    "argument should be a str object or an os.PathLike object returning str, not <class 'bytes'>"
  | notPath kind => "expected str, bytes or os.PathLike object, not " ++ kind
  | file path f => f.message path
  | encoding f => f.message
  | flagTaken flag spellings =>
    let noun := if spellings.length = 1 then "string" else "strings"
    let taken := ", ".intercalate spellings
    s!"argument {flag}: conflicting option {noun}: {taken}"
  | notAFlagType t => "Unsupported option type: " ++ t.shown
  | notIterable kind => s!"'{kind}' object is not iterable"
  | waitTooLong => "integer division result too large for a float"
  | undescribedType | unsupported | assertion | timeout => ""
  | foreign _ message => message

/-- The family of a broken expression: of the grammar, or of numbers out of range. -/
def expressionKind (p : Regex.Problem) : String :=
  match p with
  | .repetitionTooLarge => "OverflowError"
  | p => if p.isGrammatical then "error" else "ValueError"

def fileKind : FileFault → String
  | .notFound => "FileNotFoundError"
  | .notDirectory => "NotADirectoryError"
  | .isDirectory => "IsADirectoryError"
  | .nameTooLong => "OSError"
  | .nulByte => "ValueError"

def kind : Failure → String
  | setting _ => "OptionsError"
  | addon _ => "AddonManagerError"
  | halt _ => "AddonHalt"
  | store _ => "StoreError"
  | replay _ => "EventReadException"
  | rule (.unreadableExpression _ f) | expression _ f => expressionKind f.problem
  | rule _ | event _ | periodNotPositive _ | notAFlagType _ => "ValueError"
  | flagTaken .. => "ArgumentError"
  | wrongType .. | reservedName _ | nameNotText | notPartOfText _ | notPath _ | notIterable _ => "TypeError"
  | unknownSettings _ | noSetting _ => "KeyError"
  | noAttribute _ => "AttributeError"
  | template f => f.kind
  | unsupportedType _ | undescribedType | unsupported => "NotImplementedError"
  | noHome => "RuntimeError"
  | file _ f => fileKind f
  | encoding _ => "UnicodeDecodeError"
  | assertion => "AssertionError"
  | timeout => "TimeoutError"
  | waitTooLong => "OverflowError"
  | foreign kind _ => kind

/-- A refusal takes back the update it happens in. -/
def isRefusal : Failure → Bool
  | setting _ => true
  | _ => false

/-- The families that are the program's own. -/
def ownKinds : List String :=
  ["OptionsError", "AddonManagerError", "AddonHalt", "StoreError", "EventReadException"]

/-- The failure in a sentence: its message, in quotes if it is a name that was looked up. -/
def described (f : Failure) : String :=
  if f.kind = "KeyError" then Text.quoted f.message else f.message

/-- The failure as the last line of a report: its family, and what it says if it says anything. -/
def report (f : Failure) : String :=
  let family := if ownKinds.contains f.kind then "navredirect.exceptions." ++ f.kind else f.kind
  if f.described = "" then family else family ++ ": " ++ f.described

end Failure
end Detour
