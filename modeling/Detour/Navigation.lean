import Detour.Text.Case
import Detour.Value

/-!
# Navigations

A completed navigation of a frame of a tab. Tabs and frames are named by numbers; a flag counts
as one, so that a tab id is kept in the form it came in and compared by its number.
-/
namespace Detour

/-- The id of a tab or a frame. -/
inductive Id where
  | number (n : Int)
  | flag (b : Bool)
  deriving DecidableEq, Repr, Inhabited

namespace Id

def toInt : Id → Int
  | number n => n
  | flag b => if b then 1 else 0

/-- Two ids name the same tab. -/
def same (a b : Id) : Bool := a.toInt = b.toInt

def toValue : Id → Value
  | number n => .int n
  | flag b => .bool b

def ofValue? : Value → Option Id
  | .int n => some (number n)
  | .bool b => some (flag b)
  | _ => none

def text (i : Id) : String := i.toValue.shown

end Id

structure Navigation where
  tab : Id
  url : String
  frame : Id
  deriving DecidableEq, Repr, Inhabited

namespace Navigation

/-- The main frame of a tab. -/
def mainFrame : Id := .number 0

inductive Fault where
  | missing (field : String)
  | idNotNumber
  | urlNotText
  deriving DecidableEq, Repr

def Fault.message : Fault → String
  | missing field => "Navigation event is missing " ++ Text.quoted field
  | idNotNumber => "tabId and frameId must be integers"
  | urlNotText => "url must be a string"

def isTopLevel (n : Navigation) : Bool := n.frame.same mainFrame

def schemes : List String := ["http://", "https://"]

/-- Whether the URL is a web address; pages of the browser itself are not. -/
def isWeb (n : Navigation) : Bool :=
  schemes.any fun s => s.toList.isPrefixOf (Text.lowerChars n.url.toList)

def ofState (entries : List (Value × Value)) : Except Fault Navigation := do
  let some tab := Value.field? "tabId" entries | throw (.missing "tabId")
  let some url := Value.field? "url" entries | throw (.missing "url")
  let frame := (Value.field? "frameId" entries).getD mainFrame.toValue
  match Id.ofValue? tab, Id.ofValue? frame with
  | some tab, some frame =>
    match url with
    | .str url => return { tab, url, frame }
    | _ => throw .urlNotText
  | _, _ => throw .idNotNumber

def state (n : Navigation) : Value :=
  .map [(.str "tabId", n.tab.toValue), (.str "url", .str n.url), (.str "frameId", n.frame.toValue)]

end Navigation
end Detour
