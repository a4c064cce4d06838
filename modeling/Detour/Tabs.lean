import Detour.Log

/-!
# Commands to tabs

The engine asks for one thing only, that a tab goes to a URL, and does not learn whether it did.
Commands are carried out by nobody, by a stand-in that logs them, or by one that only keeps them
and may fail.
-/
namespace Detour

inductive TabSurface where
  | absent
  | logging
  | recording
  deriving DecidableEq, Repr

structure Tabs where
  surface : TabSurface
  /-- Every command given so far, in order. -/
  issued : List (Id × String)
  /-- What each command fails with after it has been recorded. -/
  failure : Option Failure
  deriving Repr

namespace Tabs

def fresh (surface : TabSurface) (failure : Option Failure) : Tabs := ⟨surface, [], failure⟩

/-- What is logged of a command. -/
def notices (t : Tabs) (tab : Id) (url : String) : List LogRecord :=
  match t.surface with
  | .logging =>
    let name := tab.text
    [.plain Level.info s!"tab {name}: navigate to {url}"]
  | _ => []

/-- How a command fails, if it does. -/
def fault? (t : Tabs) : Option Failure :=
  match t.surface with
  | .absent => some .unsupported
  | .logging => none
  | .recording => t.failure

/-- Give a command. -/
def issue (t : Tabs) (tab : Id) (url : String) : Tabs := { t with issued := t.issued ++ [(tab, url)] }

end Tabs
end Detour
