import Detour.Log

/-!
# The terminal

The terminal shows the records from its verbosity on, as long as it is installed.
-/
namespace Detour

structure Terminal where
  /-- The least level shown. -/
  verbosity : Nat
  installed : Bool
  deriving DecidableEq, Repr

namespace Terminal

def fresh : Terminal := ⟨Level.info, true⟩

def shows (t : Terminal) (r : LogRecord) : Bool := t.installed && t.verbosity ≤ r.level

/-- What the terminal shows of records in order, each made at a time in seconds. -/
def text (t : Terminal) (records : List (Rat × LogRecord)) : String :=
  String.join ((records.filter fun r => t.shows r.2).map fun r => r.2.line (r.1 * 1000) ++ "\n")

end Terminal
end Detour
