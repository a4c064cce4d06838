/-!
# File paths

A path is absolute from one of two roots, `/` and `//`, or relative, and has its parts without
empty ones and single points; two points are kept, since what precedes them may be a link. A
path that begins with a tilde is taken from the home directory of a user.
-/
namespace Detour

structure Path where
  /-- Empty for a relative path. -/
  root : String
  parts : List String
  deriving DecidableEq, Repr, Inhabited

namespace Path

def rootOf (s : String) : String :=
  match (s.toList.takeWhile (· = '/')).length with
  | 0 => ""
  | 2 => "//"
  | _ => "/"

def ofString (s : String) : Path :=
  ⟨rootOf s, (s.splitOn "/").filter fun p => p != "" && p != "."⟩

def text (p : Path) : String :=
  if p.root = "" && p.parts.isEmpty then "." else p.root ++ "/".intercalate p.parts

def isAbsolute (p : Path) : Bool := p.root != ""

/-- The second path seen from the first. -/
def join (p q : Path) : Path := if q.isAbsolute then q else ⟨p.root, p.parts ++ q.parts⟩

def workingDirectory : Path := ⟨"/", ["work"]⟩

def absolute (p : Path) : Path := workingDirectory.join p

def parent (p : Path) : Path := ⟨p.root, p.parts.dropLast⟩

/-- Where users are at home, by their names; the current user goes by the empty name. -/
abbrev Homes := List (String × String)

/-- A path as it stands in a text, its leading tilde replaced where the user is known. -/
def expandText (homes : Homes) (s : String) : String :=
  match s.toList with
  | '~' :: cs =>
    match homes.lookup (String.ofList (cs.takeWhile (· != '/'))) with
    | some home =>
      let above := (home.toList.reverse.dropWhile (· = '/')).reverse
      let text := String.ofList (above ++ cs.dropWhile (· != '/'))
      if text = "" then "/" else text
    | none => s
  | _ => s

/-- The path with a leading tilde replaced; nothing if it names a user who is not known. -/
def expandUser? (homes : Homes) (p : Path) : Option Path :=
  match p.root, p.parts with
  | "", part :: rest =>
    if part.toList.head? = some '~' then
      let home := expandText homes part
      if home.toList.head? = some '~' then none else some ((ofString home).join ⟨"", rest⟩)
    else some p
  | _, _ => some p

/-- One path text put behind another. -/
def joinText (s t : String) : String :=
  if t.toList.head? = some '/' then t
  else if s = "" || s.toList.getLast? = some '/' then s ++ t
  else s ++ "/" ++ t

end Path
end Detour
