import Detour.Path
import Detour.Text.Quoted
import Detour.Text.Utf8

/-!
# A tree of files

Files and directories by their place below the root, and where users are at home. A path is
followed part by part, so that two points after a file or after nothing fail as well.
-/
namespace Detour

inductive FileNode where
  | directory
  | file (content : List UInt8)
  deriving DecidableEq, Repr

structure FileTree where
  nodes : List (List String × FileNode)
  homes : Path.Homes
  deriving DecidableEq, Repr

inductive FileFault where
  | notFound
  | notDirectory
  | isDirectory
  | nameTooLong
  | nulByte
  deriving DecidableEq, Repr

namespace FileFault

def code : FileFault → Nat
  | notFound => 2
  | notDirectory => 20
  | isDirectory => 21
  | nameTooLong => 36
  | nulByte => 22

def reason : FileFault → String
  | notFound => "No such file or directory"
  | notDirectory => "Not a directory"
  | isDirectory => "Is a directory"
  | nameTooLong => "File name too long"
  | nulByte => "embedded null byte"

/-- The message about a path; a path with a null byte is refused before the system sees it. -/
def message (f : FileFault) (path : String) : String :=
  match f with
  | nulByte => f.reason
  | _ => s!"[Errno {f.code}] {f.reason}: {Text.quoted path}"

end FileFault

namespace FileTree

/-- The working directory alone; nobody but the current user is known. -/
def empty : FileTree where
  nodes := [([], .directory), (Path.workingDirectory.parts, .directory)]
  homes := [("", "/work/home")]

def node? (t : FileTree) (place : List String) : Option FileNode :=
  (t.nodes.find? (·.1 = place)).map (·.2)

def put (t : FileTree) (place : List String) (n : FileNode) : FileTree :=
  { t with nodes := (place, n) :: t.nodes.filter (·.1 != place) }

/-- The node at a place, with the directories above it where they are missing. -/
def install (t : FileTree) (place : List String) (n : FileNode) : FileTree :=
  let above := (List.range place.length).map place.take
  let t := above.foldl (fun t p => if (t.node? p).isNone then t.put p .directory else t) t
  if n = .directory && (t.node? place).isSome then t else t.put place n

def longestName : Nat := 255

def longestPath : Nat := 4095

/-- Follow the parts of a path from a place. -/
def follow (t : FileTree) (place : List String) : List String → Except FileFault (List String)
  | [] => .ok place
  | part :: rest =>
    match t.node? place with
    | none => .error .notFound
    | some (.file _) => .error .notDirectory
    | some .directory =>
      if longestName < part.utf8ByteSize then .error .nameTooLong
      else if part = ".." then follow t place.dropLast rest
      else if part = "" || part = "." then follow t place rest
      else follow t (place ++ [part]) rest

/-- The place a path leads to. Its last part may be missing. -/
def locate (t : FileTree) (path : String) : Except FileFault (List String) :=
  if path.contains '\x00' then .error .nulByte
  else if path = "" then .error .notFound
  else if longestPath < path.utf8ByteSize then .error .nameTooLong
  else
    let start := if path.toList.head? = some '/' then [] else Path.workingDirectory.parts
    t.follow start (path.splitOn "/")

def read (t : FileTree) (path : String) : Except FileFault (List UInt8) := do
  match t.node? (← t.locate path) with
  | some (.file content) => return content
  | some .directory => throw .isDirectory
  | none => throw .notFound

def write (t : FileTree) (path : String) (content : List UInt8) : Except FileFault FileTree := do
  let place ← t.locate path
  match t.node? place, t.node? place.dropLast with
  | some .directory, _ => throw .isDirectory
  | _, some .directory => return t.put place (.file content)
  | _, _ => throw .notFound

end FileTree

/-- Line breaks of all three kinds become line feeds. -/
def unifyBreaks : List Char → List Char
  | '\r' :: '\n' :: cs => '\n' :: unifyBreaks cs
  | '\r' :: cs => '\n' :: unifyBreaks cs
  | c :: cs => c :: unifyBreaks cs
  | [] => []

inductive TextFileFault where
  | file (f : FileFault)
  | encoding (f : Text.Utf8.Fault)
  deriving DecidableEq, Repr

def TextFileFault.message (path : String) : TextFileFault → String
  | file f => f.message path
  | encoding f => f.message

def FileTree.readText (t : FileTree) (path : String) : Except TextFileFault String :=
  match t.read path with
  | .error f => .error (.file f)
  | .ok bytes =>
    match Text.Utf8.decode bytes with
    | .error f => .error (.encoding f)
    | .ok cs => .ok (String.ofList (unifyBreaks cs))

/-- The lines of a text, each with its line feed. -/
def linesOf (acc : List Char) : List Char → List String
  | [] => if acc.isEmpty then [] else [String.ofList acc.reverse]
  | '\n' :: cs => String.ofList ('\n' :: acc).reverse :: linesOf [] cs
  | c :: cs => linesOf (c :: acc) cs

def lines (s : String) : List String := linesOf [] s.toList

/-- How many bytes of a file are decoded at a time when it is read line by line. -/
def blockSize : Nat := 8192

/-- The characters of a file, the latest first, read in blocks; `pending` are the bytes of a
character cut in two. A fault loses the block it is in, a character missing its end only itself. -/
def decodeBlocks (acc : List Char) (pending : List UInt8) :
    Nat → List UInt8 → List Char × Option Text.Utf8.Fault
  | 0, _ => (acc, none)
  | fuel + 1, bytes =>
    let block := pending ++ bytes.take blockSize
    let rest := bytes.drop blockSize
    match Text.Utf8.read 0 acc block.length block with
    | (cs, none) => if rest.isEmpty then (cs, none) else decodeBlocks cs [] fuel rest
    | (cs, some (f, left)) =>
      if f.reason != .ending then (acc, some f)
      else if rest.isEmpty then (cs, some { f with position := 0 })
      else decodeBlocks cs left fuel rest

/-- The lines of a file that are complete before a fault in its encoding. -/
def FileTree.readLines (t : FileTree) (path : String) :
    Except FileFault (List String × Option Text.Utf8.Fault) := do
  let bytes ← t.read path
  let (cs, fault) := decodeBlocks [] [] (bytes.length / blockSize + 1) bytes
  let text := unifyBreaks cs.reverse
  let whole := if fault.isSome then (text.reverse.dropWhile (· != '\n')).reverse else text
  return (linesOf [] whole, fault)

end Detour
