import Detour.FileTree
import Detour.Log
import Detour.Yaml.Codec

/-!
# Stores

A store keeps values by name, in memory or in a file that holds one mapping. A file is read anew
for every operation and written as a whole; a file that is missing or empty is an empty mapping.
-/
namespace Detour

abbrev Entries := List (Value × Value)

inductive Store where
  /-- A store that can neither be read nor written. -/
  | closed
  | memory (entries : Entries)
  | file (path : Path)
  deriving Repr, BEq, Inhabited

namespace Store

/-- The store in a file; a tilde at the beginning of the path stands for a home directory. -/
def atPath (homes : Path.Homes) (path : String) : Except Failure Store :=
  match (Path.ofString path).expandUser? homes with
  | some p => .ok (file p)
  | none => .error .noHome

def faultOf (path text : String) : Yaml.Fault → Failure
  | .at mark p => .store (.broken path (mark.line + 1) (mark.snippet text.toList) p.message)
  | .unprintable => .store (.unparsable path)
  | .indentedBefore => .foreign "AttributeError" "'NoneType' object has no attribute 'get_snippet'"
  | .scalar family message => .foreign family message

/-- The text of a store's file; none if there is no file. -/
def readText (files : FileTree) (path : String) : Except Failure (Option String) :=
  match files.readText path with
  | .ok text => .ok (some text)
  | .error (.file .notFound) => .ok none
  | .error (.file .nulByte) => .error (.file path .nulByte)
  | .error f => .error (.store (.unreadable path (f.message path)))

/-- The mapping that a text holds. -/
def parse [Yaml.Codec] (path text : String) :
    Except Failure (List (Yaml.Shared × Yaml.Shared)) :=
  match Yaml.Codec.read text with
  | .error f => .error (faultOf path text f)
  | .ok (.plain .null) => .ok []
  | .ok (.map _ entries) | .ok (.ordered _ entries) => .ok entries
  | .ok _ => .error (.store (.noMapping path))

def readShared [Yaml.Codec] (files : FileTree) (path : String) :
    Except Failure (List (Yaml.Shared × Yaml.Shared)) := do
  match ← readText files path with
  | none => return []
  | some text => parse path text

/-- Put a value under a name, in the place of the one that is there or at the end. -/
def putShared (key : Value) (value : Yaml.Shared) :
    List (Yaml.Shared × Yaml.Shared) → List (Yaml.Shared × Yaml.Shared)
  | [] => [(.plain key, value)]
  | (k, v) :: rest =>
    if k.value.same key then (k, value) :: rest else (k, v) :: putShared key value rest

/-- The text of a file whose mapping has got this value. -/
def printWith [Yaml.Codec] (entries : List (Yaml.Shared × Yaml.Shared)) (key : String)
    (value : Value) : String :=
  let next := Yaml.Shared.entryBound entries + 1
  let (value, root) := Yaml.Shared.ofValue next value
  Yaml.Codec.print (.map root (putShared (.str key) value entries))

def checkNumbers (entries : Entries) : Except Failure Unit :=
  if Yaml.entriesAreWritable entries then .ok ()
  else .error (.foreign "ValueError" Yaml.tooManyDigits)

def writeText (files : FileTree) (path text : String) : Except Failure FileTree :=
  match files.write path (Text.Utf8.encode text) with
  | .ok files => .ok files
  | .error f => .error (.store (.unwritable path (f.message path)))

/-- What the store holds at the moment. -/
def entries [Yaml.Codec] (s : Store) (files : FileTree) : Except Failure Entries :=
  match s with
  | closed => .error .unsupported
  | memory es => .ok es
  | file p => (readShared files p.text).map Yaml.Shared.entryValues

def get [Yaml.Codec] (s : Store) (files : FileTree) (key : String) (default : Value) :
    Except Failure Value :=
  (s.entries files).map fun es => (Value.field? key es).getD default

/-- A store after a change, the files after it, and what is to be logged of it. -/
structure Changed where
  store : Store
  files : FileTree
  notices : List LogRecord

def set [Yaml.Codec] (s : Store) (files : FileTree) (key : String) (value : Value) :
    Except Failure Changed :=
  match s with
  | closed => .error .unsupported
  | memory es => .ok ⟨memory (Value.insert (.str key) value es), files, []⟩
  | file p => do
    let es ← readShared files p.text
    checkNumbers (Value.insert (.str key) value (Yaml.Shared.entryValues es))
    let files ← writeText files p.text (printWith es key value)
    let note := s!"Wrote {Text.quoted key} to {p.text}"
    return ⟨s, files, [.plain Level.debug note]⟩

/-- What the store is called. -/
def className : Store → String
  | closed => "Store"
  | memory _ => "MemoryStore"
  | file _ => "FileStore"

end Store
end Detour
