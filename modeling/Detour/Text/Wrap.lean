import Detour.Text.CharClass

/-!
# Text in lines

`wrap` breaks a text into lines of a width at spaces, behind the hyphens of compound words and at
dashes. A word that is too long for a line is cut.
-/
namespace Detour.Text

def isWrapSpace (c : Char) : Bool := c = ' ' || (9 ≤ c.toNat && c.toNat ≤ 13)

def isWordLetter (c : Char) : Bool := isWordChar c && !isDigit c

def isWordPunct (c : Char) : Bool := isWordChar c || "!\"'&.,?".toList.contains c

/-- A run of hyphens with a word behind it. -/
def startsDash (cs : List Char) : Bool :=
  let run := cs.takeWhile (· = '-')
  2 ≤ run.length && ((cs.drop run.length).head?.map isWordChar).getD false

/-- Whether a hyphen after these characters, the latest first, ends part of a compound word. -/
def endsPart (before : List Char) : Bool :=
  match before with
  | a :: b :: rest =>
    (isWordLetter a && isWordLetter b) ||
      (isWordLetter a && b = '-' && (rest.head?.map isWordLetter).getD false)
  | _ => false

/-- Whether the second part of a compound word begins here. -/
def startsPart (cs : List Char) : Bool :=
  match cs with
  | a :: '-' :: b :: _ => isWordLetter a && isWordLetter b
  | a :: b :: _ => isWordLetter a && isWordLetter b
  | _ => false

/-- The rest of a chunk that has begun; `before` is the text up to here, the latest first. -/
def wordRest (before : List Char) : List Char → List Char
  | [] => []
  | c :: cs =>
    if c = '-' && endsPart before && startsPart cs then [c]
    else if isWrapSpace c then []
    else if (before.head?.map isWordPunct).getD false && startsDash (c :: cs) then []
    else c :: wordRest (c :: before) cs

/-- The first chunk of a text: spaces, a dash, or a word or part of a word. -/
def firstChunk (before : List Char) : List Char → List Char
  | [] => []
  | c :: cs =>
    if isWrapSpace c then (c :: cs).takeWhile isWrapSpace
    else if (before.head?.map isWordPunct).getD false && startsDash (c :: cs) then
      (c :: cs).takeWhile (· = '-')
    else c :: wordRest (c :: before) cs

def chunksFrom (before : List Char) : Nat → List Char → List (List Char)
  | 0, _ => []
  | fuel + 1, cs =>
    match firstChunk before cs with
    | [] => []
    | chunk => chunk :: chunksFrom (chunk.reverse ++ before) fuel (cs.drop chunk.length)

def chunks (cs : List Char) : List (List Char) := chunksFrom [] cs.length cs

/-- The chunks that fit on a line, and the rest. -/
def fillLine (room : Nat) : List (List Char) → List (List Char) × List (List Char)
  | [] => ([], [])
  | c :: cs =>
    if c.length ≤ room then
      let (line, rest) := fillLine (room - c.length) cs
      (c :: line, rest)
    else ([], c :: cs)

/-- Where to cut a word that is too long: behind its last hyphen that fits, or where the line
ends. -/
def cutPlace (room : Nat) (word : List Char) : Nat :=
  let head := word.take room
  let tail := head.reverse.dropWhile (· != '-')
  if 1 < tail.length && (tail.drop 1).any (· != '-') then tail.length else room

def isBlankChunk (c : List Char) : Bool := c.all isBlank

def wrapFrom (width : Nat) (first : Bool) : Nat → List (List Char) → List (List Char)
  | 0, _ => []
  | _, [] => []
  | fuel + 1, c :: cs =>
    let cs := if !first && isBlankChunk c then cs else c :: cs
    let (line, rest) := fillLine width cs
    let used := line.flatten.length
    let (line, rest) := match rest with
      | word :: more =>
        if width < word.length then
          let place := cutPlace (if width < 1 then 1 else width - used) word
          (line ++ [word.take place], word.drop place :: more)
        else (line, rest)
      | [] => (line, rest)
    let line := if line.getLast?.any isBlankChunk then line.dropLast else line
    if line.isEmpty then wrapFrom width first fuel rest
    else line.flatten :: wrapFrom width false fuel rest

/-- A text in lines of a width. -/
def wrap (width : Nat) (s : String) : List String :=
  let cs := s.toList.map fun c => if isWrapSpace c then ' ' else c
  (wrapFrom width true (2 * cs.length + 2) (chunks cs)).map String.ofList

end Detour.Text
