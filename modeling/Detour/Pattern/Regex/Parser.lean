import Detour.Pattern.Regex.Fault
import Detour.Pattern.Regex.Syntax
import Detour.Text.CharName

/-!
# Reading regular expressions

A pattern is read token by token; a token is a character, or a backslash with the character
behind it. `Regex.parse` gives the expression of a pattern or its first fault. Flags set for the
whole pattern can stand only at its start, so that the flags in force are known at every token.
-/
namespace Detour.Regex
open Text

structure Flags where
  ignoreCase : Bool := false
  multiline : Bool := false
  dotAll : Bool := false
  verbose : Bool := false
  ascii : Bool := false
  unicode : Bool := false
  template : Bool := false
  deriving DecidableEq, Repr

namespace Flags

def letters (f : Flags) : Letters :=
  if f.ignoreCase then if f.ascii then .asciiFold else .fold else .exact

/-- Both sets of flags together. -/
def union (f g : Flags) : Flags :=
  { ignoreCase := f.ignoreCase || g.ignoreCase, multiline := f.multiline || g.multiline
    dotAll := f.dotAll || g.dotAll, verbose := f.verbose || g.verbose
    ascii := f.ascii || g.ascii, unicode := f.unicode || g.unicode
    template := f.template || g.template }

/-- The flags of a group that turns some on and some off; a kind of alphabet replaces another. -/
def within (f on off : Flags) : Flags :=
  let base := if on.ascii || on.unicode then { f with ascii := false, unicode := false } else f
  let g := base.union on
  { g with ignoreCase := g.ignoreCase && !off.ignoreCase, multiline := g.multiline && !off.multiline
           dotAll := g.dotAll && !off.dotAll, verbose := g.verbose && !off.verbose }

def overlap (f g : Flags) : Bool :=
  (f.ignoreCase && g.ignoreCase) || (f.multiline && g.multiline) || (f.dotAll && g.dotAll) ||
    (f.verbose && g.verbose)

/-- The flag a letter stands for; `L` stands for none that a text pattern can have. -/
def ofLetter? : Char → Option Flags
  | 'i' => some { ignoreCase := true }
  | 'm' => some { multiline := true }
  | 's' => some { dotAll := true }
  | 'x' => some { verbose := true }
  | 'a' => some { ascii := true }
  | 'u' => some { unicode := true }
  | 't' => some { template := true }
  | 'L' => some {}
  | _ => none

end Flags

/-- What is left of the pattern, and what is known of its groups. -/
structure Cursor where
  rest : List Char
  /-- The widths of the groups opened so far; an open one has none. -/
  widths : List (Option (Nat × Nat)) := []
  names : List (List Char × Nat) := []
  /-- The number of groups opened before the outermost look-behind. -/
  lookBehind : Option Nat := none
  /-- Groups that conditions ask about, and where. -/
  asked : List (Nat × Nat) := []
  flags : Flags
  deriving Repr

abbrev Parse := StateT Cursor (Except Fault)

/-- A fault `offset` characters before the next token. -/
def failBefore {α : Type} (p : Problem) (offset : Nat) : Parse α := do
  throw ⟨p, some ((← get).rest.length + offset)⟩

def failHere {α : Type} (p : Problem) : Parse α := failBefore p 0

/-- A fault with `left` characters of the pattern behind its place. -/
def failAt {α : Type} (p : Problem) (left : Nat) : Parse α := throw ⟨p, some left⟩

def tokenOf : List Char → List Char
  | '\\' :: c :: _ => ['\\', c]
  | c :: _ => [c]
  | [] => []

/-- The next token; nothing at the end. -/
def peek : Parse (List Char) := do return tokenOf (← get).rest

/-- A text can only be read up to a backslash with nothing behind it. -/
def moveTo (rest : List Char) : Parse Unit := do
  if rest = ['\\'] then failAt .trailingBackslash 1
  modify fun c => { c with rest }

def take : Parse (List Char) := do
  let token ← peek
  moveTo ((← get).rest.drop token.length)
  return token

def accept (c : Char) : Parse Bool := do
  if (← peek) = [c] then
    discard take
    return true
  return false

def left : Parse Nat := do return (← get).rest.length

def takeWhile (p : Char → Bool) : Nat → Parse (List Char)
  | 0 => return []
  | n + 1 => do
    match ← peek with
    | [c] =>
      if p c then
        discard take
        return c :: (← takeWhile p n)
      return []
    | _ => return []

/-- The tokens up to a closing one. -/
def takeUntil (closing : Char) (what : String) (read : List Char) : Nat → Parse (List Char)
  | 0 => failHere (.missingName what)
  | fuel + 1 => do
    let token ← take
    if token = [] then
      if read = [] then failHere (.missingName what)
      failBefore (.unterminatedName closing) read.length
    if token = [closing] then
      if read = [] then failBefore (.missingName what) 1
      return read
    takeUntil closing what (read ++ token) fuel

def nameUntil (closing : Char) (what : String) : Parse (List Char) := do
  takeUntil closing what [] ((← left) + 1)

/-- The code point written by hexadecimal digits, as many as `count`. -/
def hexEscape (token : List Char) (count : Nat) : Parse Nat := do
  let digits ← takeWhile isHexDigit count
  let text := token ++ digits
  if digits.length < count then
    failBefore (.incompleteEscape (String.ofList text)) text.length
  let n := hexNumber digits
  if 0x110000 ≤ n then failBefore (.badEscape (String.ofList text)) text.length
  return n

def namedEscape : Parse Nat := do
  unless ← accept '{' do failHere .missingBrace
  let name ← nameUntil '}' "character name"
  match charNamed? name with
  | some c => return c.toNat
  | none => failBefore (.undefinedCharacter (String.ofList name)) (name.length + 4)

def octalNumber (digits : List Char) : Nat :=
  digits.foldl (fun n c => 8 * n + (c.toNat - 48)) 0

/-- The control characters that a letter stands for. -/
def controlEscape? : Char → Option Nat
  | 'a' => some 7
  | 'b' => some 8
  | 'f' => some 12
  | 'n' => some 10
  | 'r' => some 13
  | 't' => some 9
  | 'v' => some 11
  | '\\' => some 92
  | _ => none

def kindEscape? (ascii : Bool) : Char → Option Item
  | 'd' => some (.kind .digit ascii false)
  | 'D' => some (.kind .digit ascii true)
  | 's' => some (.kind .blank ascii false)
  | 'S' => some (.kind .blank ascii true)
  | 'w' => some (.kind .word ascii false)
  | 'W' => some (.kind .word ascii true)
  | _ => none

def placeEscape? (ascii : Bool) : Char → Option Place
  | 'A' => some .start
  | 'Z' => some .finish
  | 'b' => some (.boundary ascii false)
  | 'B' => some (.boundary ascii true)
  | _ => none

/-- Escapes that mean the same inside a set and outside. -/
def commonEscape? (token : List Char) : Char → Option (Parse Nat)
  | 'x' => some (hexEscape token 2)
  | 'u' => some (hexEscape token 4)
  | 'U' => some (hexEscape token 8)
  | 'N' => some namedEscape
  | _ => none

/-- A member of a set, or a code point that may open a range. -/
inductive Member where
  | point (n : Nat)
  | item (i : Item)

def badEscape {α : Type} (token : List Char) : Parse α :=
  failBefore (.badEscape (String.ofList token)) token.length

def octalTooLarge {α : Type} (text : List Char) : Parse α :=
  failBefore (.octalRange (String.ofList text)) text.length

def setEscape (flags : Flags) (c : Char) : Parse Member := do
  let token := ['\\', c]
  if let some n := controlEscape? c then return .point n
  if let some i := kindEscape? flags.ascii c then return .item i
  if let some read := commonEscape? token c then return .point (← read)
  if isOctalDigit c then
    let digits := c :: (← takeWhile isOctalDigit 2)
    let n := octalNumber digits
    if 255 < n then octalTooLarge ('\\' :: digits)
    return .point n
  if isAsciiDigit c || isAsciiLetter c then badEscape token
  return .point c.toNat

/-- A test for one code point; a surrogate is no character. -/
def literal (flags : Flags) (n : Nat) : CharTest :=
  if 0xD800 ≤ n && n ≤ 0xDFFF then .set flags.letters false [.range n n]
  else .char flags.letters false (Char.ofNat n)

/-- A part of a sequence: what it is and whether it can be repeated. -/
inductive Part where
  | plain (e : Expr)
  | place (p : Place)
  | repeated (e : Expr)

def Part.expr : Part → Expr
  | plain e => e
  | place p => .place p
  | repeated e => e

def checkGroup (c : Cursor) (n : Nat) : Bool := ((c.widths[n - 1]?).getD none).isSome

/-- Within a look-behind only groups closed before it can be referred to. -/
def checkLookBehind (n : Nat) : Parse Unit := do
  let c ← get
  if let some known := c.lookBehind then
    unless checkGroup c n do failHere .openGroup
    if known < n then failHere .sameLookBehind

def backReference (flags : Flags) (n : Nat) : Parse Part := do
  checkLookBehind n
  let width := (((← get).widths[n - 1]?).getD none).getD (0, 0)
  return .plain (.again flags.letters n width)

/-- Up to three octal digits are a code point, other digits the number of a group. -/
def numberEscape (flags : Flags) (c : Char) : Parse Part := do
  let second ← takeWhile isAsciiDigit 1
  let digits := c :: second
  if digits.all isOctalDigit && digits.length = 2 then
    let third ← takeWhile isOctalDigit 1
    if third.length = 1 then
      let text := digits ++ third
      if 255 < octalNumber text then octalTooLarge ('\\' :: text)
      return .plain (.one (literal flags (octalNumber text)))
  let n := Whole.ofDigits 10 (digits.map fun d => d.toNat - 48)
  let cursor ← get
  if n ≤ cursor.widths.length then
    unless checkGroup cursor n do failBefore .openGroup (digits.length + 1)
    return ← backReference flags n
  failBefore (.noSuchGroup n) digits.length

def escape (flags : Flags) (c : Char) : Parse Part := do
  let token := ['\\', c]
  if let some p := placeEscape? flags.ascii c then return .place p
  if let some i := kindEscape? flags.ascii c then return .plain (.one (.set flags.letters false [i]))
  if let some n := controlEscape? c then return .plain (.one (literal flags n))
  if let some read := commonEscape? token c then return .plain (.one (literal flags (← read)))
  if c = '0' then
    let digits := c :: (← takeWhile isOctalDigit 2)
    return .plain (.one (literal flags (octalNumber digits)))
  if isAsciiDigit c then return ← numberEscape flags c
  if isAsciiLetter c then badEscape token
  return .plain (.one (literal flags c.toNat))

def setMember (flags : Flags) (token : List Char) : Parse Member :=
  match token with
  | ['\\', c] => setEscape flags c
  | [c] => return .point c.toNat
  | _ => return .point 0

def Member.toItem : Member → Item
  | point n => if 0xD800 ≤ n && n ≤ 0xDFFF then .range n n else .char (Char.ofNat n)
  | item i => i

/-- The members of a set up to its bracket; `opened` counts from the opening bracket. -/
def setItems (flags : Flags) (opened : Nat) (items : List Item) : Nat → Parse (List Item)
  | 0 => failAt .unterminatedSet opened
  | fuel + 1 => do
    let token ← take
    if token = [] then failAt .unterminatedSet opened
    if token = [']'] && !items.isEmpty then return items
    let low ← setMember flags token
    if ← accept '-' then
      let other ← take
      if other = [] then failAt .unterminatedSet opened
      if other = [']'] then return items ++ [low.toItem, .char '-']
      let high ← setMember flags other
      let bad : Problem := .badRange (String.ofList token) (String.ofList other)
      match low, high with
      | .point l, .point h =>
        if h < l then failBefore bad (token.length + 1 + other.length)
        setItems flags opened (items ++ [.range l h]) fuel
      | _, _ => failBefore bad (token.length + 1 + other.length)
    else setItems flags opened (items ++ [low.toItem]) fuel

/-- A set with one character is a test for that character. -/
def setTest (flags : Flags) (negated : Bool) (items : List Item) : CharTest :=
  match items.eraseDups with
  | [.char c] => .char flags.letters negated c
  | items => .set flags.letters negated items

def bracket (flags : Flags) : Parse Part := do
  let opened := (← left) + 1
  let negated ← accept '^'
  let items ← setItems flags opened [] (opened + 1)
  return .plain (.one (setTest flags negated items))

/-- More rounds than any repetition has. -/
def repeatLimit : Nat := 4294967295

def roundCount (digits : List Char) : Parse Nat := do
  if digitLimit < digits.length then throw ⟨.numeralTooLong digits.length, none⟩
  let n := Whole.ofDigits 10 (digits.map fun d => d.toNat - 48)
  if repeatLimit ≤ n then throw ⟨.repetitionTooLarge, none⟩
  return n

/-- The bounds in braces; nothing if the brace stands for itself. -/
def braces : Parse (Option (Nat × Option Nat)) := do
  let here := (← get).rest
  if (← peek) = ['}'] then return none
  let low ← takeWhile isAsciiDigit here.length
  let comma ← accept ','
  let high ← if comma then takeWhile isAsciiDigit here.length else pure low
  unless ← accept '}' do
    moveTo here
    return none
  let least ← if low.isEmpty then pure 0 else roundCount low
  if high.isEmpty then return some (least, none)
  let most ← roundCount high
  if most < least then failAt .repeatOrder here.length
  return some (least, some most)

/-- The bounds a repetition sign stands for; nothing if a brace stands for itself. -/
def bounds? : Char → Parse (Option (Nat × Option Nat))
  | '?' => return some (0, some 1)
  | '*' => return some (0, none)
  | '+' => return some (1, none)
  | _ => braces

/-- Repeat the latest part. -/
def repeatLatest (sign : Nat) (low : Nat) (high : Option Nat) : List Part → Parse (List Part)
  | [] => failAt .nothingToRepeat sign
  | .place _ :: _ => failAt .nothingToRepeat sign
  | .repeated _ :: _ => failAt .multipleRepeat sign
  | .plain e :: parts => do
    let greed ← do
      if ← accept '?' then pure Greed.lazy
      else if ← accept '+' then pure Greed.possessive
      else pure Greed.greedy
    return .repeated (.repeated greed low high e) :: parts

/-- A letter that should be a flag. -/
def flagOf (missing : Problem) (token : List Char) : Parse Flags := do
  match token with
  | [] => failHere missing
  | [c] =>
    match Flags.ofLetter? c with
    | some f => return f
    | none => failBefore (if isLetter c then .unknownFlag else missing) 1
  | _ => failBefore missing token.length

/-- Flags to turn on: they end at a bracket, a colon or a minus sign, which is returned. -/
def flagsOn (on : Flags) (c : Char) : Nat → Parse (Flags × Char)
  | 0 => failHere .missingFlagEnd
  | fuel + 1 => do
    if c = 'L' then failHere .localeFlag
    let flag ← flagOf .missingFlagEnd [c]
    let on := on.union flag
    if (flag.ascii && on.unicode) || (flag.unicode && on.ascii) then failHere .conflictingFlags
    match ← take with
    | [')'] => return (on, ')')
    | ['-'] => return (on, '-')
    | [':'] => return (on, ':')
    | token =>
      discard (flagOf .missingFlagEnd token)
      flagsOn on (token.headD ')') fuel

/-- Flags to turn off, up to the colon. -/
def flagsOff (off : Flags) (token : List Char) (missing : Problem) : Nat → Parse Flags
  | 0 => failHere .missingColon
  | fuel + 1 => do
    let flag ← flagOf missing token
    if flag.ascii || flag.unicode || token = ['L'] then failHere .typeFlagOff
    let off := off.union flag
    match ← take with
    | [':'] => return off
    | token => flagsOff off token .missingColon fuel

/-- What a group with flags is: flags for the whole pattern, or for what it holds. -/
inductive FlagGroup where
  | whole (flags : Flags)
  | scoped (on off : Flags)

def flagGroup (c : Char) : Parse FlagGroup := do
  let fuel := (← left) + 2
  let (on, mark) ← if c = '-' then pure ({}, '-') else flagsOn {} c fuel
  if mark = ')' then return .whole on
  if on.template then failBefore .globalFlagOn 1
  let off ← if mark = '-' then flagsOff {} (← take) .missingFlag fuel else pure {}
  if off.template then failBefore .globalFlagOff 1
  if on.overlap off then failBefore .flagOnAndOff 1
  return .scoped on off

def openGroup (name : Option (List Char)) : Parse Nat := do
  let c ← get
  let n := c.widths.length + 1
  let c := { c with widths := c.widths ++ [none] }
  match name with
  | none => set c
  | some name =>
    if let some (_, earlier) := c.names.find? (·.1 = name) then
      failBefore (.redefinition (String.ofList name) n earlier) (name.length + 1)
    set { c with names := c.names ++ [(name, n)] }
  return n

def closeGroup (n : Nat) (e : Expr) : Parse Unit :=
  modify fun c => { c with widths := c.widths.set (n - 1) (some e.width) }

def checkName (name : List Char) : Parse Unit := do
  unless isIdentifier name do failBefore (.badName (String.ofList name)) (name.length + 1)

def groupNamed (name : List Char) : Parse Nat := do
  match (← get).names.find? (·.1 = name) with
  | some (_, n) => return n
  | none => failBefore (.unknownName (String.ofList name)) (name.length + 1)

/-- More groups than a pattern can have. -/
def groupLimit : Nat := 1073741823

/-- The group that a condition asks about. -/
def conditionGroup : Parse Nat := do
  let name ← nameUntil ')' "group name"
  let n ←
    if isIdentifier name then groupNamed name
    else
      match Whole.readInt (String.ofList name) with
      | .ok (.ofNat n) =>
        if n = 0 then failBefore .groupZero (name.length + 1)
        if groupLimit ≤ n then failBefore (.noSuchGroup n) (name.length + 1)
        modify fun c =>
          if c.asked.any (·.1 = n) then c
          else { c with asked := c.asked ++ [(n, c.rest.length + name.length + 1)] }
        pure n
      | _ => failBefore (.badName (String.ofList name)) (name.length + 1)
  checkLookBehind n
  return n

def skipComment (opened : Nat) : Nat → Parse Unit
  | 0 => failAt .unterminatedComment opened
  | fuel + 1 => do
    if (← peek) = [] then failAt .unterminatedComment opened
    if (← take) = [')'] then return
    skipComment opened fuel

/-- A comment of the verbose form runs to the end of its line. -/
def skipLine : Nat → Parse Unit
  | 0 => return
  | fuel + 1 => do
    let token ← take
    if token = [] || token = ['\n'] then return
    skipLine fuel

/-- What an opening bracket and the signs behind it announce. -/
inductive Opening where
  | comment
  | flags (f : Flags)
  | reference (n : Nat)
  | look (behind negated : Bool)
  | condition (n : Nat)
  | atomic
  | capture (name : Option (List Char))
  | scoped (on off : Flags)

def unknownExtension {α : Type} (before token : List Char) : Parse α :=
  failBefore (.unknownExtension (String.ofList (before ++ token))) (token.length + before.length)

def openingP : Parse Opening := do
  if ← accept '<' then
    let name ← nameUntil '>' "group name"
    checkName name
    return .capture (some name)
  if ← accept '=' then
    let name ← nameUntil ')' "group name"
    checkName name
    let n ← groupNamed name
    unless checkGroup (← get) n do failBefore .openGroup (name.length + 1)
    return .reference n
  let token ← take
  if token = [] then failHere .unexpectedEnd
  unknownExtension ['?', 'P'] token

def opening (opened : Nat) : Parse Opening := do
  unless ← accept '?' do return .capture none
  let token ← take
  match token with
  | [] => failHere .unexpectedEnd
  | ['P'] => openingP
  | [':'] => return .scoped {} {}
  | ['#'] =>
    skipComment opened ((← left) + 1)
    return .comment
  | ['='] => return .look false false
  | ['!'] => return .look false true
  | ['<'] =>
    match ← take with
    | [] => failHere .unexpectedEnd
    | ['='] => return .look true false
    | ['!'] => return .look true true
    | other => unknownExtension ['?', '<'] other
  | ['('] => return .condition (← conditionGroup)
  | ['>'] => return .atomic
  | [c] =>
    if c = '-' || (Flags.ofLetter? c).isSome then
      match ← flagGroup c with
      | .whole f => return .flags f
      | .scoped on off => return .scoped on off
    else unknownExtension ['?'] token
  | _ => unknownExtension ['?'] token

def closing (opened : Nat) : Parse Unit := do
  unless ← accept ')' do failAt .unterminatedGroup opened

def joined (parts : List Part) : Expr :=
  parts.foldl (fun e p => .seq p.expr e) .empty

mutual
/-- Alternatives; at the top the flags may be set on the way. -/
def alternatives (top : Bool) (flags : Flags) (first : Bool) : Nat → Parse Expr
  | 0 => return .empty
  | fuel + 1 => do
    let e ← sequence top flags first [] fuel
    if ← accept '|' then
      let whole := (← get).flags
      return .alt e (← alternatives top (if top then whole else flags) false fuel)
    return e

/-- The parts up to the end, a bar or a closing bracket, the latest part first. -/
def sequence (top : Bool) (flags : Flags) (first : Bool) (parts : List Part) : Nat → Parse Expr
  | 0 => return joined parts
  | fuel + 1 => do
    match ← peek with
    | [] => return joined parts
    | [c] =>
      if c = '|' || c = ')' then return joined parts
      discard take
      if flags.verbose && isAsciiBlank c then sequence top flags first parts fuel
      else if flags.verbose && c = '#' then
        skipLine ((← left) + 1)
        sequence top flags first parts fuel
      else if c = '[' then sequence top flags first ((← bracket flags) :: parts) fuel
      else if c = '*' || c = '+' || c = '?' || c = '\x7b' then
        let sign := (← left) + 1
        match ← bounds? c with
        | none => sequence top flags first (.plain (.one (literal flags c.toNat)) :: parts) fuel
        | some (low, high) =>
          sequence top flags first (← repeatLatest sign low high parts) fuel
      else if c = '.' then
        sequence top flags first (.plain (.one (.any flags.dotAll)) :: parts) fuel
      else if c = '^' then
        let p : Place := if flags.multiline then .lineStart else .start
        sequence top flags first (.place p :: parts) fuel
      else if c = '$' then
        let p : Place := if flags.multiline then .lineFinish else .lastLineFinish
        sequence top flags first (.place p :: parts) fuel
      else if c = '(' then
        let opened := (← left) + 1
        match ← opening opened with
        | .comment => sequence top flags first parts fuel
        | .flags f =>
          unless top && first && parts.isEmpty do failAt .lateFlags opened
          modify fun c => { c with flags := c.flags.union f }
          sequence top (← get).flags first parts fuel
        | .reference n => sequence top flags first ((← backReference flags n) :: parts) fuel
        | .look behind negated =>
          let outer := (← get).lookBehind
          if behind && outer.isNone then
            modify fun c => { c with lookBehind := some c.widths.length }
          let e ← alternatives false flags false fuel
          if behind && outer.isNone then modify fun c => { c with lookBehind := none }
          closing opened
          let e := if behind then .behind negated e else .ahead negated e
          sequence top flags first (.plain e :: parts) fuel
        | .condition n =>
          let yes ← sequence false flags false [] fuel
          let no ←
            if ← accept '|' then do
              let no ← sequence false flags false [] fuel
              if (← peek) = ['|'] then failHere .tooManyBranches
              pure no
            else pure .empty
          closing opened
          sequence top flags first (.plain (.ifGroup n yes no) :: parts) fuel
        | .atomic =>
          let e ← alternatives false flags false fuel
          closing opened
          sequence top flags first (.plain (.atomic e) :: parts) fuel
        | .capture name =>
          let n ← openGroup name
          let e ← alternatives false flags false fuel
          closing opened
          closeGroup n e
          sequence top flags first (.plain (.group n e) :: parts) fuel
        | .scoped on off =>
          let e ← alternatives false (flags.within on off) false fuel
          closing opened
          sequence top flags first (.plain e :: parts) fuel
      else sequence top flags first (.plain (.one (literal flags c.toNat)) :: parts) fuel
    | ['\\', c] =>
      discard take
      sequence top flags first ((← escape flags c) :: parts) fuel
    | _ => return joined parts
end

/-- Look-behinds take up a fixed number of characters; a template repeats nothing. -/
def Expr.fault? (template : Bool) : Expr → Option Problem
  | .empty | .one _ | .again .. | .place _ => none
  | .seq a b | .alt a b | .ifGroup _ a b => (a.fault? template).or (b.fault? template)
  | .repeated g _ _ e =>
    if template then
      some (.templateRepeat (match g with
        | .greedy => "MAX_REPEAT" | .lazy => "MIN_REPEAT" | .possessive => "POSSESSIVE_REPEAT"))
    else e.fault? template
  | .group _ e | .atomic e | .ahead _ e => e.fault? template
  | .behind _ e =>
    let (low, high) := e.width
    if 4294967295 < low then some .longLookBehind
    else if low != high then some .variableLookBehind
    else e.fault? template

def wholePattern : Parse Expr := do
  moveTo (← get).rest
  let e ← alternatives true (← get).flags true (2 * (← left) + 4)
  let c ← get
  if c.flags.ascii && c.flags.unicode then throw ⟨.asciiAndUnicode, none⟩
  unless c.rest.isEmpty do failHere .unbalanced
  match c.asked.find? fun (n, _) => c.widths.length < n with
  | some (n, place) => failAt (.noSuchGroup n) place
  | none => pure ()
  match e.fault? c.flags.template with
  | some p => throw ⟨p, none⟩
  | none => return e

/-- The expression of a pattern under the flags given from outside. -/
def parse (flags : Flags) (pattern : List Char) : Except Fault Expr :=
  (wholePattern.run { rest := pattern, flags }).map (·.1)

end Detour.Regex
