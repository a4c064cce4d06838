import Detour.Text.Case
import Detour.Text.Quoted
import Detour.Text.Words

/-!
# The scheme and the authority of a URL

`Url.split?` cuts a URL after its scheme and its authority, the part between `//` and the next
`/`, `?` or `#`. An authority with square brackets must hold a bracketed address and nothing
beside it but credentials and a port; one whose characters are compatible with a delimiter is
refused.
-/
namespace Detour.Url
open Text

inductive Fault where
  | brackets
  | futureAddress
  | dottedInBrackets
  | noAddress (host : String)
  | disguised (authority : String)
  deriving DecidableEq, Repr

def Fault.message : Fault → String
  | brackets => "Invalid IPv6 URL"
  | futureAddress => "IPvFuture address is invalid"
  | dottedInBrackets => "An IPv4 address cannot be in brackets"
  | noAddress host => quoted host ++ " does not appear to be an IPv4 or IPv6 address"
  | disguised authority =>
    "netloc '" ++ authority ++ "' contains invalid characters under NFKC normalization"

/-- A number up to 255 without a leading zero. -/
def isOctet (cs : List Char) : Bool :=
  !cs.isEmpty && cs.all isAsciiDigit && cs.length ≤ 3 && (cs = ['0'] || cs.head? != some '0') &&
    cs.foldl (fun n c => 10 * n + (c.toNat - 48)) 0 ≤ 255

/-- Four octets with points between them. -/
def isDotted (cs : List Char) : Bool :=
  let parts := pieces (· = '.') cs
  parts.length = 4 && parts.all isOctet

def isHextet (cs : List Char) : Bool := !cs.isEmpty && cs.length ≤ 4 && cs.all isHexDigit

/-- Parts of an address; a dotted one at the end counts as two. -/
def withoutDotted (parts : List (List Char)) : Option (List (List Char)) :=
  match parts.getLast? with
  | some last =>
    if last.contains '.' then
      if isDotted last then some (parts.dropLast ++ [['0'], ['0']]) else none
    else some parts
  | none => none

/-- The groups on one side of the two colons that meet; there may be none. -/
def groups (parts : List (List Char)) : List (List Char) := if parts = [[]] then [] else parts

/-- Eight groups, or fewer with two colons that meet once in place of the others. -/
def isFull (parts : List (List Char)) : Bool :=
  let gaps := (List.range parts.length).filter fun i =>
    0 < i && i + 1 < parts.length && parts[i]? = some []
  match gaps with
  | [] => parts.length = 8 && parts.all isHextet
  | [i] =>
    let rest := groups (parts.take i) ++ groups (parts.drop (i + 1))
    rest.length ≤ 7 && rest.all isHextet
  | _ => false

/-- An address of eight groups; behind a percent sign it may name a zone. -/
def isColoned (cs : List Char) : Bool :=
  let zoneFits := match pieces (· = '%') cs with
    | [_] => true
    | [_, zone] => !zone.isEmpty
    | _ => false
  let parts := pieces (· = ':') (cs.takeWhile (· != '%'))
  zoneFits && 3 ≤ parts.length && match withoutDotted parts with
    | some parts => parts.length ≤ 9 && isFull parts
    | none => false

/-- `v`, a hexadecimal number, a point and at least one character. -/
def isFuture (cs : List Char) : Bool :=
  match cs with
  | 'v' :: rest =>
    let version := rest.takeWhile isHexDigit
    !version.isEmpty && (match rest.dropWhile isHexDigit with
      | '.' :: _ :: _ => true
      | _ => false)
  | _ => false

def checkBracketed (host : List Char) : Except Fault Unit :=
  if host.head? = some 'v' then if isFuture host then .ok () else .error .futureAddress
  else if isDotted host then .error .dottedInBrackets
  else if isColoned host then .ok ()
  else .error (.noAddress (String.ofList host))

/-- What follows the last at sign. -/
def withoutCredentials (authority : List Char) : List Char :=
  (authority.reverse.takeWhile (· != '@')).reverse

/-- The bracketed host takes up the whole place for the host. -/
def checkBrackets (authority : List Char) : Except Fault Unit :=
  if authority.contains '[' != authority.contains ']' then .error .brackets
  else if authority.contains '[' then
    match withoutCredentials authority with
    | '[' :: inner =>
      let host := inner.takeWhile (· != ']')
      match inner.drop (host.length + 1) with
      | [] | ':' :: _ => checkBracketed host
      | _ => .error .brackets
    | hostAndPort =>
      if hostAndPort.contains '[' then .error .brackets
      else checkBracketed (hostAndPort.takeWhile (· != ':'))
  else .ok ()

/-- The characters compatible with a text that holds a slash, a question mark, a number sign, an
at sign or a colon. -/
def lookAlikes : List Nat :=
  [0x2047, 0x2048, 0x2049, 0x2100, 0x2101, 0x2105, 0x2106, 0x2A74, 0xFE13, 0xFE16, 0xFE55, 0xFE56,
   0xFE5F, 0xFE6B, 0xFF03, 0xFF0F, 0xFF1A, 0xFF1F, 0xFF20]

def checkDisguise (authority : List Char) : Except Fault Unit :=
  if authority.any fun c => lookAlikes.contains c.toNat then
    .error (.disguised (String.ofList authority))
  else .ok ()

/-- The URL without the control characters and blanks before it and the line breaks and tabs
within it. -/
def cleaned (cs : List Char) : List Char :=
  (cs.dropWhile fun c => c.toNat ≤ 32).filter fun c => c != '\t' && c != '\r' && c != '\n'

def isSchemeChar (c : Char) : Bool :=
  isAsciiLetter c || isAsciiDigit c || c = '+' || c = '-' || c = '.'

/-- The scheme in lower case and what follows its colon; the scheme may be missing. -/
def scheme (cs : List Char) : String × List Char :=
  let name := cs.takeWhile isSchemeChar
  match cs.head?, cs.drop name.length with
  | some first, ':' :: rest =>
    if isAsciiLetter first then (String.ofList (name.map asciiLower), rest) else ("", cs)
  | _, _ => ("", cs)

def endsAuthority (c : Char) : Bool := c = '/' || c = '?' || c = '#'

/-- The scheme and the authority, each empty if the URL has none. -/
def split (url : String) : Except Fault (String × String) :=
  match scheme (cleaned url.toList) with
  | (name, '/' :: '/' :: rest) => do
    let authority := rest.takeWhile (!endsAuthority ·)
    checkBrackets authority
    checkDisguise authority
    return (name, String.ofList authority)
  | (name, _) => .ok (name, "")

end Detour.Url
