import Detour.Navigation

/-!
# The loop guard

A redirect recorded on a tab suppresses further redirects there until the cooldown has passed or
the tab is closed. Times are in milliseconds. An entry is dropped when it is asked for after its
cooldown (`isSuppressed`) or by a sweep; an entry whose age equals the cooldown has expired.
-/
namespace Detour

structure GuardEntry where
  tab : Id
  url : String
  recordedAt : Rat
  deriving DecidableEq, Repr

/-- Each entry stands under the form of its tab's id that was first used for it. -/
structure Guard where
  cooldown : Int
  entries : List (Id × GuardEntry)
  deriving DecidableEq, Repr

namespace Guard

def standardCooldown : Int := 3000

def fresh : Guard := ⟨standardCooldown, []⟩

def entryOf? (g : Guard) (tab : Id) : Option GuardEntry :=
  (g.entries.find? (·.1.same tab)).map (·.2)

def size (g : Guard) : Nat := g.entries.length

def contains (g : Guard) (tab : Id) : Bool := (g.entryOf? tab).isSome

def clear (g : Guard) (tab : Id) : Guard :=
  { g with entries := g.entries.filter fun e => !e.1.same tab }

def hasExpired (g : Guard) (now : Rat) (e : GuardEntry) : Bool :=
  (g.cooldown : Rat) ≤ now - e.recordedAt

/-- Whether a redirect was recorded on the tab less than a cooldown ago, and the guard without an
expired entry of that tab. -/
def isSuppressed (g : Guard) (now : Rat) (tab : Id) : Bool × Guard :=
  match g.entryOf? tab with
  | none => (false, g)
  | some e => if g.hasExpired now e then (false, g.clear tab) else (true, g)

def putEntry (tab : Id) (e : GuardEntry) : List (Id × GuardEntry) → List (Id × GuardEntry)
  | [] => [(tab, e)]
  | (k, old) :: rest => if k.same tab then (k, e) :: rest else (k, old) :: putEntry tab e rest

/-- Record a redirect; a later one on the same tab replaces it. -/
def record (g : Guard) (now : Rat) (tab : Id) (url : String) : Guard :=
  { g with entries := putEntry tab ⟨tab, url, now⟩ g.entries }

/-- Drop every expired entry and count them. -/
def sweep (g : Guard) (now : Rat) : Nat × Guard :=
  let (expired, kept) := g.entries.partition fun e => g.hasExpired now e.2
  (expired.length, { g with entries := kept })

def reset (g : Guard) : Guard := { g with entries := [] }

end Guard
end Detour
