import Detour.Value

/-!
# Values with shared parts

What a document holds: a value in which parts that the document names more than once carry the
same label. `Shared.value` forgets the labels.
-/
namespace Detour.Yaml

inductive Shared where
  | plain (v : Value)
  /-- A date or a moment. -/
  | stamp (label : Nat) (v : Value)
  | list (label : Nat) (items : List Shared)
  | tuple (items : List Shared)
  | map (label : Nat) (entries : List (Shared × Shared))
  /-- A mapping whose order is part of its meaning. -/
  | ordered (label : Nat) (entries : List (Shared × Shared))
  | set (label : Nat) (items : List Shared)
  deriving Repr, Inhabited

namespace Shared

mutual
def value : Shared → Value
  | plain v => v
  | stamp _ v => v
  | list _ xs => .list (values xs)
  | tuple xs => .tuple (values xs)
  | map _ es => .map (entryValues es)
  | ordered _ es => .map (entryValues es)
  | set _ xs => .set (values xs)
def values : List Shared → List Value
  | [] => []
  | x :: xs => value x :: values xs
def entryValues : List (Shared × Shared) → List (Value × Value)
  | [] => []
  | (k, v) :: es => (value k, value v) :: entryValues es
end

mutual
/-- A value of which no two parts are shared, its labels counted from `next`; the next label. -/
def ofValue (next : Nat) : Value → Shared × Nat
  | .list xs =>
    let (xs, n) := ofValues (next + 1) xs
    (list next xs, n)
  | .tuple xs =>
    let (xs, n) := ofValues next xs
    (tuple xs, n)
  | .map es =>
    let (es, n) := ofEntries (next + 1) es
    (map next es, n)
  | .set xs =>
    let (xs, n) := ofValues (next + 1) xs
    (set next xs, n)
  | v => (plain v, next)
def ofValues (next : Nat) : List Value → List Shared × Nat
  | [] => ([], next)
  | x :: xs =>
    let (x, n) := ofValue next x
    let (xs, n) := ofValues n xs
    (x :: xs, n)
def ofEntries (next : Nat) : List (Value × Value) → List (Shared × Shared) × Nat
  | [] => ([], next)
  | (k, v) :: es =>
    let (k, n) := ofValue next k
    let (v, n) := ofValue n v
    let (es, n) := ofEntries n es
    ((k, v) :: es, n)
end

mutual
/-- A label that no part exceeds. -/
def bound : Shared → Nat
  | plain _ => 0
  | stamp l _ => l
  | list l xs => max l (itemBound xs)
  | tuple xs => itemBound xs
  | map l es => max l (entryBound es)
  | ordered l es => max l (entryBound es)
  | set l xs => max l (itemBound xs)
def itemBound : List Shared → Nat
  | [] => 0
  | x :: xs => max (bound x) (itemBound xs)
def entryBound : List (Shared × Shared) → Nat
  | [] => 0
  | (k, v) :: es => max (max (bound k) (bound v)) (entryBound es)
end

end Shared
end Detour.Yaml
