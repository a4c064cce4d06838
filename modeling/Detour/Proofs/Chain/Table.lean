import Detour.Proofs.Chain.Flow
import Mathlib.Data.List.Nodup

/-!
# The addon table

A tree of addons is entered under the names of its members, and forgotten one by one. Forgetting
gets through if the names are distinct and known (`Action.forgetAll_of_removable`); otherwise it ends
at the first member that is not known any more, and those before it are forgotten all the same
(`Action.forgetAll_of_stuck`).
-/
namespace Detour

variable {W : Type} {a : Addon W} {tree : List (Addon W)}

namespace Addon

theorem tree_eq (a : Addon W) : a.tree = a :: Addon.forest a.children := by
  cases a
  rfl

theorem self_mem_tree (a : Addon W) : a ∈ a.tree := a.tree_eq ▸ List.mem_cons_self

end Addon

namespace AddonTable

variable {t : AddonTable W} {name : String}

theorem contains_iff : t.contains name = true ↔ name ∈ t.lookup.map (·.1) := by
  unfold contains get?
  rw [List.lookup_isSome_iff, List.mem_map]
  constructor
  · rintro ⟨e, he, hname⟩
    exact ⟨e, he, (eq_of_beq hname).symm⟩
  · rintro ⟨e, he, rfl⟩
    exact ⟨e, he, by simp⟩

theorem putName_of_new {l : List (String × Addon W)} (h : name ∉ l.map (·.1)) (a : Addon W) :
    putName name a l = l ++ [(name, a)] := by
  induction l with
  | nil => rfl
  | cons e rest ih =>
    obtain ⟨hfirst, hrest⟩ := not_or.mp (mt List.mem_cons.mpr h)
    rw [putName, if_neg (Ne.symm hfirst), ih hrest, List.cons_append]

theorem index_cons (t : AddonTable W) (a : Addon W) (rest : List (Addon W)) :
    t.index (a :: rest) = (t.index [a]).index rest := rfl

theorem get?_index_singleton (t : AddonTable W) (a : Addon W) (name : String) :
    (t.index [a]).get? name = if name = a.name then some a else t.get? name :=
  lookup_putName a.name name a t.lookup

/-- Of several members of one name it is the last that is found. -/
theorem get?_index (t : AddonTable W) (tree : List (Addon W)) (name : String) :
    (t.index tree).get? name = (tree.reverse.find? (·.name = name)).or (t.get? name) := by
  induction tree generalizing t with
  | nil => rfl
  | cons b rest ih =>
    have hput : (t.index [b]).get? name = ([b].find? (·.name = name)).or (t.get? name) := by
      rw [get?_index_singleton]
      by_cases hb : b.name = name
      · simp [hb]
      · simp [hb, Ne.symm hb]
    rw [index_cons, ih, hput, List.reverse_cons, List.find?_append, Option.or_assoc]

theorem contains_index :
    (t.index tree).contains name = true ↔ name ∈ tree.map (·.name) ∨ t.contains name = true := by
  rw [contains, get?_index]
  simp [contains]

theorem get?_index_of_distinct (h : (tree.map (·.name)).Nodup) {b : Addon W} (hb : b ∈ tree) :
    (t.index tree).get? b.name = some b := by
  have hfind : (tree.reverse.find? (·.name = b.name)).isSome :=
    List.find?_isSome.mpr ⟨b, List.mem_reverse.mpr hb, decide_eq_true rfl⟩
  obtain ⟨c, hc⟩ := Option.isSome_iff_exists.mp hfind
  have hmem : c ∈ tree := List.mem_reverse.mp (List.mem_of_find?_eq_some hc)
  have hname : c.name = b.name := by simpa using List.find?_some hc
  rw [get?_index, hc, Option.some_or, List.inj_on_of_nodup_map h hmem hb hname]

theorem index_of_new (hnew : ∀ b ∈ tree, t.contains b.name = false)
    (hdistinct : (tree.map (·.name)).Nodup) :
    t.index tree = ⟨t.lookup ++ tree.map fun b => (b.name, b), t.chain⟩ := by
  induction tree generalizing t with
  | nil => simp [index]
  | cons b rest ih =>
    obtain ⟨hfirst, hrest⟩ := List.nodup_cons.mp hdistinct
    have hlookup : b.name ∉ t.lookup.map (·.1) := by
      rw [← contains_iff, hnew b (by simp)]
      exact Bool.false_ne_true
    have hput : t.index [b] = ⟨t.lookup ++ [(b.name, b)], t.chain⟩ :=
      congrArg (fun lookup => AddonTable.mk lookup t.chain) (putName_of_new hlookup b)
    have hstill : ∀ c ∈ rest, (t.index [b]).contains c.name = false := by
      intro c hc
      have hne : c.name ≠ b.name := ne_of_mem_of_not_mem (List.mem_map_of_mem hc) hfirst
      rw [contains, get?_index_singleton, if_neg hne]
      exact hnew c (by simp [hc])
    rw [index_cons, ih hstill hrest, hput]
    simp

def withTree (t : AddonTable W) (tree : List (Addon W)) (a : Addon W) : AddonTable W :=
  { t.index tree with chain := t.chain ++ [a] }

def without (t : AddonTable W) (gone : List (Addon W)) : AddonTable W :=
  ⟨t.lookup.filter fun e => e.1 ∉ gone.map (·.name), t.chain.filter fun b => b.id ∉ gone.map (·.id)⟩

@[simp] theorem without_nil (t : AddonTable W) : t.without [] = t := by
  simp [without]

theorem without_cons (t : AddonTable W) (a : Addon W) (rest : List (Addon W)) :
    t.without (a :: rest) = (t.forget a).without rest := by
  simp only [without, forget, List.filter_filter, AddonTable.mk.injEq]
  constructor <;>
    refine List.filter_congr fun e _ => Bool.eq_iff_iff.mpr ?_ <;>
    simp [and_comm]

theorem contains_without {gone : List (Addon W)} :
    (t.without gone).contains name = true ↔
      t.contains name = true ∧ name ∉ gone.map (·.name) := by
  rw [contains_iff, contains_iff, without]
  simp only [List.mem_map, List.mem_filter, decide_eq_true_eq]
  constructor
  · rintro ⟨e, ⟨he, hgone⟩, rfl⟩
    exact ⟨⟨e, he, rfl⟩, hgone⟩
  · rintro ⟨⟨e, he, rfl⟩, hgone⟩
    exact ⟨e, ⟨he, hgone⟩, rfl⟩

theorem contains_forget_iff :
    (t.forget a).contains name = true ↔ t.contains name = true ∧ name ≠ a.name := by
  have h : t.forget a = t.without [a] := by rw [without_cons, without_nil]
  rw [h, contains_without, List.map_singleton, List.mem_singleton]

end AddonTable

namespace Action

variable {s : Settings} {g : Stage W}

/-- All names are known, and none comes twice. -/
def Removable (tree : List (Addon W)) (t : AddonTable W) : Prop :=
  (tree.map (·.name)).Nodup ∧ ∀ b ∈ tree, t.contains b.name = true

theorem removable_cons {t : AddonTable W} {rest : List (Addon W)} :
    Removable (a :: rest) t ↔ t.contains a.name = true ∧ Removable rest (t.forget a) := by
  simp only [Removable, List.map_cons, List.nodup_cons, List.forall_mem_cons,
    AddonTable.contains_forget_iff, List.mem_map, not_exists, not_and]
  constructor
  · rintro ⟨⟨hother, hrest⟩, ha, hknown⟩
    exact ⟨ha, hrest, fun b hb => ⟨hknown b hb, hother b hb⟩⟩
  · rintro ⟨ha, hrest, hknown⟩
    exact ⟨⟨fun b hb => (hknown b hb).2, hrest⟩, ha, fun b hb => (hknown b hb).1⟩

/-- A tree whose names are distinct and known is forgotten. -/
theorem forgetAll_of_removable (h : Removable tree g.addons) :
    forgetAll tree (s, g) = .ok () (s, { g with addons := g.addons.without tree }) := by
  induction tree generalizing g with
  | nil => simp [forgetAll, pure, EStateM.pure]
  | cons a rest ih =>
    obtain ⟨ha, hrest⟩ := removable_cons.mp h
    rw [forgetAll_cons_of_known ha, ih (g := { g with addons := g.addons.forget a }) hrest,
      AddonTable.without_cons]

/-- Otherwise those before a member that is not known any more are forgotten, and no others. -/
theorem forgetAll_of_stuck (h : ¬ Removable tree g.addons) :
    ∃ gone b later, tree = gone ++ b :: later ∧ Removable gone g.addons ∧
      (g.addons.without gone).contains b.name = false ∧
      forgetAll tree (s, g) =
        .error (.addon (.unknown b.name)) (s, { g with addons := g.addons.without gone }) := by
  induction tree generalizing g with
  | nil => exact absurd ⟨List.nodup_nil, by simp⟩ h
  | cons a rest ih =>
    cases ha : g.addons.contains a.name with
    | false =>
      refine ⟨[], a, rest, rfl, ⟨List.nodup_nil, by simp⟩, by simpa using ha, ?_⟩
      rw [forgetAll_cons_of_unknown ha, AddonTable.without_nil]
    | true =>
      have hrest : ¬ Removable rest (g.addons.forget a) := fun hrest =>
        h (removable_cons.mpr ⟨ha, hrest⟩)
      obtain ⟨gone, b, later, hsplit, hgone, hb, hforget⟩ :=
        ih (g := { g with addons := g.addons.forget a }) hrest
      refine ⟨a :: gone, b, later, by rw [hsplit, List.cons_append],
        removable_cons.mpr ⟨ha, hgone⟩, by rwa [AddonTable.without_cons], ?_⟩
      rw [forgetAll_cons_of_known ha, hforget, AddonTable.without_cons]

end Action
end Detour
