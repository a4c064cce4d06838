import Detour.Proofs.Chain.Addition
import Detour.Proofs.Chain.Removal

/-!
# Removing what has been added

A removal forgets the members of a tree one by one and then tells them that they are done. It takes
an addition back exactly if the names of the tree are distinct, which an addition does not look at,
and if nothing of the tree has been in the chain before (`Action.remove_undoes_add_iff`).
-/
namespace Detour

variable {W : Type} {a : Addon W} {s : Settings} {g : Stage W}

/-- The handlers of a tree that all end well are called in turn. -/
theorem Dispatch.invokeSync_of_marks {event : Event} {mark : Addon W → Scene W → Scene W}
    {tree : List (Addon W)}
    (h : ∀ b ∈ tree, ∀ table t, callSync event b table t = .ok () (mark b t))
    (table : List Setting) (t : Scene W) :
    invokeSync event tree table t = .ok () (tree.foldl (fun t b => mark b t) t) := by
  induction tree generalizing t with
  | nil => rfl
  | cons b rest ih =>
    rw [invokeSync, bind_of_ok (h b (by simp) table t), ih fun c hc => h c (by simp [hc])]
    rfl

namespace Action

theorem remove_of_removable (h : Removable a.tree g.addons) :
    remove a (s, g) = onScene (Dispatch.invokeSync .done a.tree)
      (s, { g with addons := g.addons.without a.tree }) := by
  rw [remove, bind_of_ok (forgetAll_of_removable h)]

theorem remove_of_stuck (h : ¬ Removable a.tree g.addons) :
    ∃ gone b later, a.tree = gone ++ b :: later ∧ Removable gone g.addons ∧
      (g.addons.without gone).contains b.name = false ∧
      remove a (s, g) =
        .error (.addon (.unknown b.name)) (s, { g with addons := g.addons.without gone }) := by
  obtain ⟨gone, b, later, hsplit, hgone, hb, hforget⟩ := forgetAll_of_stuck (s := s) h
  exact ⟨gone, b, later, hsplit, hgone, hb, by rw [remove, bind_of_error hforget]⟩

end Action

namespace AddonTable

variable {t : AddonTable W} {tree : List (Addon W)}

theorem removable_withTree_iff :
    Action.Removable tree (t.withTree tree a) ↔ (tree.map (·.name)).Nodup := by
  refine ⟨fun h => h.1, fun h => ⟨h, fun b hb => ?_⟩⟩
  exact contains_index.mpr (.inl (List.mem_map_of_mem hb))

/-- What is left in the chain is what had been there, if nothing of that is of the tree. -/
theorem chain_without_withTree (ha : a ∈ tree) :
    ((t.withTree tree a).without tree).chain = t.chain ↔
      ∀ b ∈ t.chain, b.id ∉ tree.map (·.id) := by
  have hlast : [a].filter (fun b => b.id ∉ tree.map (·.id)) = [] :=
    List.filter_eq_nil_iff.mpr fun b hb => by
      simpa [List.mem_singleton.mp hb] using ⟨a, ha, rfl⟩
  have hleft : ((t.withTree tree a).without tree).chain =
      t.chain.filter fun b => b.id ∉ tree.map (·.id) := by
    rw [without, withTree, List.filter_append, hlast, List.append_nil]
  rw [hleft, List.filter_eq_self]
  simp only [decide_eq_true_eq]

/-- What is left of the names is what had been there, if the names of the tree are new. -/
theorem lookup_without_withTree (hnew : ∀ b ∈ tree, t.contains b.name = false)
    (hdistinct : (tree.map (·.name)).Nodup) (a : Addon W) :
    ((t.withTree tree a).without tree).lookup = t.lookup := by
  have hold : t.lookup.filter (fun e => e.1 ∉ tree.map (·.name)) = t.lookup := by
    refine List.filter_eq_self.mpr fun e he => decide_eq_true fun hname => ?_
    obtain ⟨b, hb, hsame⟩ := List.mem_map.mp hname
    have hknown : t.contains e.1 = true := contains_iff.mpr (List.mem_map_of_mem he)
    exact Bool.false_ne_true ((hnew b hb).symm.trans (hsame ▸ hknown))
  have hgone : (tree.map fun b => (b.name, b)).filter (fun e => e.1 ∉ tree.map (·.name)) = [] := by
    refine List.filter_eq_nil_iff.mpr fun e he => ?_
    obtain ⟨b, hb, rfl⟩ := List.mem_map.mp he
    simpa using ⟨b, hb, rfl⟩
  rw [without, withTree, index_of_new hnew hdistinct, List.filter_append, hold, hgone,
    List.append_nil]

end AddonTable

namespace Action

/-- After an addition that has succeeded, every addon of the tree is found under its name, and a
removal tells each of them once that it is done and leaves the table as it was before, exactly if
the names of the tree are distinct and no addon of the tree had been in the chain. -/
theorem remove_undoes_add_iff {mark : Addon W → Scene W → Scene W} {y : Settings × Stage W}
    (hadd : add a (s, g) = .ok () y)
    (hdone : ∀ b ∈ a.tree, ∀ table t, Dispatch.callSync .done b table t = .ok () (mark b t)) :
    ((∀ b ∈ a.tree, y.2.addons.get? b.name = some b) ∧
      remove a y =
        .ok () (y.1, ⟨g.addons, a.tree.foldl (fun t b => mark b t) y.2.scene⟩)) ↔
      (a.tree.map (·.name)).Nodup ∧ ∀ b ∈ g.addons.chain, b.id ∉ a.ids := by
  have hcourse := Addition.of_any a s g
  rw [hadd] at hcourse
  cases hcourse with
  | @whole _ s' _ scene entering _ _ =>
  have hnew := new_of_enter entering
  have hremove : (a.tree.map (·.name)).Nodup →
      remove a (s', ⟨g.addons.withTree a.tree a, scene⟩) =
        .ok () (s', ⟨(g.addons.withTree a.tree a).without a.tree,
          a.tree.foldl (fun t b => mark b t) scene⟩) := by
    intro hdistinct
    rw [remove_of_removable (AddonTable.removable_withTree_iff.mpr hdistinct)]
    exact onScene_of_ok (Dispatch.invokeSync_of_marks hdone s'.table scene)
  constructor
  · rintro ⟨-, hundone⟩
    have hdistinct : (a.tree.map (·.name)).Nodup := by
      by_contra hsame
      obtain ⟨_, _, _, -, -, -, hstuck⟩ :=
        remove_of_stuck (s := s') (g := ⟨g.addons.withTree a.tree a, scene⟩)
          (mt AddonTable.removable_withTree_iff.mp hsame)
      rw [hstuck] at hundone
      cases hundone
    have hback : (g.addons.withTree a.tree a).without a.tree = g.addons := by
      rw [hremove hdistinct] at hundone
      simpa using hundone
    exact ⟨hdistinct,
      (AddonTable.chain_without_withTree a.self_mem_tree).mp (congrArg AddonTable.chain hback)⟩
  · rintro ⟨hdistinct, hchain⟩
    have hback : (g.addons.withTree a.tree a).without a.tree = g.addons :=
      congrArg₂ AddonTable.mk (AddonTable.lookup_without_withTree hnew hdistinct a)
        ((AddonTable.chain_without_withTree a.self_mem_tree).mpr hchain)
    refine ⟨fun b hb => AddonTable.get?_index_of_distinct hdistinct hb, ?_⟩
    rw [hremove hdistinct, hback]

end Action

namespace Script

def single : Stage (List ScriptNote) where
  addons := ⟨[("slow", player "slow" slow [])], [player "slow" slow []]⟩
  scene := ⟨0, [], []⟩

/-- An addon with another one below it comes and goes, and both are told so. -/
theorem outer_comes_and_goes :
    (∀ b ∈ outer.tree, (single.addons.withTree outer.tree outer).get? b.name = some b) ∧
      Action.remove outer (.empty, ⟨single.addons.withTree outer.tree outer, single.scene⟩) =
        .ok () (.empty,
          ⟨single.addons, ⟨0, [⟨"inner", .done, false⟩, ⟨"outer", .done, false⟩], []⟩⟩) := by
  have hdone : ∀ b ∈ outer.tree, ∀ table t, Dispatch.callSync .done b table t =
      .ok () { t with world := ⟨b.id, .done, false⟩ :: t.world } := by
    intro b hb table t
    obtain rfl | rfl : b = outer ∨ b = player "inner" quick [] := by
      simpa [outer, player, Addon.tree, Addon.forest] using hb
    · rfl
    · rfl
  exact (Action.remove_undoes_add_iff (s := .empty) (g := single) rfl hdone).mpr
    ⟨by decide, by decide⟩

def twins : Addon (List ScriptNote) :=
  .mk "top" "top" [] (fun event => (quick event).handler "top" event)
    [.mk "left" "twin" [] (fun event => (quick event).handler "left" event) [],
      .mk "right" "twin" [] (fun event => (quick event).handler "right" event) []]

def namesake : Addon (List ScriptNote) := .mk "namesake" "slow" [] (fun _ => .absent) []

/-- Twins can be added, and only one of them is found. Removing them fails half-way, and nobody is
told. An addon whose namesake has been removed can be added once more; then removing it leaves
nothing of it in the chain, where it had been before. -/
theorem twins_cannot_be_removed :
    (∃ y, Action.add twins (.empty, ⟨.empty, ⟨0, [], []⟩⟩) = .ok () y ∧
      (y.2.addons.get? "twin").map (·.id) = some "right" ∧
      ∃ z, Action.remove twins y = .error (.addon (.unknown "twin")) z ∧
        z.2.addons = .empty ∧ z.2.scene.world = []) ∧
    ∃ y, Action.remove namesake (.empty, single) = .ok () y ∧
      y.2.addons.chain = single.addons.chain ∧
      ∃ z, (do Action.add (player "slow" slow []); Action.remove (player "slow" slow [])) y =
          .ok () z ∧
        z.2.addons.chain = [] :=
  ⟨⟨_, rfl, rfl, _, rfl, rfl, rfl⟩, _, rfl, rfl, _, rfl, rfl⟩

end Script
end Detour
