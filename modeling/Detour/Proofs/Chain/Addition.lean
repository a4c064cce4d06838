import Detour.Proofs.Chain.Table

/-!
# Adding an addon

An addition has three parts: the names are looked at and the tree is loaded (`Action.enter`), then
the tree is entered in the table, then the values put off for its settings are set. It may fail in
the first part, with the table as it was, or in the last, with the tree entered but not in the chain
(`Addition`). What the scene does meanwhile is up to the handlers of the tree and the chain.
-/
namespace Detour

variable {W : Type} {R : Scene W → Scene W → Prop} {a : Addon W}

namespace Action

/-- Look at the names of a tree, all of which have to be new, and load it. -/
def enter (a : Addon W) : Action W Unit := do
  let t ← addons
  match a.tree.find? fun b => t.contains b.name with
  | some b => throw (.addon (.alreadyExists b.name))
  | none => pure ()
  load a.tree

variable {s : Settings} {g : Stage W}

theorem addons_bind {α : Type} (k : AddonTable W → Action W α) (x : Settings × Stage W) :
    (addons >>= k) x = k x.2.addons x := rfl

theorem setAddons_bind {α : Type} (t : AddonTable W) (k : Unit → Action W α)
    (x : Settings × Stage W) :
    (setAddons t >>= k) x = k () (x.1, { x.2 with addons := t }) := rfl

theorem register_eq (a : Addon W) : register a = (do
    enter a
    setAddons ((← addons).index a.tree)
    Settings.processPutOff Stage.listener) := by
  funext x
  simp only [register, enter, bind_assoc, addons_bind]
  cases a.tree.find? fun b => x.2.addons.contains b.name <;> rfl

theorem enter_of_taken {b : Addon W}
    (h : a.tree.find? (fun b => g.addons.contains b.name) = some b) :
    enter a (s, g) = .error (.addon (.alreadyExists b.name)) (s, g) := by
  rw [enter, addons_bind]
  simp only [h]
  rfl

theorem enter_of_new (h : ∀ b ∈ a.tree, g.addons.contains b.name = false) :
    enter a (s, g) = load a.tree (s, g) := by
  have hfree : a.tree.find? (fun b => g.addons.contains b.name) = none := by simpa using h
  rw [enter, addons_bind]
  simp only [hfree]

theorem add_of_early {x y : Settings × Stage W} {f : Failure} (h : enter a x = .error f y) :
    add a x = .error f y := by
  rw [add, register_eq, bind_of_error (bind_of_error h)]

/-- Once the tree is loaded, what is left of registering it is the values put off. -/
theorem register_of_entered {x : Settings × Stage W} (h : enter a (s, g) = .ok () x) :
    register a (s, g) = Settings.processPutOff Stage.listener
      (x.1, { x.2 with addons := x.2.addons.index a.tree }) := by
  rw [register_eq, bind_of_ok h, addons_bind, setAddons_bind]

theorem new_of_enter {x : Settings × Stage W} (h : enter a (s, g) = .ok () x) :
    ∀ b ∈ a.tree, g.addons.contains b.name = false := by
  cases hfind : a.tree.find? fun b => g.addons.contains b.name with
  | some b =>
    rw [enter_of_taken hfind] at h
    cases h
  | none => simpa using hfind

end Action

namespace Action

variable {chain : List (Addon W)}

/-- An operation that leaves the addons as they are changes the settings and the scene at most. -/
theorem stays {α : Type} {h : Action W α} (hh : Within (Moves chain R) h)
    (x : Settings × Stage W) (hx : x.2.addons.chain = chain) :
    ∃ s' scene, after h x = (s', ⟨x.2.addons, scene⟩) ∧ R x.2.scene scene := by
  obtain ⟨hkept, hmoved⟩ := hh x
  exact ⟨_, _, Prod.ext rfl (hkept ▸ rfl), hmoved hx⟩

variable [IsPreorder (Scene W) R]
  (note : ∀ s r, R s (Scene.note s r))
  (hchain : ∀ names, Dispatch.ChainWithin R (.configure names) chain)

include note hchain

theorem within_listener :
    Settings.ListenerWithin (Stage.Moves chain R) (Stage.listener : Listener (Stage W)) :=
  ⟨fun table names => (Stage.listener_within_on note (hchain names)).changed table,
    (Stage.listener_within_on note (hchain [])).refused⟩

theorem within_declareAll (ds : List Declaration) :
    Within (Moves chain R) (declareAll ds : Action W Unit) := by
  induction ds with
  | nil => exact within_pure ()
  | cons d rest ih =>
    have hwarn : ∀ message (g : Stage W), Stage.Moves chain R g (Stage.warn message g) :=
      fun message g => ⟨rfl, fun _ => note g.scene _⟩
    exact (Settings.within_declareOnce (within_listener note hchain) hwarn d).bind fun _ => ih

theorem within_load {tree : List (Addon W)}
    (h : ∀ b ∈ tree, Dispatch.HandlerWithin R (b.handler .load)) :
    Within (Moves chain R) (load tree) := by
  induction tree with
  | nil => exact within_pure ()
  | cons b rest ih =>
    exact (within_onScene (Dispatch.within_callSync (h b (by simp)))).bind fun _ =>
      (within_declareAll note hchain b.declares).bind fun _ => ih fun c hc => h c (by simp [hc])

theorem within_enter (h : ∀ b ∈ a.tree, Dispatch.HandlerWithin R (b.handler .load)) :
    Within (Moves chain R) (enter a) := by
  rintro ⟨s, g⟩
  cases hfind : a.tree.find? fun b => g.addons.contains b.name with
  | some b =>
    rw [after_of_error (enter_of_taken hfind)]
    exact refl_of (Moves chain R) (s, g)
  | none =>
    rw [after_of_eq (enter_of_new (by simpa using hfind))]
    exact within_load note hchain h (s, g)

end Action

/-- How an addition may go: it fails early, before the tree is entered, or late, when values put off
are set, or the addon ends up in the chain. The scene moves along the relation. -/
inductive Addition (R : Scene W → Scene W → Prop) (a : Addon W) (s : Settings) (g : Stage W) :
    EStateM.Result Failure (Settings × Stage W) Unit → Prop
  | early {f : Failure} {s' : Settings} {scene : Scene W}
      (entering : Action.enter a (s, g) = .error f (s', ⟨g.addons, scene⟩))
      (moved : R g.scene scene) : Addition R a s g (.error f (s', ⟨g.addons, scene⟩))
  | late {f : Failure} {t s' : Settings} {loaded scene : Scene W}
      (entering : Action.enter a (s, g) = .ok () (t, ⟨g.addons, loaded⟩))
      (settling : Settings.processPutOff Stage.listener (t, ⟨g.addons.index a.tree, loaded⟩) =
        .error f (s', ⟨g.addons.index a.tree, scene⟩))
      (moved : R g.scene scene) :
      Addition R a s g (.error f (s', ⟨g.addons.index a.tree, scene⟩))
  | whole {t s' : Settings} {loaded scene : Scene W}
      (entering : Action.enter a (s, g) = .ok () (t, ⟨g.addons, loaded⟩))
      (settling : Settings.processPutOff Stage.listener (t, ⟨g.addons.index a.tree, loaded⟩) =
        .ok () (s', ⟨g.addons.index a.tree, scene⟩))
      (moved : R g.scene scene) :
      Addition R a s g (.ok () (s', ⟨g.addons.withTree a.tree a, scene⟩))

namespace Addition

variable {s : Settings} {g : Stage W}

/-- Every addition goes one of these ways. -/
theorem of_add [IsPreorder (Scene W) R] (note : ∀ s r, R s (Scene.note s r))
    (hchain : ∀ names, Dispatch.ChainWithin R (.configure names) g.addons.chain)
    (h : ∀ b ∈ a.tree, Dispatch.HandlerWithin R (b.handler .load)) :
    Addition R a s g (Action.add a (s, g)) := by
  have henter := Action.stays (Action.within_enter note hchain h) (s, g) rfl
  cases hentered : Action.enter a (s, g) with
  | error f x =>
    obtain ⟨s', scene, hx, hmoved⟩ := henter
    obtain rfl : x = (s', ⟨g.addons, scene⟩) := (after_of_error hentered).symm.trans hx
    rw [Action.add_of_early hentered]
    exact .early hentered hmoved
  | ok u x =>
    obtain ⟨t, loaded, hx, hloaded⟩ := henter
    obtain rfl : x = (t, ⟨g.addons, loaded⟩) := (after_of_ok hentered).symm.trans hx
    have hsettle := Action.stays (Settings.within_processPutOff
      (Action.within_listener note hchain)) (t, ⟨g.addons.index a.tree, loaded⟩) rfl
    have hregister := Action.register_of_entered hentered
    cases hsettled : Settings.processPutOff Stage.listener
      (t, (⟨g.addons.index a.tree, loaded⟩ : Stage W)) with
    | error f y =>
      obtain ⟨s', scene, hy, hmoved⟩ := hsettle
      obtain rfl : y = (s', ⟨g.addons.index a.tree, scene⟩) :=
        (after_of_error hsettled).symm.trans hy
      rw [Action.add, bind_of_error (hregister.trans hsettled)]
      exact .late hentered hsettled (trans_of R hloaded hmoved)
    | ok u y =>
      obtain ⟨s', scene, hy, hmoved⟩ := hsettle
      obtain rfl : y = (s', ⟨g.addons.index a.tree, scene⟩) :=
        (after_of_ok hsettled).symm.trans hy
      rw [Action.add, bind_of_ok (hregister.trans hsettled), Action.addons_bind]
      exact .whole hentered hsettled (trans_of R hloaded hmoved)

/-- Whatever the handlers do. -/
theorem of_any (a : Addon W) (s : Settings) (g : Stage W) :
    Addition (fun _ _ => True) a s g (Action.add a (s, g)) := by
  have hall : IsPreorder (Scene W) fun _ _ => True :=
      { refl _ := trivial, trans _ _ _ _ _ := trivial }
  have hhandler : ∀ handler : Handler W, Dispatch.HandlerWithin (fun _ _ => True) handler := by
    intro handler
    cases handler <;> simp [Dispatch.HandlerWithin, Within]
  exact of_add (fun _ _ => trivial) (fun _ _ _ _ _ => hhandler _) fun _ _ => hhandler _

end Addition
end Detour
