import Detour.Proofs.Chain.Traffic
import Detour.Proofs.Loading

/-!
# What stays within a relation while events are under way

If the handlers of all addons concerned stay within a relation, so does the scene, whatever is done:
settings are changed, addons added and removed, events sent and gone on with in any order
(`Traffic.flows_step`, `Traffic.flows_run`). An addon of which nobody knows the name may be removed in
any case, since nothing comes of it.
-/
namespace Detour

variable {W : Type} {R : Scene W → Scene W → Prop} {new : String → Prop}

namespace AddonTable

/-- The names that are known have become more, and only by such as are allowed. -/
def Learns (new : String → Prop) (t u : AddonTable W) : Prop :=
  ∀ name, u.contains name = true → t.contains name = true ∨ new name

instance : IsPreorder (AddonTable W) (Learns new) where
  refl _ _ h := .inl h
  trans _ _ _ htu huv name h := (huv name h).elim (htu name) .inr

theorem learns_index (t : AddonTable W) {tree : List (Addon W)} (h : ∀ a ∈ tree, new a.name) :
    t.Learns new (t.index tree) := by
  induction tree generalizing t with
  | nil => exact refl_of (Learns new) t
  | cons a rest ih =>
    have hput : t.Learns new { t with lookup := putName a.name a t.lookup } := by
      intro name hname
      by_cases heq : name = a.name
      · exact .inr (heq ▸ h a (by simp))
      · exact .inl (by simpa [contains, get?, lookup_putName, heq] using hname)
    exact trans_of (Learns new) hput (ih _ fun b hb => h b (by simp [hb]))

theorem contains_forget {t : AddonTable W} {a : Addon W} {name : String}
    (h : (t.forget a).contains name = true) : t.contains name = true ∧ name ≠ a.name := by
  obtain ⟨e, he, hname⟩ := List.lookup_isSome_iff.mp h
  obtain ⟨hmem, hne⟩ := List.mem_filter.mp he
  obtain rfl := eq_of_beq hname
  exact ⟨List.lookup_isSome_iff.mpr ⟨e, hmem, hname⟩, by simpa using hne⟩

theorem learns_forget (t : AddonTable W) (a : Addon W) : t.Learns new (t.forget a) :=
  fun _ h => .inl (contains_forget h).1

end AddonTable

def Addon.Within (R : Scene W → Scene W → Prop) (a : Addon W) : Prop :=
  ∀ b ∈ a.tree, ∀ event, Dispatch.HandlerWithin R (b.handler event)

theorem Dispatch.ChainWithin.of_addons {chain : List (Addon W)} (h : ∀ a ∈ chain, a.Within R)
    (event : Event) : ChainWithin R event chain := fun a ha b hb => h a ha b hb event

namespace Stage

/-- Addons of the chain that stay within the relation do so afterwards, the names that are known have
become more by such as are allowed, and the scene has moved along the relation. -/
structure Moved (R : Scene W → Scene W → Prop) (new : String → Prop) (g h : Stage W) : Prop where
  chain : ∀ a ∈ h.addons.chain, a.Within R
  names : g.addons.Learns new h.addons
  scene : R g.scene h.scene

def Flows (R : Scene W → Scene W → Prop) (new : String → Prop) (g h : Stage W) : Prop :=
  (∀ a ∈ g.addons.chain, a.Within R) → Moved R new g h

theorem Moved.of_scene {g : Stage W} (hg : ∀ a ∈ g.addons.chain, a.Within R) {s : Scene W}
    (hs : R g.scene s) : Moved R new g { g with scene := s } :=
  ⟨hg, refl_of (AddonTable.Learns new) g.addons, hs⟩

variable [IsPreorder (Scene W) R]

instance : IsPreorder (Stage W) (Flows R new) where
  refl g hg := .of_scene hg (refl_of R g.scene)
  trans _ _ _ hab hbc ha :=
    have hb := hab ha
    have hc := hbc hb.chain
    ⟨hc.chain, trans_of (AddonTable.Learns new) hb.names hc.names, trans_of R hb.scene hc.scene⟩

theorem listener_flows (note : ∀ s r, R s (Scene.note s r)) :
    Settings.ListenerWithin (Flows R new) (listener : Listener (Stage W)) := by
  refine ⟨fun table names g hg => ?_, fun table f g => refl_of (Flows R new) g⟩
  have hscene := Dispatch.within_trigger note (.of_addons hg (.configure names)) table g.scene
  unfold after listener at *
  cases hr : Dispatch.trigger (.configure names) g.addons.chain table g.scene with
  | ok u t =>
    simp only [hr] at hscene ⊢
    exact .of_scene hg hscene
  | error f t =>
    simp only [hr] at hscene ⊢
    exact .of_scene hg hscene

end Stage

namespace Action

variable {α : Type} {a : Addon W}

abbrev Flows (R : Scene W → Scene W → Prop) (new : String → Prop) :
    Settings × Stage W → Settings × Stage W → Prop :=
  Settings.Beside (Stage.Flows R new)

theorem within_addons (S : Settings × Stage W → Settings × Stage W → Prop)
    [IsPreorder (Settings × Stage W) S] : Within S (addons : Action W (AddonTable W)) :=
  fun g => refl_of S g

theorem flows_onScene {h : Handling W α} (hh : ∀ table, Within R (h table)) :
    Within (Flows R new) (onScene h) := by
  intro g
  rw [after_onScene]
  exact fun hg => .of_scene hg (hh g.1.table g.2.scene)

variable [IsPreorder (Scene W) R]

variable (note : ∀ s r, R s (Scene.note s r))

include note

theorem flows_update (values : List (String × Value)) : Within (Flows R new) (update values) :=
  Settings.within_update (Stage.listener_flows note) values

theorem flows_declareAll (ds : List Declaration) :
    Within (Flows R new) (declareAll ds : Action W Unit) := by
  induction ds with
  | nil => exact within_pure ()
  | cons d rest ih =>
    have hwarn : ∀ message (g : Stage W), Stage.Flows R new g (Stage.warn message g) :=
      fun message g hg => .of_scene hg (note g.scene _)
    exact (Settings.within_declareOnce (Stage.listener_flows note) hwarn d).bind fun _ => ih

theorem flows_load {tree : List (Addon W)}
    (h : ∀ a ∈ tree, Dispatch.HandlerWithin R (a.handler .load)) :
    Within (Flows R new) (load tree) := by
  induction tree with
  | nil => exact within_pure ()
  | cons a rest ih =>
    exact (flows_onScene (Dispatch.within_callSync (h a (by simp)))).bind fun _ =>
      (flows_declareAll note a.declares).bind fun _ => ih fun b hb => h b (by simp [hb])

omit note in
/-- The addon table is changed, and only addons that stay within the relation are left or new. -/
theorem flows_reform {f : AddonTable W → AddonTable W}
    (hchain : ∀ t : AddonTable W, (∀ a ∈ t.chain, a.Within R) → ∀ a ∈ (f t).chain, a.Within R)
    (hnames : ∀ t, AddonTable.Learns new t (f t)) :
    Within (Flows R new) (do setAddons (f (← addons))) :=
  fun g hg => ⟨hchain g.2.addons hg, hnames g.2.addons, refl_of R g.2.scene⟩

theorem flows_register (h : a.Within R) (hnew : ∀ b ∈ a.tree, new b.name) :
    Within (Flows R new) (register a) := by
  have hload : Within (Flows R new) (do
      load a.tree
      setAddons ((← addons).index a.tree)
      Settings.processPutOff Stage.listener) := by
    have hindex : Within (Flows R new) (do setAddons ((← addons).index a.tree)) :=
      flows_reform (fun _ ht => ht) fun t => t.learns_index hnew
    refine (flows_load note fun b hb => h b hb .load).bind fun _ => ?_
    rw [← bind_assoc]
    exact hindex.bind fun _ => Settings.within_processPutOff (Stage.listener_flows note)
  unfold register
  refine (within_addons _).bind fun t => ?_
  split
  · exact (within_throw _).bind fun _ => hload
  · exact (within_pure ()).bind fun _ => hload

theorem flows_add (h : a.Within R) (hnew : ∀ b ∈ a.tree, new b.name) :
    Within (Flows R new) (add a) := by
  refine (flows_register note h hnew).bind fun _ => flows_reform (fun t ht b hb => ?_) fun t =>
    fun _ hname => .inl hname
  rcases List.mem_append.mp hb with hb | hb
  · exact ht b hb
  · exact List.mem_singleton.mp hb ▸ h

end Action

namespace Action

variable {s : Settings} {g : Stage W} {a : Addon W}

theorem forgetAll_cons_of_known (h : g.addons.contains a.name = true) (rest : List (Addon W)) :
    forgetAll (a :: rest) (s, g) = forgetAll rest (s, { g with addons := g.addons.forget a }) := by
  have haddons : addons (s, g) = .ok g.addons (s, g) := rfl
  rw [forgetAll, bind_of_ok haddons]
  simp only [h, if_true]
  rfl

theorem forgetAll_cons_of_unknown (h : g.addons.contains a.name = false) (rest : List (Addon W)) :
    forgetAll (a :: rest) (s, g) = .error (.addon (.unknown a.name)) (s, g) := by
  have haddons : addons (s, g) = .ok g.addons (s, g) := rfl
  rw [forgetAll, bind_of_ok haddons]
  simp only [h, Bool.false_eq_true, if_false]
  rfl

/-- Only the addon table is changed; the addons that are left in the chain are others, and so are the
names that are still known. -/
theorem forgetAll_spec {tree : List (Addon W)} {y : Settings × Stage W}
    (h : forgetAll tree (s, g) = .ok () y) :
    y.1 = s ∧ y.2.scene = g.scene ∧
      (∀ b ∈ y.2.addons.chain, b ∈ g.addons.chain ∧ b.id ∉ tree.map (·.id)) ∧
      ∀ name, y.2.addons.contains name = true →
        g.addons.contains name = true ∧ name ∉ tree.map (·.name) := by
  induction tree generalizing g with
  | nil =>
    obtain rfl : y = (s, g) := by simpa [forgetAll, pure, EStateM.pure] using h.symm
    exact ⟨rfl, rfl, fun b hb => ⟨hb, by simp⟩, fun name hname => ⟨hname, by simp⟩⟩
  | cons a rest ih =>
    cases ha : g.addons.contains a.name with
    | false =>
      rw [forgetAll_cons_of_unknown ha] at h
      cases h
    | true =>
      rw [forgetAll_cons_of_known ha] at h
      obtain ⟨hsettings, hscene, hchain, hnames⟩ := ih h
      refine ⟨hsettings, hscene, fun b hb => ?_, fun name hname => ?_⟩
      · obtain ⟨hleft, hrest⟩ := hchain b hb
        obtain ⟨hmem, hne⟩ := List.mem_filter.mp hleft
        exact ⟨hmem, by simpa using ⟨by simpa using hne, by simpa using hrest⟩⟩
      · obtain ⟨hleft, hrest⟩ := hnames name hname
        obtain ⟨hknown, hne⟩ := AddonTable.contains_forget hleft
        exact ⟨hknown, by simpa using ⟨hne, by simpa using hrest⟩⟩

variable [IsPreorder (Scene W) R]

theorem flows_forgetAll (tree : List (Addon W)) : Within (Flows R new) (forgetAll tree) := by
  induction tree with
  | nil => exact within_pure ()
  | cons a rest ih =>
    rintro ⟨s, g⟩
    cases ha : g.addons.contains a.name with
    | false =>
      rw [after_of_error (forgetAll_cons_of_unknown ha rest)]
      exact refl_of (Flows R new) (s, g)
    | true =>
      rw [after_of_eq (forgetAll_cons_of_known ha rest)]
      have hforget : Stage.Flows R new g { g with addons := g.addons.forget a } := fun hg =>
        ⟨fun b hb => hg b (List.mem_filter.mp hb).1, g.addons.learns_forget a, refl_of R g.scene⟩
      exact trans_of (Stage.Flows R new) hforget (ih (s, { g with addons := g.addons.forget a }))

theorem flows_remove (h : ∀ b ∈ a.tree, Dispatch.HandlerWithin R (b.handler .done)) :
    Within (Flows R new) (remove a) :=
  (flows_forgetAll a.tree).bind fun _ => flows_onScene (Dispatch.within_invokeSync h)

end Action

theorem Addon.mem_forest {b : Addon W} {chain : List (Addon W)} :
    b ∈ Addon.forest chain ↔ ∃ a ∈ chain, b ∈ a.tree := by
  induction chain with
  | nil => simp [Addon.forest]
  | cons a rest ih => simp [Addon.forest, ih]

namespace Dispatch

def Round.Turn.Within (R : Scene W → Scene W → Prop) : Round.Turn W → Prop
  | .finished => True
  | .ready r => ∀ a ∈ r.ahead, HandlerWithin R (a.handler r.event)
  | .suspended finish r => (∀ table, Detour.Within R (finish table)) ∧
      ∀ a ∈ r.ahead, HandlerWithin R (a.handler r.event)

namespace Round

variable {m : Manner} {r : Round W} {event : Event} {chain : List (Addon W)}

theorem within_begin (h : ChainWithin R event chain) {r : Round W}
    (hr : begin event chain = some r) : (Turn.ready r).Within R := by
  cases chain with
  | nil => cases hr
  | cons a rest =>
    obtain rfl := Option.some.inj hr
    intro b hb
    obtain ⟨c, hc, hb⟩ := Addon.mem_forest.mp (show b ∈ Addon.forest (a :: rest) from hb)
    exact h c hc b hb

theorem within_turnAfter (h : ∀ a ∈ r.ahead, HandlerWithin R (a.handler r.event)) (o : Outcome) :
    (r.turnAfter o).Within R := by
  cases o with
  | halted => trivial
  | goesOn =>
    have hrest : ChainWithin R r.event r.rest := fun a ha b hb =>
      h b (List.mem_append_right _ (Addon.mem_forest.mpr ⟨a, ha, hb⟩))
    rw [turnAfter, nextAddon]
    cases hnext : begin r.event r.rest with
    | none => trivial
    | some r' => exact within_begin hrest hnext

theorem within_extend {turn : Turn W} (h : turn.Within R) {a : Addon W} (ha : a.Within R) :
    (turn.extend a).Within R := by
  have hround : ∀ r : Round W, (∀ b ∈ r.ahead, HandlerWithin R (b.handler r.event)) →
      ∀ b ∈ ({ r with rest := r.rest ++ [a] } : Round W).ahead,
        HandlerWithin R (b.handler r.event) := by
    intro r hr b hb
    rcases List.mem_append.mp hb with hb | hb
    · exact hr b (List.mem_append_left _ hb)
    · obtain ⟨c, hc, hb⟩ := Addon.mem_forest.mp hb
      rcases List.mem_append.mp hc with hc | hc
      · exact hr b (List.mem_append_right _ (Addon.mem_forest.mpr ⟨c, hc, hb⟩))
      · exact ha b (List.mem_singleton.mp hc ▸ hb) r.event
  cases turn with
  | finished => trivial
  | ready r => exact hround r h
  | suspended finish r => exact ⟨h.1, hround r h.2⟩

/-- A part of an event has moved the scene along the relation, and what follows will do so too. -/
def Passed (R : Scene W → Scene W → Prop) (s : Scene W) :
    EStateM.Result Failure (Scene W) (Turn W) → Prop
  | .ok turn t => R s t ∧ turn.Within R
  | .error _ t => R s t

variable [IsPreorder (Scene W) R]

theorem Passed.trans {s t : Scene W} (hs : R s t)
    {result : EStateM.Result Failure (Scene W) (Turn W)} (h : Passed R t result) :
    Passed R s result := by
  cases result with
  | ok turn u => exact ⟨trans_of R hs h.1, h.2⟩
  | error f u => exact trans_of R hs h

theorem within_beginCall {a : Addon W} (h : HandlerWithin R (a.handler event))
    (table : List Setting) : Detour.Within R (beginCall m event a table) := by
  cases m with
  | waiting => exact within_start h table
  | atOnce => exact (within_callSync h table).bind fun _ => within_pure none

omit [IsPreorder (Scene W) R] in
theorem within_finishCall {a : Addon W} (h : HandlerWithin R (a.handler event))
    {table : List Setting} {s t : Scene W} {finish : Handling W Unit}
    (hs : beginCall m event a table s = .ok (some finish) t) (table' : List Setting) :
    Detour.Within R (finish table') := by
  cases m with
  | waiting => exact within_finish h hs table'
  | atOnce =>
    cases hcall : callSync event a table s with
    | ok u t =>
      have hnone : beginCall .atOnce event a table s = .ok none t := bind_of_ok hcall
      simp [hnone] at hs
    | error f t =>
      have herror : beginCall .atOnce event a table s = .error f t := bind_of_error hcall
      simp [herror] at hs

variable (note : ∀ s r, R s (Scene.note s r))

include note

theorem passed_fail (h : ∀ a ∈ r.ahead, HandlerWithin R (a.handler r.event)) (f : Failure)
    (table : List Setting) (s : Scene W) : Passed R s (r.fail f table s) := by
  have hguarded := within_guarded note (fun _ => within_throw f) table s
  cases hr : guarded (fun _ => throw f) table s with
  | ok o s' =>
    have hturn : r.fail f table s = .ok (r.turnAfter o) s' := bind_of_ok hr
    rw [after_of_ok hr] at hguarded
    rw [hturn]
    exact ⟨hguarded, within_turnAfter h o⟩
  | error f' s' =>
    have hturn : r.fail f table s = .error f' s' := bind_of_error hr
    rw [after_of_error hr] at hguarded
    rw [hturn]
    exact hguarded

theorem passed_stepBy (h : (Turn.ready r).Within R) (table : List Setting) (s : Scene W) :
    Passed R s (r.stepBy m table s) := by
  cases hhere : r.here with
  | nil =>
    have hstep : r.stepBy m table s = .ok (r.turnAfter .goesOn) s := by simp [stepBy, hhere]
    rw [hstep]
    exact ⟨refl_of R s, within_turnAfter h .goesOn⟩
  | cons a here =>
    have ha : HandlerWithin R (a.handler r.event) := h a (by simp [ahead, hhere])
    have hleft : ∀ b ∈ ({ r with here } : Round W).ahead, HandlerWithin R (b.handler r.event) := by
      intro b hb
      refine h b ?_
      rw [ahead, hhere]
      exact List.mem_cons_of_mem a hb
    have hbegin := within_beginCall (m := m) ha table s
    cases hcall : beginCall m r.event a table s with
    | error f t =>
      have hstep : r.stepBy m table s = r.fail f table t := by simp [stepBy, hhere, hcall]
      rw [after_of_error hcall] at hbegin
      rw [hstep]
      exact (passed_fail note h f table t).trans hbegin
    | ok finish? t =>
      rw [after_of_ok hcall] at hbegin
      cases finish? with
      | none =>
        have hstep : r.stepBy m table s = .ok (.ready { r with here }) t := by
          simp [stepBy, hhere, hcall]
        rw [hstep]
        exact ⟨hbegin, hleft⟩
      | some finish =>
        have hstep : r.stepBy m table s = .ok (.suspended finish { r with here }) t := by
          simp [stepBy, hhere, hcall]
        rw [hstep]
        exact ⟨hbegin, within_finishCall ha hcall, hleft⟩

theorem passed_resume {finish : Handling W Unit} (h : (Turn.suspended finish r).Within R)
    (table : List Setting) (s : Scene W) : Passed R s (r.resume finish table s) := by
  have hfinish := h.1 table s
  cases hr : finish table s with
  | error f t =>
    have hstep : r.resume finish table s = r.fail f table t := by simp [resume, hr]
    rw [after_of_error hr] at hfinish
    rw [hstep]
    exact (passed_fail note h.2 f table t).trans hfinish
  | ok u t =>
    have hstep : r.resume finish table s = .ok (.ready r) t := by simp [resume, hr]
    rw [after_of_ok hr] at hfinish
    rw [hstep]
    exact ⟨hfinish, h.2⟩

end Round
end Dispatch

namespace Traffic

open Dispatch

/-- What the addons of the chain do and what is still to be done of the events under way stays within
the relation. -/
structure Within (R : Scene W → Scene W → Prop) (t : Traffic W) : Prop where
  chain : ∀ a ∈ t.stage.addons.chain, a.Within R
  underway : ∀ u ∈ t.underway, u.turn.Within R

/-- The addons that are added stay within the relation, and their names are allowed. So do those that
are told that they are removed, unless their names are not known. -/
def Move.Within (R : Scene W → Scene W → Prop) (new : String → Prop) (known : AddonTable W) :
    Move W → Prop
  | .send .. | .proceed _ | .update _ => True
  | .add a => a.Within R ∧ ∀ b ∈ a.tree, new b.name
  | .remove a => a.Within R ∨ known.contains a.name = false ∧ ¬ new a.name

/-- The scene has moved along the relation, and will do so. -/
structure Flows (R : Scene W → Scene W → Prop) (new : String → Prop) (t t' : Traffic W) : Prop where
  within : t'.Within R
  names : t.stage.addons.Learns new t'.stage.addons
  scene : R t.stage.scene t'.stage.scene

variable {t : Traffic W} {known : AddonTable W}

/-- What is done to the settings and the addons leaves the events under way as they are. -/
theorem flows_act {action : Action W Unit} (ha : Detour.Within (Action.Flows R new) action)
    (h : t.Within R) : Flows R new t (t.act action) := by
  obtain ⟨hchain, hnames, hscene⟩ := ha (t.settings, t.stage) h.chain
  exact ⟨⟨hchain, h.underway⟩, hnames, hscene⟩

/-- The events under way are replaced by ones of which the same holds. -/
theorem Flows.of_map {t' : Traffic W} (h : Flows R new t t') {f : Underway W → Underway W}
    (hf : ∀ u, u.turn.Within R → (f u).turn.Within R) :
    Flows R new t { t' with underway := t'.underway.map f } := by
  refine ⟨⟨h.within.chain, fun u hu => ?_⟩, h.names, h.scene⟩
  obtain ⟨v, hv, rfl⟩ := List.mem_map.mp hu
  exact hf v (h.within.underway v hv)

theorem Flows.of_scene (h : t.Within R) {s : Scene W} (hs : R t.stage.scene s)
    {underway : List (Underway W)} (hunderway : ∀ u ∈ underway, u.turn.Within R) :
    Flows R new t { t with stage := { t.stage with scene := s }, underway } :=
  ⟨⟨h.chain, hunderway⟩, refl_of (AddonTable.Learns new) t.stage.addons, hs⟩

variable [IsPreorder (Scene W) R]

theorem flows_send (h : t.Within R) (m : Manner) (event : Event) :
    Flows R new t (t.send m event) := by
  unfold send
  cases hbegin : Round.begin event t.stage.addons.chain with
  | none => exact .of_scene h (refl_of R t.stage.scene) h.underway
  | some r =>
    refine .of_scene h (refl_of R t.stage.scene) fun u hu => ?_
    rcases List.mem_append.mp hu with hu | hu
    · exact h.underway u hu
    · obtain rfl := List.mem_singleton.mp hu
      exact Round.within_begin (.of_addons h.chain event) hbegin

theorem remove_of_unknown {a : Addon W} (h : t.stage.addons.contains a.name = false) :
    t.remove a = t := by
  obtain ⟨rest, htree⟩ : ∃ rest, a.tree = a :: rest := by
    cases a
    exact ⟨_, rfl⟩
  have hforget : Action.remove a (t.settings, t.stage) =
      .error (.addon (.unknown a.name)) (t.settings, t.stage) := by
    rw [Action.remove, htree]
    exact bind_of_error (Action.forgetAll_cons_of_unknown h rest)
  rw [remove, h, if_neg Bool.false_ne_true, act, after_of_error hforget]

variable (note : ∀ s r, R s (Scene.note s r))

include note

theorem flows_proceed (h : t.Within R) (index : Nat) : Flows R new t (t.proceed index) := by
  unfold proceed
  cases hu : t.underway[index]? with
  | none => exact .of_scene h (refl_of R t.stage.scene) h.underway
  | some u =>
    have hturn : u.turn.Within R := h.underway u (List.mem_of_getElem? hu)
    have hpassed : Round.Passed R t.stage.scene (u.proceed t.settings.table t.stage.scene) := by
      unfold Underway.proceed
      cases hcase : u.turn with
      | finished => exact ⟨refl_of R _, trivial⟩
      | ready r => exact Round.passed_stepBy note (hcase ▸ hturn) _ _
      | suspended finish r => exact Round.passed_resume note (hcase ▸ hturn) _ _
    dsimp only
    cases hr : u.proceed t.settings.table t.stage.scene with
    | ok turn scene =>
      rw [hr] at hpassed
      refine .of_scene h hpassed.1 fun v hv => ?_
      rcases List.mem_or_eq_of_mem_set hv with hv | rfl
      · exact h.underway v hv
      · exact hpassed.2
    | error f scene =>
      rw [hr] at hpassed
      refine .of_scene h hpassed fun v hv => ?_
      rcases List.mem_or_eq_of_mem_set hv with hv | rfl
      · exact h.underway v hv
      · trivial

theorem flows_add (h : t.Within R) {a : Addon W} (ha : a.Within R)
    (hnew : ∀ b ∈ a.tree, new b.name) : Flows R new t (t.add a) := by
  have hact := flows_act (Action.flows_add note ha hnew) h
  unfold add
  cases outcome (Action.add a) (t.settings, t.stage) with
  | error f => exact hact
  | ok u =>
    refine hact.of_map fun u hu => ?_
    unfold Underway.extend
    split
    · exact Round.within_extend hu ha
    · exact hu

omit note in
theorem flows_remove (h : t.Within R) {a : Addon W} (ha : a.Within R) :
    Flows R new t (t.remove a) := by
  have hact : Flows R new t (t.act (Action.remove a)) :=
    flows_act (Action.flows_remove fun b hb => ha b hb .done) h
  unfold remove
  split
  · exact hact.of_map (f := Underway.leaveBehind) fun u hu => hu
  · exact hact

theorem flows_step (h : t.Within R) (hknown : known.Learns new t.stage.addons) {move : Move W}
    (hmove : move.Within R new known) : Flows R new t (t.step move) := by
  cases move with
  | send m event => exact flows_send h m event
  | proceed index => exact flows_proceed note h index
  | update values => exact flows_act (Action.flows_update note values) h
  | add a => exact flows_add note h hmove.1 hmove.2
  | remove a =>
    rcases hmove with ha | ⟨hunknown, hnew⟩
    · exact flows_remove h ha
    · have hgone : t.stage.addons.contains a.name = false := by
        by_contra hname
        rcases hknown a.name (by simpa using hname) with hold | hin
        · rw [hunknown] at hold
          cases hold
        · exact hnew hin
      rw [step, remove_of_unknown hgone]
      exact .of_scene h (refl_of R t.stage.scene) h.underway

theorem flows_run (h : t.Within R) (hknown : known.Learns new t.stage.addons) {moves : List (Move W)}
    (hmoves : ∀ move ∈ moves, move.Within R new known) : Flows R new t (t.run moves) := by
  unfold run
  induction moves generalizing t with
  | nil => exact .of_scene h (refl_of R t.stage.scene) h.underway
  | cons move rest ih =>
    have hstep := flows_step note h hknown (hmoves move (by simp))
    have hrest := ih hstep.within (trans_of (AddonTable.Learns new) hknown hstep.names)
      fun move hmove => hmoves move (by simp [hmove])
    exact ⟨hrest.within, trans_of (AddonTable.Learns new) hstep.names hrest.names,
      trans_of R hstep.scene hrest.scene⟩

end Traffic

end Detour
