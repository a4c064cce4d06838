import Detour.Proofs.Effect

/-!
# Operations on related states

An operation respects a relation if on related states it ends in the same way and leaves related
states. This passes from the parts of an operation to the whole: from the handlers of a chain to the
dispatch of an event (`respects_triggerEvent`), and from a listener to a change of settings
(`respects_update`). What an operation reads may differ between the two states as long as nothing
that it returns depends on the difference.
-/
namespace Detour

section Operations

variable {ε σ α β : Type} {R : σ → σ → Prop}

/-- Two runs end in the same way and leave related states. -/
inductive Alike (R : σ → σ → Prop) : EStateM.Result ε σ α → EStateM.Result ε σ α → Prop
  | ok (a : α) {s t : σ} (related : R s t) : Alike R (.ok a s) (.ok a t)
  | error (f : ε) {s t : σ} (related : R s t) : Alike R (.error f s) (.error f t)

/-- On related states the operation does the same, as far as the relation tells. -/
def Respects (R : σ → σ → Prop) (h : EStateM ε σ α) : Prop := ∀ s t, R s t → Alike R (h s) (h t)

theorem Respects.after {h : EStateM ε σ α} (hh : Respects R h) {s t : σ} (hst : R s t) :
    R (after h s) (after h t) := by
  have hrun := hh s t hst
  unfold Detour.after
  generalize h s = x at hrun ⊢
  generalize h t = y at hrun ⊢
  cases hrun with
  | ok a hst => exact hst
  | error f hst => exact hst

theorem Respects.outcome {h : EStateM ε σ α} (hh : Respects R h) {s t : σ} (hst : R s t) :
    outcome h s = outcome h t := by
  have hrun := hh s t hst
  unfold Detour.outcome
  generalize h s = x at hrun ⊢
  generalize h t = y at hrun ⊢
  cases hrun with
  | ok a hst => rfl
  | error f hst => rfl

theorem respects_pure (a : α) : Respects R (pure a : EStateM ε σ α) := fun _ _ hst => .ok a hst

theorem respects_throw (f : ε) : Respects R (throw f : EStateM ε σ α) := fun _ _ hst => .error f hst

theorem respects_modify {f : σ → σ} (hf : ∀ s t, R s t → R (f s) (f t)) :
    Respects R (modify f : EStateM ε σ Unit) := fun s t hst => .ok () (hf s t hst)

/-- What follows an operation has to respect the relation for the values it returns. -/
theorem Respects.bind_of {h : EStateM ε σ α} {k : α → EStateM ε σ β} (hh : Respects R h)
    (hk : ∀ s a t, h s = .ok a t → Respects R (k a)) : Respects R (h >>= k) := by
  intro s t hst
  have hrun := hh s t hst
  cases hs : h s with
  | ok a s' =>
    rw [hs] at hrun
    cases ht : h t with
    | ok b t' =>
      rw [ht] at hrun
      cases hrun with
      | ok _ hst' =>
        rw [bind_of_ok hs, bind_of_ok ht]
        exact hk s a s' hs s' t' hst'
    | error f t' =>
      rw [ht] at hrun
      cases hrun
  | error f s' =>
    rw [hs] at hrun
    cases ht : h t with
    | ok b t' =>
      rw [ht] at hrun
      cases hrun
    | error f t' =>
      rw [ht] at hrun
      cases hrun with
      | error _ hst' =>
        rw [bind_of_error hs, bind_of_error ht]
        exact .error f hst'

theorem Respects.bind {h : EStateM ε σ α} {k : α → EStateM ε σ β} (hh : Respects R h)
    (hk : ∀ a, Respects R (k a)) : Respects R (h >>= k) :=
  hh.bind_of fun _ a _ _ => hk a

theorem respects_get {k : σ → EStateM ε σ α} (hsame : ∀ s t, R s t → k s = k t)
    (hk : ∀ s, Respects R (k s)) : Respects R (get >>= k) := by
  intro s t hst
  rw [get_bind, get_bind, ← hsame s t hst]
  exact hk s s t hst

end Operations

namespace Dispatch

variable {W : Type} {R : Scene W → Scene W → Prop} {event : Event}

/-- The handler respects the relation, and is never suspended. -/
def HandlerRespects (R : Scene W → Scene W → Prop) : Handler W → Prop
  | .absent | .notCallable => True
  | .plain run | .awaitable run => ∀ table, Respects R (run table)
  | .suspending _ => False

def ChainRespects (R : Scene W → Scene W → Prop) (event : Event) (chain : List (Addon W)) : Prop :=
  ∀ a ∈ chain, ∀ b ∈ a.tree, HandlerRespects R (b.handler event)

theorem respects_callSync {a : Addon W} (h : HandlerRespects R (a.handler event))
    (table : List Setting) : Respects R (callSync event a table) := by
  unfold callSync
  cases ha : a.handler event with
  | absent | awaitable => exact respects_pure ()
  | notCallable | suspending => exact respects_throw _
  | plain run =>
    rw [ha] at h
    exact h table

theorem respects_invokeSync {tree : List (Addon W)}
    (h : ∀ a ∈ tree, HandlerRespects R (a.handler event)) (table : List Setting) :
    Respects R (invokeSync event tree table) := by
  induction tree with
  | nil => exact respects_pure ()
  | cons a rest ih =>
    exact (respects_callSync (h a (by simp)) table).bind fun _ =>
      ih fun b hb => h b (by simp [hb])

theorem respects_start {a : Addon W} (h : HandlerRespects R (a.handler event))
    (table : List Setting) : Respects R (start event a table) := by
  unfold start
  cases ha : a.handler event with
  | absent => exact respects_pure none
  | notCallable => exact respects_throw _
  | plain run | awaitable run =>
    rw [ha] at h
    exact (h table).bind fun _ => respects_pure none
  | suspending =>
    rw [ha] at h
    cases h

theorem finish_eq_none {a : Addon W} (h : HandlerRespects R (a.handler event))
    {table : List Setting} {s t : Scene W} {finish? : Option (Handling W Unit)}
    (hs : start event a table s = .ok finish? t) : finish? = none := by
  unfold start at hs
  cases ha : a.handler event with
  | absent =>
    rw [ha] at hs
    cases hs
    rfl
  | notCallable =>
    rw [ha] at hs
    cases hs
  | plain run | awaitable run =>
    simp only [ha] at hs
    cases hr : run table s with
    | ok u t =>
      rw [bind_of_ok hr] at hs
      cases hs
      rfl
    | error f t =>
      rw [bind_of_error hr] at hs
      cases hs
  | suspending =>
    rw [ha] at h
    cases h

theorem respects_invoke {tree : List (Addon W)}
    (h : ∀ a ∈ tree, HandlerRespects R (a.handler event)) (table : List Setting) :
    Respects R (invoke event tree table) := by
  induction tree with
  | nil => exact respects_pure ()
  | cons a rest ih =>
    have ha := h a (by simp)
    refine (respects_start ha table).bind_of fun s finish? t hs => ?_
    rw [finish_eq_none ha hs]
    exact (respects_pure ()).bind fun _ => ih fun b hb => h b (by simp [hb])

theorem respects_guarded (note : ∀ s t r, R s t → R (Scene.note s r) (Scene.note t r))
    {part : Handling W Unit} (h : ∀ table, Respects R (part table)) (table : List Setting) :
    Respects R (guarded part table) := by
  intro s t hst
  have hrun := h table s t hst
  unfold guarded
  generalize part table s = x at hrun ⊢
  generalize part table t = y at hrun ⊢
  cases hrun with
  | ok a hst => exact .ok Outcome.goesOn hst
  | error f hst =>
    cases f with
    | halt => exact .ok Outcome.halted hst
    | setting f => exact .error (Failure.setting f) hst
    | _ => exact .ok Outcome.goesOn (note _ _ _ hst)

theorem respects_trigger (note : ∀ s t r, R s t → R (Scene.note s r) (Scene.note t r))
    {chain : List (Addon W)} (h : ChainRespects R event chain) (table : List Setting) :
    Respects R (trigger event chain table) := by
  induction chain with
  | nil => exact respects_pure ()
  | cons a rest ih =>
    refine (respects_guarded note (respects_invokeSync (h a (by simp))) table).bind fun o => ?_
    cases o with
    | goesOn => exact ih fun b hb => h b (by simp [hb])
    | halted => exact respects_pure ()

theorem respects_triggerEvent (note : ∀ s t r, R s t → R (Scene.note s r) (Scene.note t r))
    {chain : List (Addon W)} (h : ChainRespects R event chain) (table : List Setting) :
    Respects R (triggerEvent event chain table) := by
  induction chain with
  | nil => exact respects_pure ()
  | cons a rest ih =>
    refine (respects_guarded note (respects_invoke (h a (by simp))) table).bind fun o => ?_
    cases o with
    | goesOn => exact ih fun b hb => h b (by simp [hb])
    | halted => exact respects_pure ()

end Dispatch

namespace Settings

variable {S : Type} {R : S → S → Prop} {l : Listener S}

def Sharing (R : S → S → Prop) (a b : Settings × S) : Prop := a.1 = b.1 ∧ R a.2 b.2

structure ListenerRespects (R : S → S → Prop) (l : Listener S) : Prop where
  changed : ∀ table names, Respects R (l.changed table names)
  refused : ∀ table f, Respects R (l.refused table f)

theorem respects_notify (h : ListenerRespects R l) (names : List String) :
    Respects (Sharing R) (notify l names) := by
  rintro ⟨s, r⟩ ⟨_, r'⟩ ⟨rfl, hr⟩
  have hrun := h.changed s.table names r r' hr
  unfold notify
  dsimp only
  generalize l.changed s.table names r = x at hrun ⊢
  generalize l.changed s.table names r' = y at hrun ⊢
  cases hrun with
  | ok u hr => exact .ok () ⟨rfl, hr⟩
  | error f hr => exact .error f ⟨rfl, hr⟩

theorem respects_notifyRefused (h : ListenerRespects R l) (f : Failure) :
    Respects (Sharing R) (notifyRefused l f) := by
  rintro ⟨s, r⟩ ⟨_, r'⟩ ⟨rfl, hr⟩
  have hrun := h.refused s.table f r r' hr
  unfold notifyRefused
  dsimp only
  generalize l.refused s.table f r = x at hrun ⊢
  generalize l.refused s.table f r' = y at hrun ⊢
  cases hrun with
  | ok u hr => exact .ok () ⟨rfl, hr⟩
  | error f hr => exact .error f ⟨rfl, hr⟩

theorem respects_restore (table : List Setting) : Respects (Sharing R) (restore table) := by
  refine respects_modify ?_
  rintro ⟨s, r⟩ ⟨_, r'⟩ ⟨rfl, hr⟩
  exact ⟨rfl, hr⟩

theorem respects_takeBack (h : ListenerRespects R l) (names : List String) (passOn : Bool)
    (table : List Setting) (f : SettingFault) :
    Respects (Sharing R) (takeBack l names passOn table f) := by
  unfold takeBack
  refine (respects_notifyRefused h _).bind fun _ => (respects_restore table).bind fun _ =>
    (respects_notify h names).bind fun _ => ?_
  split
  · exact respects_throw _
  · exact respects_pure ()

theorem respects_withRollback (h : ListenerRespects R l) (names : List String) (passOn : Bool)
    {body : Update S Unit} (hb : Respects (Sharing R) body) :
    Respects (Sharing R) (withRollback l names passOn body) := by
  rintro ⟨s, r⟩ ⟨_, r'⟩ ⟨rfl, hr⟩
  have hrun := hb (s, r) (s, r') ⟨rfl, hr⟩
  unfold withRollback
  generalize body (s, r) = x at hrun ⊢
  generalize body (s, r') = y at hrun ⊢
  cases hrun with
  | ok u hr => exact .ok u hr
  | error f hr =>
    cases f with
    | setting f => exact respects_takeBack h names passOn s.table f _ _ hr
    | _ => exact .error _ hr

theorem respects_assign (name : String) (v : Value) :
    Respects (Sharing R) (assign name v : Update S Unit) := by
  rintro ⟨s, r⟩ ⟨_, r'⟩ ⟨rfl, hr⟩
  unfold assign
  dsimp only
  cases s.find? name with
  | none => exact .error _ ⟨rfl, hr⟩
  | some o =>
    dsimp only
    cases o.assign v with
    | ok o => exact .ok () ⟨rfl, hr⟩
    | error f => exact .error f ⟨rfl, hr⟩

theorem respects_assignAll (values : List (String × Value)) :
    Respects (Sharing R) (assignAll values : Update S Unit) := by
  induction values with
  | nil => exact respects_pure ()
  | cons e rest ih => exact (respects_assign e.1 e.2).bind fun _ => ih

theorem respects_updateKnown (h : ListenerRespects R l) (values : List (String × Value)) :
    Respects (Sharing R) (updateKnown l values) := by
  refine respects_get ?_ fun s => ?_
  · rintro ⟨s, r⟩ ⟨_, r'⟩ ⟨rfl, -⟩
    rfl
  · dsimp only
    split
    · exact (respects_withRollback h _ _
        ((respects_assignAll _).bind fun _ => respects_notify h _)).bind fun _ => respects_pure _
    · exact respects_pure _

theorem respects_update (h : ListenerRespects R l) (values : List (String × Value)) :
    Respects (Sharing R) (update l values) := by
  refine (respects_updateKnown h values).bind fun unknown => ?_
  split
  · exact respects_throw _
  · exact respects_pure ()

end Settings

section Stages

variable {W α : Type} {chain : List (Addon W)} {R : Scene W → Scene W → Prop}

structure Stage.Sharing (chain : List (Addon W)) (R : Scene W → Scene W → Prop) (g h : Stage W) :
    Prop where
  chain : g.addons.chain = chain
  addons : g.addons = h.addons
  scene : R g.scene h.scene

theorem Stage.listener_respects (note : ∀ s t r, R s t → R (Scene.note s r) (Scene.note t r))
    (h : ∀ names, Dispatch.ChainRespects R (.configure names) chain) :
    Settings.ListenerRespects (Stage.Sharing chain R) (Stage.listener : Listener (Stage W)) := by
  refine ⟨fun table names => ?_, fun table f g g' hg => .ok () hg⟩
  rintro ⟨addons, s⟩ ⟨_, t⟩ ⟨rfl, rfl, hst⟩
  have hrun := Dispatch.respects_trigger note (h names) table s t hst
  unfold Stage.listener
  dsimp only
  generalize Dispatch.trigger (.configure names) addons.chain table s = x at hrun ⊢
  generalize Dispatch.trigger (.configure names) addons.chain table t = y at hrun ⊢
  cases hrun with
  | ok u hst => exact .ok () ⟨rfl, rfl, hst⟩
  | error f hst => exact .error f ⟨rfl, rfl, hst⟩

namespace Action

/-- The settings and the addons are the same, and the scenes are related. -/
abbrev Sharing (chain : List (Addon W)) (R : Scene W → Scene W → Prop) :
    Settings × Stage W → Settings × Stage W → Prop :=
  Settings.Sharing (Stage.Sharing chain R)

theorem respects_onScene {h : Handling W α} (hh : ∀ table, Respects R (h table)) :
    Respects (Sharing chain R) (onScene h) := by
  rintro ⟨s, addons, u⟩ ⟨_, _, v⟩ ⟨rfl, hchain, rfl, huv⟩
  have hrun := hh s.table u v huv
  unfold onScene
  dsimp only
  generalize h s.table u = x at hrun ⊢
  generalize h s.table v = y at hrun ⊢
  cases hrun with
  | ok a huv => exact .ok a ⟨rfl, hchain, rfl, huv⟩
  | error f huv => exact .error f ⟨rfl, hchain, rfl, huv⟩

theorem respects_triggerEvent (note : ∀ s t r, R s t → R (Scene.note s r) (Scene.note t r))
    {event : Event} (h : Dispatch.ChainRespects R event chain) :
    Respects (Sharing chain R) (triggerEvent event) := by
  rintro ⟨s, g⟩ ⟨_, g'⟩ ⟨rfl, hg⟩
  change Alike _ (onScene (Dispatch.triggerEvent event g.addons.chain) (s, g))
    (onScene (Dispatch.triggerEvent event g'.addons.chain) (s, g'))
  rw [← hg.addons, hg.chain]
  exact respects_onScene (Dispatch.respects_triggerEvent note h) _ _ ⟨rfl, hg⟩

theorem respects_update (note : ∀ s t r, R s t → R (Scene.note s r) (Scene.note t r))
    (h : ∀ names, Dispatch.ChainRespects R (.configure names) chain)
    (values : List (String × Value)) : Respects (Sharing chain R) (update values) :=
  Settings.respects_update (Stage.listener_respects note h) values

end Action

end Stages
end Detour
