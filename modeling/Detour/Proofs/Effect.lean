import Detour.Addon
import Mathlib.Order.Defs.Unbundled

/-!
# Effects of operations

`after` is the state that an operation leaves, whether it ends well or fails. An operation stays
`Within` a relation if every run of it takes its state along the relation. For a preorder this
passes from the parts of an operation to the whole: from the handlers of a chain to the dispatch of
an event (`within_triggerEvent`), and from a listener to a change of settings (`within_update`).
-/
namespace Detour

section Operations

variable {ε σ α β : Type}

def after (h : EStateM ε σ α) (s : σ) : σ :=
  match h s with
  | .ok _ t => t
  | .error _ t => t

def outcome (h : EStateM ε σ α) (s : σ) : Except ε α :=
  match h s with
  | .ok a _ => .ok a
  | .error f _ => .error f

/-- Every run of the operation is a step of the relation. -/
def Within (R : σ → σ → Prop) (h : EStateM ε σ α) : Prop := ∀ s, R s (after h s)

theorem after_of_ok {h : EStateM ε σ α} {s t : σ} {a : α} (hs : h s = .ok a t) : after h s = t := by
  simp [after, hs]

theorem after_of_error {h : EStateM ε σ α} {s t : σ} {f : ε} (hs : h s = .error f t) :
    after h s = t := by
  simp [after, hs]

theorem after_of_eq {h k : EStateM ε σ α} {s t : σ} (hs : h s = k t) : after h s = after k t := by
  simp only [after, hs]

theorem bind_of_ok {h : EStateM ε σ α} {k : α → EStateM ε σ β} {s t : σ} {a : α}
    (hs : h s = .ok a t) : (h >>= k) s = k a t := by
  simp [bind, EStateM.bind, hs]

theorem bind_of_error {h : EStateM ε σ α} {k : α → EStateM ε σ β} {s t : σ} {f : ε}
    (hs : h s = .error f t) : (h >>= k) s = .error f t := by
  simp [bind, EStateM.bind, hs]

/-- How a sequence goes on depends on what its first part comes to. -/
theorem bind_of_eq {h h' : EStateM ε σ α} {s t : σ} (hs : h s = h' t) (k : α → EStateM ε σ β) :
    (h >>= k) s = (h' >>= k) t := by
  simp only [bind, EStateM.bind, hs]

theorem get_bind (k : σ → EStateM ε σ β) (s : σ) : (get >>= k) s = k s s := rfl

theorem after_bind_of_ok {h : EStateM ε σ α} {k : α → EStateM ε σ β} {s t : σ} {a : α}
    (hs : h s = .ok a t) : after (h >>= k) s = after (k a) t := by
  simp only [after, bind_of_ok hs]

variable {R : σ → σ → Prop}

theorem within_modify {f : σ → σ} (hf : ∀ s, R s (f s)) :
    Within R (modify f : EStateM ε σ Unit) := hf

variable [IsPreorder σ R]

theorem within_pure (a : α) : Within R (pure a : EStateM ε σ α) := fun s => refl_of R s

theorem within_throw (f : ε) : Within R (throw f : EStateM ε σ α) := fun s => refl_of R s

theorem within_get : Within R (get : EStateM ε σ σ) := fun s => refl_of R s

/-- What follows an operation has to stay within the relation for the values it returns. -/
theorem Within.bind_of {h : EStateM ε σ α} {k : α → EStateM ε σ β} (hh : Within R h)
    (hk : ∀ s a t, h s = .ok a t → Within R (k a)) : Within R (h >>= k) := by
  intro s
  have hs := hh s
  cases hr : h s with
  | ok a t =>
    rw [after_of_ok hr] at hs
    rw [after_bind_of_ok hr]
    exact trans_of R hs (hk s a t hr t)
  | error f t =>
    rw [after_of_error hr] at hs
    rwa [after_of_error (bind_of_error hr)]

theorem Within.bind {h : EStateM ε σ α} {k : α → EStateM ε σ β} (hh : Within R h)
    (hk : ∀ a, Within R (k a)) : Within R (h >>= k) :=
  hh.bind_of fun _ a _ _ => hk a

end Operations

namespace Dispatch

variable {W : Type} {R : Scene W → Scene W → Prop} {event : Event}

/-- Whatever the handler does, before and after a suspension, is a step of the relation. -/
def HandlerWithin (R : Scene W → Scene W → Prop) : Handler W → Prop
  | .absent | .notCallable => True
  | .plain run | .awaitable run => ∀ table, Within R (run table)
  | .suspending start => (∀ table, Within R (start table)) ∧
      ∀ table s t finish, start table s = .ok (some finish) t → ∀ table, Within R (finish table)

/-- Every handler of the event in a list of addons and below stays within the relation. -/
def ChainWithin (R : Scene W → Scene W → Prop) (event : Event) (chain : List (Addon W)) : Prop :=
  ∀ a ∈ chain, ∀ b ∈ a.tree, HandlerWithin R (b.handler event)

/-- Only a handler that may be suspended leaves something to be finished. -/
theorem within_finish {a : Addon W} (h : HandlerWithin R (a.handler event))
    {table : List Setting} {s t : Scene W} {finish : Handling W Unit}
    (hs : start event a table s = .ok (some finish) t) (table' : List Setting) :
    Within R (finish table') := by
  unfold start at hs
  cases ha : a.handler event with
  | absent => simp [ha, pure, EStateM.pure] at hs
  | notCallable =>
    simp only [ha] at hs
    cases hs
  | plain run | awaitable run =>
    simp only [ha] at hs
    cases hr : run table s with
    | ok u t => simp [bind_of_ok hr, pure, EStateM.pure] at hs
    | error f t => simp [bind_of_error hr] at hs
  | suspending start =>
    rw [ha] at h
    simp only [ha] at hs
    exact h.2 table s t finish hs table'

variable [IsPreorder (Scene W) R]

theorem within_callSync {a : Addon W} (h : HandlerWithin R (a.handler event))
    (table : List Setting) : Within R (callSync event a table) := by
  unfold callSync
  cases ha : a.handler event with
  | absent => exact within_pure ()
  | notCallable => exact within_throw _
  | plain run =>
    rw [ha] at h
    exact h table
  | awaitable work => exact within_pure ()
  | suspending start => exact within_throw _

theorem within_invokeSync {tree : List (Addon W)}
    (h : ∀ a ∈ tree, HandlerWithin R (a.handler event)) (table : List Setting) :
    Within R (invokeSync event tree table) := by
  induction tree with
  | nil => exact within_pure ()
  | cons a rest ih =>
    exact (within_callSync (h a (by simp)) table).bind fun _ =>
      ih fun b hb => h b (by simp [hb])

theorem within_start {a : Addon W} (h : HandlerWithin R (a.handler event))
    (table : List Setting) : Within R (start event a table) := by
  unfold start
  cases ha : a.handler event with
  | absent => exact within_pure none
  | notCallable => exact within_throw _
  | plain run =>
    rw [ha] at h
    exact (h table).bind fun _ => within_pure none
  | awaitable work =>
    rw [ha] at h
    exact (h table).bind fun _ => within_pure none
  | suspending start =>
    rw [ha] at h
    exact h.1 table

theorem within_invoke {tree : List (Addon W)}
    (h : ∀ a ∈ tree, HandlerWithin R (a.handler event)) (table : List Setting) :
    Within R (invoke event tree table) := by
  induction tree with
  | nil => exact within_pure ()
  | cons a rest ih =>
    have hrest : Within R (invoke event rest table) := ih fun b hb => h b (by simp [hb])
    have ha := h a (by simp)
    refine (within_start ha table).bind_of fun s finish? t hs => ?_
    cases finish? with
    | none => exact (within_pure ()).bind fun _ => hrest
    | some finish => exact (within_finish ha hs table).bind fun _ => hrest

theorem within_guarded (note : ∀ s r, R s (Scene.note s r)) {part : Handling W Unit}
    (h : ∀ table, Within R (part table)) (table : List Setting) :
    Within R (guarded part table) := by
  intro s
  have hs := h table s
  unfold after at hs ⊢
  unfold guarded
  cases hp : part table s with
  | ok u t => simpa [hp] using hs
  | error f t =>
    simp only [hp] at hs
    cases f <;> first | exact hs | exact trans_of R hs (note t _)

theorem within_trigger (note : ∀ s r, R s (Scene.note s r)) {chain : List (Addon W)}
    (h : ChainWithin R event chain) (table : List Setting) :
    Within R (trigger event chain table) := by
  induction chain with
  | nil => exact within_pure ()
  | cons a rest ih =>
    refine (within_guarded note (within_invokeSync (h a (by simp))) table).bind fun o => ?_
    cases o with
    | goesOn => exact ih fun b hb => h b (by simp [hb])
    | halted => exact within_pure ()

theorem within_triggerEvent (note : ∀ s r, R s (Scene.note s r)) {chain : List (Addon W)}
    (h : ChainWithin R event chain) (table : List Setting) :
    Within R (triggerEvent event chain table) := by
  induction chain with
  | nil => exact within_pure ()
  | cons a rest ih =>
    refine (within_guarded note (within_invoke (h a (by simp))) table).bind fun o => ?_
    cases o with
    | goesOn => exact ih fun b hb => h b (by simp [hb])
    | halted => exact within_pure ()

end Dispatch

namespace Settings

variable {S : Type} {R : S → S → Prop} {l : Listener S}

/-- The state of the listener moves along the relation, whatever becomes of the settings. -/
def Beside (R : S → S → Prop) (a b : Settings × S) : Prop := R a.2 b.2

instance [IsPreorder S R] : IsPreorder (Settings × S) (Beside R) where
  refl a := refl_of R a.2
  trans _ _ _ hab hbc := trans_of R hab hbc

structure ListenerWithinOn (R : S → S → Prop) (l : Listener S) (names : List String) : Prop where
  changed : ∀ table, Within R (l.changed table names)
  refused : ∀ table f, Within R (l.refused table f)

/-- Whatever the listener does is a step of the relation. -/
structure ListenerWithin (R : S → S → Prop) (l : Listener S) : Prop where
  changed : ∀ table names, Within R (l.changed table names)
  refused : ∀ table f, Within R (l.refused table f)

theorem ListenerWithin.on (h : ListenerWithin R l) (names : List String) :
    ListenerWithinOn R l names :=
  ⟨fun table => h.changed table names, h.refused⟩

variable {names : List String}

theorem within_notify (h : ListenerWithinOn R l names) : Within (Beside R) (notify l names) := by
  rintro ⟨s, r⟩
  have hr := h.changed s.table r
  unfold after at hr ⊢
  unfold notify
  cases hc : l.changed s.table names r <;> simpa [hc, Beside] using hr

theorem within_notifyRefused (h : ListenerWithinOn R l names) (f : Failure) :
    Within (Beside R) (notifyRefused l f) := by
  rintro ⟨s, r⟩
  have hr := h.refused s.table f r
  unfold after at hr ⊢
  unfold notifyRefused
  cases hc : l.refused s.table f r <;> simpa [hc, Beside] using hr

theorem within_modifyBeside {f : Settings × S → Settings × S} (hf : ∀ s, R s.2 (f s).2) :
    Within (Beside R) (modify f : Update S Unit) := hf

variable [IsPreorder S R]

theorem within_restore (table : List Setting) : Within (Beside R) (restore table) :=
  fun s => refl_of R s.2

theorem within_takeBack (h : ListenerWithinOn R l names) (passOn : Bool) (table : List Setting)
    (f : SettingFault) :
    Within (Beside R) (takeBack l names passOn table f) := by
  unfold takeBack
  refine (within_notifyRefused h _).bind fun _ => (within_restore table).bind fun _ =>
    (within_notify h).bind fun _ => ?_
  split
  · exact within_throw _
  · exact within_pure ()

theorem within_withRollback (h : ListenerWithinOn R l names) (passOn : Bool) {body : Update S Unit}
    (hb : Within (Beside R) body) :
    Within (Beside R) (withRollback l names passOn body) := by
  intro start
  have hs := hb start
  cases hr : body start with
  | ok u t => simpa [after, withRollback, hr] using hs
  | error f t =>
    rw [after_of_error hr] at hs
    cases f with
    | setting f =>
      have hback := within_takeBack h passOn start.1.table f t
      simpa only [after, withRollback, hr] using trans_of (Beside R) hs hback
    | _ => simpa [after, withRollback, hr] using hs

theorem within_assign (name : String) (v : Value) :
    Within (Beside R) (assign name v : Update S Unit) := by
  rintro ⟨s, r⟩
  have hr : R r r := refl_of R r
  cases hf : s.find? name with
  | none => simpa [after, assign, hf, Beside] using hr
  | some o => cases ho : o.assign v <;> simpa [after, assign, hf, ho, Beside] using hr

theorem within_assignAll (values : List (String × Value)) :
    Within (Beside R) (assignAll values : Update S Unit) := by
  induction values with
  | nil => exact within_pure ()
  | cons e rest ih => exact (within_assign e.1 e.2).bind fun _ => ih

theorem within_updateKnown {values : List (String × Value)}
    (h : ∀ names ⊆ values.map (·.1), ListenerWithinOn R l names) :
    Within (Beside R) (updateKnown l values) := by
  unfold updateKnown
  refine within_get.bind fun ⟨s, r⟩ => ?_
  dsimp only
  split
  · have hknown : (values.partition fun e => s.contains e.1).1 ⊆ values := by
      rw [List.partition_eq_filter_filter]
      exact List.filter_sublist.subset
    have hon := h _ (List.map_subset _ hknown)
    exact (within_withRollback hon _ ((within_assignAll _).bind fun _ => within_notify hon)).bind
      fun _ => within_pure _
  · exact within_pure _

/-- A change of settings stays within what the listener stays within where it is told of them. -/
theorem within_update_of_names {values : List (String × Value)}
    (h : ∀ names ⊆ values.map (·.1), ListenerWithinOn R l names) :
    Within (Beside R) (update l values) := by
  unfold update
  refine (within_updateKnown h).bind fun unknown => ?_
  split
  · exact within_throw _
  · exact within_pure ()

theorem within_update (h : ListenerWithin R l) (values : List (String × Value)) :
    Within (Beside R) (update l values) :=
  within_update_of_names fun names _ => h.on names

theorem within_updateByName (h : ListenerWithin R l) (values : List (String × Value)) :
    Within (Beside R) (updateByName l values) := by
  unfold updateByName
  split
  · exact within_throw _
  · exact within_update h values

theorem within_declare (h : ListenerWithin R l) (d : Declaration) :
    Within (Beside R) (declare l d) := by
  unfold declare
  split
  · exact Within.bind (within_modifyBeside fun s => refl_of R s.2) fun _ => within_notify (h.on _)
  · exact within_throw _

theorem within_declareOnce (h : ListenerWithin R l) {warn : String → S → S}
    (hwarn : ∀ message r, R r (warn message r)) (d : Declaration) :
    Within (Beside R) (declareOnce l warn d) := by
  unfold declareOnce
  split
  · exact fun s => refl_of R s.2
  · refine Within.bind within_get fun s => ?_
    dsimp only
    split
    · exact within_declare h d
    · split
      · exact Within.bind (within_modifyBeside fun s => hwarn _ s.2) fun _ => within_declare h d
      · exact within_pure ()

theorem within_processPutOff (h : ListenerWithin R l) : Within (Beside R) (processPutOff l) := by
  unfold processPutOff
  refine within_get.bind fun s => ?_
  dsimp only
  split
  · exact (within_pure _).bind fun values => Within.bind (within_updateByName h values) fun _ =>
      within_modifyBeside fun s => refl_of R s.2
  · exact fun s => refl_of R s.2

end Settings

namespace Stage

variable {W : Type} {R : Scene W → Scene W → Prop} [IsPreorder (Scene W) R]
  {chain : List (Addon W)}

/-- The addons stay, and where they are those of a chain the scene moves along the relation. -/
def Moves (chain : List (Addon W)) (R : Scene W → Scene W → Prop) (g h : Stage W) : Prop :=
  h.addons = g.addons ∧ (g.addons.chain = chain → R g.scene h.scene)

instance : IsPreorder (Stage W) (Moves chain R) where
  refl g := ⟨rfl, fun _ => refl_of R g.scene⟩
  trans _ _ _ hab hbc :=
    ⟨hbc.1.trans hab.1, fun hc => trans_of R (hab.2 hc) (hbc.2 (by rw [hab.1, hc]))⟩

/-- The addons of a chain, as the listener of the settings, do to the scene what their handlers
do. -/
theorem listener_within_on (note : ∀ s r, R s (Scene.note s r)) {names : List String}
    (h : Dispatch.ChainWithin R (.configure names) chain) :
    Settings.ListenerWithinOn (Moves chain R) (listener : Listener (Stage W)) names := by
  refine ⟨fun table g => ?_, fun table f g => refl_of _ g⟩
  unfold after listener
  cases hr : Dispatch.trigger (.configure names) g.addons.chain table g.scene with
  | ok u t =>
    refine ⟨by simp [hr], fun hc => ?_⟩
    have := Dispatch.within_trigger note h table g.scene
    rw [hc] at hr
    simpa [after, hr, hc] using this
  | error f t =>
    refine ⟨by simp [hr], fun hc => ?_⟩
    have := Dispatch.within_trigger note h table g.scene
    rw [hc] at hr
    simpa [after, hr, hc] using this

end Stage

namespace Action

variable {W α : Type}

/-- What is done to the scene leaves the settings and the addons as they are. -/
theorem after_onScene (h : Handling W α) (g : Settings × Stage W) :
    after (onScene h) g = (g.1, { g.2 with scene := after (h g.1.table) g.2.scene }) := by
  cases hr : h g.1.table g.2.scene <;> simp [after, onScene, hr]

theorem after_triggerEvent (event : Event) (g : Settings × Stage W) :
    after (triggerEvent event) g = (g.1, { g.2 with
      scene := after (Dispatch.triggerEvent event g.2.addons.chain g.1.table) g.2.scene }) :=
  after_onScene (Dispatch.triggerEvent event g.2.addons.chain) g

theorem onScene_of_ok {h : Handling W α} {g : Settings × Stage W} {a : α} {t : Scene W}
    (hs : h g.1.table g.2.scene = .ok a t) :
    onScene h g = .ok a (g.1, { g.2 with scene := t }) := by
  simp [onScene, hs]

theorem triggerEvent_of_ok {event : Event} {g : Settings × Stage W} {t : Scene W}
    (h : Dispatch.triggerEvent event g.2.addons.chain g.1.table g.2.scene = .ok () t) :
    triggerEvent event g = .ok () (g.1, { g.2 with scene := t }) := by
  have hscene : triggerEvent event g =
      onScene (Dispatch.triggerEvent event g.2.addons.chain) g := rfl
  rw [hscene, onScene_of_ok h]

/-- The settings stay beside a stage that moves along a relation. -/
abbrev Moves (chain : List (Addon W)) (R : Scene W → Scene W → Prop) :
    Settings × Stage W → Settings × Stage W → Prop :=
  Settings.Beside (Stage.Moves chain R)

variable {R : Scene W → Scene W → Prop} {chain : List (Addon W)}

theorem within_onScene {h : Handling W α} (hh : ∀ table, Within R (h table)) :
    Within (Moves chain R) (onScene h) := by
  intro g
  rw [after_onScene]
  exact ⟨rfl, fun _ => hh g.1.table g.2.scene⟩

variable [IsPreorder (Scene W) R]

theorem within_triggerEvent (note : ∀ s r, R s (Scene.note s r)) {event : Event}
    (h : Dispatch.ChainWithin R event chain) :
    Within (Moves chain R) (triggerEvent event) := by
  intro g
  rw [after_triggerEvent]
  refine ⟨rfl, fun hc => ?_⟩
  rw [hc]
  exact Dispatch.within_triggerEvent note h g.1.table g.2.scene

/-- A change of settings does what the handlers do that are told of the names. -/
theorem within_update_of_names (note : ∀ s r, R s (Scene.note s r))
    {values : List (String × Value)} (h : ∀ names ⊆ values.map (·.1),
      Dispatch.ChainWithin R (.configure names) chain) :
    Within (Moves chain R) (update values) :=
  Settings.within_update_of_names fun names hnames => Stage.listener_within_on note (h names hnames)

theorem within_update (note : ∀ s r, R s (Scene.note s r))
    (h : ∀ names, Dispatch.ChainWithin R (.configure names) chain)
    (values : List (String × Value)) : Within (Moves chain R) (update values) :=
  within_update_of_names note fun names _ => h names

end Action
end Detour
