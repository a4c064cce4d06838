import Detour.Proofs.Effect

/-!
# Events on their way through a chain

What the first addon of a chain makes of an event: it takes part in it and leaves it to the rest, or
refuses it, or does not care (`Dispatch.Ignores`). A failure that is only logged does not keep the
event from the rest (`Dispatch.guarded_of_mild`).
-/
namespace Detour.Dispatch

variable {W : Type} {event : Event} {a : Addon W} {chain : List (Addon W)} {table : List Setting}
  {s t : Scene W} {part : Handling W Unit}

theorem guarded_of_ok (h : part table s = .ok () t) : guarded part table s = .ok .goesOn t := by
  simp [guarded, h]

theorem guarded_of_refusal {f : SettingFault} (h : part table s = .error (.setting f) t) :
    guarded part table s = .error (.setting f) t := by
  simp [guarded, h]

def isLogged : Failure → Bool
  | .halt _ | .setting _ => false
  | _ => true

theorem guarded_of_logged {f : Failure} (h : part table s = .error f t) (hf : isLogged f = true) :
    guarded part table s =
      .ok .goesOn (t.note ⟨Level.error, "Addon error: " ++ f.described, none, some f⟩) := by
  cases f with
  | halt | setting => cases hf
  | _ => simp [guarded, h]

theorem isRefusal_of_guarded {f : Failure} (h : guarded part table s = .error f t) :
    f.isRefusal = true := by
  unfold guarded at h
  split at h <;> cases h
  rfl

/-- A part whose failures are all logged leaves the event to the next addon. -/
theorem guarded_of_mild (h : ∀ f u, part table s = .error f u → isLogged f = true) :
    ∃ u, guarded part table s = .ok .goesOn u := by
  cases hp : part table s with
  | ok x u => exact ⟨u, guarded_of_ok hp⟩
  | error f u => exact ⟨_, guarded_of_logged hp (h f u hp)⟩

theorem invokeSync_singleton (event : Event) (a : Addon W) (table : List Setting) :
    invokeSync event [a] table = callSync event a table := by
  funext s
  cases h : callSync event a table s with
  | ok u t => exact bind_of_ok h
  | error f t => exact bind_of_error h

theorem callSync_of_absent (h : a.handler event = .absent) :
    callSync event a table = pure () := by
  simp only [callSync, h]

theorem invoke_of_plain {run : Handling W Unit} (h : a.handler event = .plain run)
    (table : List Setting) : invoke event [a] table = run table := by
  funext s
  have hstart : start event a table = (run table >>= fun _ => pure none) := by
    simp only [start, h]
  cases hr : run table s with
  | ok u t =>
    have hs : start event a table s = .ok none t := by
      rw [hstart, bind_of_ok hr]
      rfl
    rw [invoke, bind_of_ok hs]
    rfl
  | error f t =>
    have hs : start event a table s = .error f t := by
      rw [hstart, bind_of_error hr]
    rw [invoke, bind_of_error hs]

theorem trigger_of_goesOn (h : guarded (invokeSync event a.tree) table s = .ok .goesOn t)
    (chain : List (Addon W)) :
    trigger event (a :: chain) table s = trigger event chain table t := by
  rw [trigger, bind_of_ok h]

theorem trigger_of_refusal {f : SettingFault}
    (h : invokeSync event a.tree table s = .error (.setting f) t) (chain : List (Addon W)) :
    trigger event (a :: chain) table s = .error (.setting f) t := by
  rw [trigger, bind_of_error (guarded_of_refusal h)]

theorem isRefusal_of_trigger {f : Failure} (h : trigger event chain table s = .error f t) :
    f.isRefusal = true := by
  induction chain generalizing s with
  | nil => cases h
  | cons a rest ih =>
    cases hg : guarded (invokeSync event a.tree) table s with
    | ok o u =>
      rw [trigger, bind_of_ok hg] at h
      cases o with
      | goesOn => exact ih h
      | halted => cases h
    | error f' u =>
      rw [trigger, bind_of_error hg] at h
      obtain ⟨rfl, -⟩ : f' = f ∧ _ := by simpa using h
      exact isRefusal_of_guarded hg

theorem triggerEvent_of_goesOn (h : guarded (invoke event a.tree) table s = .ok .goesOn t)
    (chain : List (Addon W)) :
    triggerEvent event (a :: chain) table s = triggerEvent event chain table t := by
  rw [triggerEvent, bind_of_ok h]

theorem triggerEvent_of_plain {run : Handling W Unit} (hplain : a.handler event = .plain run)
    (htree : a.tree = [a]) (h : run table s = .ok () t) (chain : List (Addon W)) :
    triggerEvent event (a :: chain) table s = triggerEvent event chain table t := by
  refine triggerEvent_of_goesOn (guarded_of_ok ?_) chain
  rw [htree, invoke_of_plain hplain, h]

theorem triggerEvent_of_absent (h : a.handler event = .absent) (htree : a.tree = [a])
    (chain : List (Addon W)) (table : List Setting) (s : Scene W) :
    triggerEvent event (a :: chain) table s = triggerEvent event chain table s := by
  have hinvoke : invoke event a.tree table s = .ok () s := by
    simp [htree, invoke, start, h, bind, EStateM.bind, pure, EStateM.pure]
  exact triggerEvent_of_goesOn (guarded_of_ok hinvoke) chain

/-- An addon that does not know an event may stand at the end of a chain. -/
theorem triggerEvent_concat_of_absent (h : a.handler event = .absent) (htree : a.tree = [a])
    (chain : List (Addon W)) (table : List Setting) (s : Scene W) :
    triggerEvent event (chain ++ [a]) table s = triggerEvent event chain table s := by
  induction chain generalizing s with
  | nil => exact triggerEvent_of_absent h htree [] table s
  | cons b rest ih =>
    rw [List.cons_append, triggerEvent, triggerEvent]
    cases hg : guarded (invoke event b.tree) table s with
    | ok o t =>
      rw [bind_of_ok hg, bind_of_ok hg]
      cases o with
      | goesOn => exact ih t
      | halted => rfl
    | error f t => rw [bind_of_error hg, bind_of_error hg]

/-- The addon, and those below it, do nothing when they are told of the event. -/
def Ignores (event : Event) (a : Addon W) : Prop :=
  ∀ table s, guarded (invokeSync event a.tree) table s = .ok .goesOn s

theorem ignores_of_absent (h : a.handler event = .absent) (htree : a.tree = [a]) :
    Ignores event a := by
  intro table s
  rw [htree]
  refine guarded_of_ok ?_
  rw [invokeSync_singleton, callSync_of_absent h]
  rfl

/-- An event passes the addons that do not care. -/
theorem trigger_of_ignored {before : List (Addon W)} (h : ∀ b ∈ before, Ignores event b)
    (chain : List (Addon W)) (table : List Setting) (s : Scene W) :
    trigger event (before ++ chain) table s = trigger event chain table s := by
  induction before with
  | nil => rfl
  | cons b rest ih =>
    rw [List.cons_append, trigger_of_goesOn (h b (by simp) table s)]
    exact ih fun c hc => h c (by simp [hc])

end Detour.Dispatch
