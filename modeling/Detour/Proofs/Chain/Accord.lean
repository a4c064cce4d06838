import Detour.Proofs.Chain.Way

/-!
# Sending an event with and without waiting

An event can be sent through a chain by a dispatch that waits for its handlers or by one that cannot
wait. Where every handler does its work when it is called (`Handler.IsPlain`), it does not matter
which of them is taken (`Dispatch.dispatches_agree`): they agree on a handler (`start_of_isPlain`),
hence on the tree of an addon (`invokeSync_eq_invoke`) and on the chain (`trigger_eq_triggerEvent`).
-/
namespace Detour

variable {W : Type} {event : Event}

/-- A handler that does all its work when it is called, if it can be called at all. -/
def Handler.IsPlain : Handler W → Prop
  | .absent | .notCallable | .plain _ => True
  | .awaitable _ | .suspending _ => False

namespace Dispatch

/-- Such a handler leaves nothing to wait for. -/
theorem start_of_isPlain {a : Addon W} (h : (a.handler event).IsPlain) (table : List Setting) :
    start event a table = (callSync event a table >>= fun _ => pure none) := by
  unfold start callSync
  cases ha : a.handler event with
  | absent => rfl
  | notCallable => rfl
  | plain run => rfl
  | awaitable work =>
    rw [ha] at h
    exact h.elim
  | suspending begin =>
    rw [ha] at h
    exact h.elim

theorem invokeSync_eq_invoke {tree : List (Addon W)}
    (h : ∀ a ∈ tree, (a.handler event).IsPlain) (table : List Setting) :
    invokeSync event tree table = invoke event tree table := by
  induction tree with
  | nil => rfl
  | cons a rest ih =>
    have hrest : invokeSync event rest table = invoke event rest table :=
      ih fun b hb => h b (by simp [hb])
    have ha : (a.handler event).IsPlain := h a (by simp)
    simp only [invokeSync, invoke, start_of_isPlain ha, hrest, bind_assoc, pure_bind]

theorem guarded_congr {part other : Handling W Unit} {table : List Setting}
    (h : part table = other table) : guarded part table = guarded other table := by
  funext s
  rw [guarded, guarded, h]

theorem trigger_eq_triggerEvent {chain : List (Addon W)}
    (h : ∀ a ∈ Addon.forest chain, (a.handler event).IsPlain) (table : List Setting) :
    trigger event chain table = triggerEvent event chain table := by
  induction chain with
  | nil => rfl
  | cons a rest ih =>
    have htree : ∀ b ∈ a.tree, (b.handler event).IsPlain :=
      fun b hb => h b (by rw [Addon.forest]; exact List.mem_append_left _ hb)
    have hrest : trigger event rest table = triggerEvent event rest table :=
      ih fun b hb => h b (by rw [Addon.forest]; exact List.mem_append_right _ hb)
    have hfirst : guarded (invokeSync event a.tree) table = guarded (invoke event a.tree) table :=
      guarded_congr (invokeSync_eq_invoke htree table)
    rw [trigger, triggerEvent, hfirst, hrest]

namespace Conduct

variable {c : Conduct W} {chain : List (Addon W)} {table : List Setting}

theorem after_triggerEvent (h : ∀ a ∈ chain, ∀ b ∈ a.tree, c.Describes event table b)
    (s : Scene W) : after (triggerEvent event chain table) s = c.scene event chain s := by
  have hevent := triggerEvent_eq h s
  cases hending : c.ending? event chain with
  | none =>
    rw [hending] at hevent
    exact after_of_ok hevent
  | some f =>
    rw [hending] at hevent
    cases f with
    | setting f => exact after_of_error hevent
    | _ => exact after_of_ok hevent

end Conduct

/-- Where every handler does its work when it is called, the two ways to send an event lead from
every scene to the same scene and to the same end. Given what the handlers do, each of the two calls
the same ones in the same order, logs the same errors in the same order, and ends with the same
refusal or well. -/
theorem dispatches_agree {chain : List (Addon W)}
    (h : ∀ a ∈ Addon.forest chain, (a.handler event).IsPlain) (table : List Setting) :
    trigger event chain table = triggerEvent event chain table ∧
      ∀ c : Conduct W, (∀ a ∈ chain, ∀ b ∈ a.tree, c.Describes event table b) →
        ∀ send ∈ [trigger event chain, triggerEvent event chain], ∀ s,
          (send table s = match c.ending? event chain with
            | some (.setting f) => .error (.setting f) (c.scene event chain s)
            | _ => .ok () (c.scene event chain s)) ∧
          (∀ calls : Scene W → List (Addon W), (∀ a s, calls (c.effect a s) = calls s ++ [a]) →
            (∀ s r, calls (Scene.note s r) = calls s) →
              calls (after (send table) s) = calls s ++ c.calledIn event chain) ∧
          ((∀ a s, (c.effect a s).log = s.log) →
            (after (send table) s).log.map (·.2) =
              ((c.reached event chain).filterMap (c.logged? event)).reverse.map Conduct.errorRecord ++
                s.log.map (·.2)) := by
  have hsame : trigger event chain table = triggerEvent event chain table :=
    trigger_eq_triggerEvent h table
  refine ⟨hsame, fun c hc send hsend s => ?_⟩
  have hone : send table = triggerEvent event chain table := by
    simp only [List.mem_cons, List.not_mem_nil, or_false] at hsend
    rcases hsend with rfl | rfl
    · exact hsame
    · rfl
  have hafter : after (triggerEvent event chain table) s = c.scene event chain s :=
    Conduct.after_triggerEvent hc s
  rw [hone, hafter]
  exact ⟨Conduct.triggerEvent_eq hc s,
    fun calls heffect hnote => Conduct.record_scene heffect hnote chain s,
    fun heffect => Conduct.log_scene heffect chain s⟩

end Dispatch

namespace Script

open Dispatch

/-- A failure below the top of the first tree, a handler that cannot be called in the second, a halt
at the bottom of the third. -/
def briskScript : String → Script
  | "second" => .fail (.foreign "ValueError" "broken")
  | "fifth" => .notCallable
  | "eighth" => .fail (.halt "None")
  | _ => .note

def briskChain : List (Addon (List ScriptNote)) :=
  [addon briskScript "first" [addon briskScript "second" [addon briskScript "third" []]],
   addon briskScript "fourth" [addon briskScript "fifth" [], addon briskScript "sixth" []],
   addon briskScript "seventh" [addon briskScript "eighth" []],
   addon briskScript "ninth" []]

theorem briskChain_scripted {event : Event} : ∀ a ∈ briskChain, ∀ b ∈ a.tree,
    b.handler event = (briskScript b.id).handler b.id event := by
  simp [briskChain, addon, Addon.tree, Addon.forest, Addon.handler, Addon.id]

/-- Both dispatches call the handlers up to the failure in each of the first two trees and up to the
halt in the third, and log the two failures. -/
theorem dispatches_agree_on_brisk_chain :
    (∀ a ∈ Addon.forest briskChain, (a.handler .running).IsPlain) ∧
    trigger .running briskChain [] = triggerEvent .running briskChain [] ∧
    ((conduct .running briskScript).calledIn .running briskChain).map (·.id) =
      ["first", "second", "fourth", "seventh", "eighth"] ∧
    ∀ send ∈ [trigger .running briskChain, triggerEvent .running briskChain],
      (after (send []) ⟨0, [], []⟩).log.map (·.2) =
        [Conduct.errorRecord (.addon (.notCallable "running" "fifth")),
          Conduct.errorRecord (.foreign "ValueError" "broken")] := by
  have hplain : ∀ a ∈ Addon.forest briskChain, (a.handler .running).IsPlain := by
    simp [briskChain, addon, Addon.tree, Addon.forest, Addon.handler, briskScript, handler,
      Handler.IsPlain]
  have hdescribes : ∀ a ∈ briskChain, ∀ b ∈ a.tree,
      (conduct .running briskScript).Describes .running [] b := fun a ha b hb =>
    conduct_describes (briskChain_scripted a ha b hb) []
  obtain ⟨hsame, hboth⟩ := dispatches_agree hplain []
  refine ⟨hplain, hsame, by decide, fun send hsend => ?_⟩
  obtain ⟨-, -, hlog⟩ := hboth _ hdescribes send hsend ⟨0, [], []⟩
  exact hlog fun _ _ => rfl

end Script
end Detour
