import Detour.Addon.Script
import Detour.Proofs.Sending
import Mathlib.Data.List.Basic
import Mathlib.Data.List.TakeWhile

/-!
# The way of an event

Which handlers are called by an event that is sent through a chain, given what each of them does
(`Conduct`). In the tree of an addon they are called from the top, up to the first that does not
return. In the chain the event gets to one addon after the other, up to the first whose tree ends it
by a halt or a refusal; any other failure is logged and concerns no other addon.
-/
namespace Detour

def upToFirst {α : Type} (p : α → Bool) (l : List α) : List α :=
  l.takeWhile (!p ·) ++ (l.find? p).toList

section UpToFirst

variable {α : Type} {p q : α → Bool} {a : α}

theorem upToFirst_cons_of_pos (h : p a = true) (l : List α) : upToFirst p (a :: l) = [a] := by
  simp [upToFirst, h]

theorem upToFirst_cons_of_neg (h : p a = false) (l : List α) :
    upToFirst p (a :: l) = a :: upToFirst p l := by
  simp [upToFirst, h]

theorem upToFirst_congr {l : List α} (h : ∀ a ∈ l, p a = q a) : upToFirst p l = upToFirst q l := by
  induction l with
  | nil => rfl
  | cons a l ih =>
    have hl : upToFirst p l = upToFirst q l := ih fun b hb => h b (by simp [hb])
    have ha : p a = q a := h a (by simp)
    cases hq : q a with
    | true => rw [upToFirst_cons_of_pos (ha.trans hq), upToFirst_cons_of_pos hq]
    | false => rw [upToFirst_cons_of_neg (ha.trans hq), upToFirst_cons_of_neg hq, hl]

end UpToFirst

namespace Dispatch

variable {W : Type} {event : Event} {table : List Setting}

/-- All that a handler does, from its beginning to its end, where there is one that can be called. -/
def call? : Handler W → Option (Handling W Unit)
  | .absent | .notCallable => none
  | .plain run | .awaitable run => some run
  | .suspending start => some fun table => do
    match ← start table with
    | some finish => finish table
    | none => pure ()

theorem invoke_cons_of_absent {a : Addon W} (h : a.handler event = .absent) (rest : List (Addon W))
    (table : List Setting) (s : Scene W) :
    invoke event (a :: rest) table s = invoke event rest table s := by
  have hstart : start event a table s = .ok none s := by simp [start, h, pure, EStateM.pure]
  exact bind_of_ok hstart

theorem invoke_cons_of_notCallable {a : Addon W} (h : a.handler event = .notCallable)
    (rest : List (Addon W)) (table : List Setting) (s : Scene W) :
    invoke event (a :: rest) table s = .error (.addon (.notCallable event.name a.id)) s := by
  have hstart : start event a table s = .error (.addon (.notCallable event.name a.id)) s := by
    simp only [start, h]
    rfl
  exact bind_of_error hstart

/-- A handler that can be called is called, and waited for, before those behind it. -/
theorem invoke_cons_of_call {a : Addon W} {run : Handling W Unit}
    (h : call? (a.handler event) = some run) (rest : List (Addon W)) (table : List Setting) :
    invoke event (a :: rest) table = (run table >>= fun _ => invoke event rest table) := by
  unfold call? at h
  cases ha : a.handler event with
  | absent | notCallable => simp [ha] at h
  | plain work | awaitable work =>
    obtain rfl : work = run := by simpa [ha] using h
    simp only [invoke, start, ha, bind_assoc, pure_bind]
  | suspending begin =>
    simp only [ha, Option.some.injEq] at h
    subst h
    simp only [invoke, start, ha, bind_assoc]
    congr 1
    funext finish?
    cases finish? <;> simp only [pure_bind]

inductive Reaction where
  | absent
  | notCallable
  | returns
  | fails (f : Failure)

/-- The handler makes something of the scene, if it can be called, and ends like this. -/
def Does (table : List Setting) (h : Handler W) (effect : Scene W → Scene W) : Reaction → Prop
  | .absent => h = .absent
  | .notCallable => h = .notCallable
  | .returns => ∃ run, call? h = some run ∧ ∀ s, run table s = .ok () (effect s)
  | .fails f => ∃ run, call? h = some run ∧ ∀ s, run table s = .error f (effect s)

/-- What the handlers of an event do: each makes something of the scene, and then it ends. -/
structure Conduct (W : Type) where
  effect : Addon W → Scene W → Scene W
  reaction : Addon W → Reaction

namespace Conduct

/-- The handler of the addon does what it is said to do. -/
def Describes (c : Conduct W) (event : Event) (table : List Setting) (a : Addon W) : Prop :=
  Does table (a.handler event) (c.effect a) (c.reaction a)

variable (c : Conduct W) (event : Event)

def isCalled (a : Addon W) : Bool :=
  match c.reaction a with
  | .absent | .notCallable => false
  | .returns | .fails _ => true

def ownFailure? (a : Addon W) : Option Failure :=
  match c.reaction a with
  | .absent | .returns => none
  | .notCallable => some (.addon (.notCallable event.name a.id))
  | .fails f => some f

def stops (a : Addon W) : Bool := (c.ownFailure? event a).isSome

def called (tree : List (Addon W)) : List (Addon W) :=
  (upToFirst (c.stops event) tree).filter c.isCalled

def failure? (tree : List (Addon W)) : Option Failure := tree.findSome? (c.ownFailure? event)

def leaves (tree : List (Addon W)) (s : Scene W) : Scene W :=
  (c.called event tree).foldl (fun s a => c.effect a s) s

def logged? (a : Addon W) : Option Failure := (c.failure? event a.tree).filter isLogged

/-- The failure that ends the event in the tree of the addon. -/
def endedBy? (a : Addon W) : Option Failure := (c.failure? event a.tree).filter (!isLogged ·)

/-- Whether the event ends in the tree of the addon. -/
def ends (a : Addon W) : Bool := (c.endedBy? event a).isSome

/-- The addons of a chain that the event gets to. -/
def reached (chain : List (Addon W)) : List (Addon W) := upToFirst (c.ends event) chain

def calledIn (chain : List (Addon W)) : List (Addon W) :=
  (c.reached event chain).flatMap fun a => c.called event a.tree

/-- The failure that ends the event before it is through the chain. -/
def ending? (chain : List (Addon W)) : Option Failure := chain.findSome? (c.endedBy? event)

def errorRecord (f : Failure) : LogRecord := ⟨Level.error, "Addon error: " ++ f.described, none, some f⟩

def pass (s : Scene W) (a : Addon W) : Scene W :=
  match c.logged? event a with
  | some f => (c.leaves event a.tree s).note (errorRecord f)
  | none => c.leaves event a.tree s

def scene (chain : List (Addon W)) (s : Scene W) : Scene W :=
  (c.reached event chain).foldl (c.pass event) s

variable {c event} {a : Addon W} {rest chain : List (Addon W)}

theorem called_cons_of_stops (h : c.stops event a = true) (rest : List (Addon W)) :
    c.called event (a :: rest) = [a].filter c.isCalled := by
  rw [called, upToFirst_cons_of_pos h]

theorem called_cons_of_goesOn (h : c.stops event a = false) (rest : List (Addon W)) :
    c.called event (a :: rest) = [a].filter c.isCalled ++ c.called event rest := by
  rw [called, upToFirst_cons_of_neg h, ← List.singleton_append, List.filter_append]
  rfl

theorem failure?_cons_of_stops (h : c.stops event a = true) (rest : List (Addon W)) :
    c.failure? event (a :: rest) = c.ownFailure? event a :=
  List.findSome?_cons_of_isSome h

theorem failure?_cons_of_goesOn (h : c.stops event a = false) (rest : List (Addon W)) :
    c.failure? event (a :: rest) = c.failure? event rest :=
  List.findSome?_cons_of_isNone (by simpa [stops] using h)

theorem invoke_eq {tree : List (Addon W)} (h : ∀ a ∈ tree, c.Describes event table a)
    (s : Scene W) :
    invoke event tree table s = match c.failure? event tree with
      | none => .ok () (c.leaves event tree s)
      | some f => .error f (c.leaves event tree s) := by
  induction tree generalizing s with
  | nil => rfl
  | cons a rest ih =>
    have hrest := ih fun b hb => h b (by simp [hb])
    have ha := h a (by simp)
    unfold Describes at ha
    cases hr : c.reaction a with
    | absent =>
      rw [hr] at ha
      have hgo : c.stops event a = false := by simp [stops, ownFailure?, hr]
      rw [invoke_cons_of_absent ha, hrest s, failure?_cons_of_goesOn hgo, leaves, leaves,
        called_cons_of_goesOn hgo]
      simp [isCalled, hr]
    | notCallable =>
      rw [hr] at ha
      have hstop : c.stops event a = true := by simp [stops, ownFailure?, hr]
      rw [invoke_cons_of_notCallable ha, failure?_cons_of_stops hstop, leaves,
        called_cons_of_stops hstop]
      simp [ownFailure?, isCalled, hr]
    | returns =>
      rw [hr] at ha
      obtain ⟨run, hcall, hrun⟩ := ha
      have hgo : c.stops event a = false := by simp [stops, ownFailure?, hr]
      rw [invoke_cons_of_call hcall, bind_of_ok (hrun s), hrest, failure?_cons_of_goesOn hgo, leaves,
        leaves, called_cons_of_goesOn hgo]
      simp [isCalled, hr]
    | fails f =>
      rw [hr] at ha
      obtain ⟨run, hcall, hrun⟩ := ha
      have hstop : c.stops event a = true := by simp [stops, ownFailure?, hr]
      rw [invoke_cons_of_call hcall, bind_of_error (hrun s), failure?_cons_of_stops hstop, leaves,
        called_cons_of_stops hstop]
      simp [ownFailure?, isCalled, hr]

/-- What becomes of the event in the first tree of a chain. -/
theorem guarded_invoke_eq (h : ∀ b ∈ a.tree, c.Describes event table b) (s : Scene W) :
    guarded (invoke event a.tree) table s = match c.endedBy? event a with
      | none => .ok .goesOn (c.pass event s a)
      | some (.setting f) => .error (.setting f) (c.pass event s a)
      | some _ => .ok .halted (c.pass event s a) := by
  have hinvoke := invoke_eq h s
  unfold pass logged? endedBy?
  cases hf : c.failure? event a.tree with
  | none =>
    rw [hf] at hinvoke
    exact guarded_of_ok hinvoke
  | some f =>
    rw [hf] at hinvoke
    cases hlogged : isLogged f with
    | true =>
      simp only [Option.filter, hlogged, if_true, Bool.not_true, Bool.false_eq_true, if_false]
      exact guarded_of_logged hinvoke hlogged
    | false =>
      simp only [Option.filter, hlogged, Bool.not_false, if_true, Bool.false_eq_true, if_false]
      cases f with
      | setting f => exact guarded_of_refusal hinvoke
      | halt m => simp [guarded, hinvoke]
      | _ => cases hlogged

/-- The event gets to one addon after the other, up to the first whose tree ends it. -/
theorem triggerEvent_eq (h : ∀ a ∈ chain, ∀ b ∈ a.tree, c.Describes event table b) (s : Scene W) :
    triggerEvent event chain table s = match c.ending? event chain with
      | some (.setting f) => .error (.setting f) (c.scene event chain s)
      | _ => .ok () (c.scene event chain s) := by
  induction chain generalizing s with
  | nil => rfl
  | cons a rest ih =>
    have hguarded := guarded_invoke_eq (h a (by simp)) s
    cases hended : c.endedBy? event a with
    | none =>
      have hends : c.ends event a = false := by simp [ends, hended]
      have hending : c.ending? event (a :: rest) = c.ending? event rest :=
        List.findSome?_cons_of_isNone (by simp [hended])
      have hscene : c.scene event (a :: rest) s = c.scene event rest (c.pass event s a) := by
        rw [scene, reached, upToFirst_cons_of_neg hends]
        rfl
      rw [hended] at hguarded
      rw [triggerEvent_of_goesOn hguarded, ih (fun b hb => h b (by simp [hb])), hending, hscene]
    | some f =>
      have hends : c.ends event a = true := by simp [ends, hended]
      have hending : c.ending? event (a :: rest) = some f :=
        (List.findSome?_cons_of_isSome (by simp [hended])).trans hended
      have hscene : c.scene event (a :: rest) s = c.pass event s a := by
        rw [scene, reached, upToFirst_cons_of_pos hends]
        rfl
      rw [hended] at hguarded
      rw [hending, hscene, triggerEvent]
      cases f with
      | setting f => exact bind_of_error hguarded
      | _ => exact bind_of_ok hguarded

/-- A record of calls that the handlers keep has the calls of a tree in it afterwards. -/
theorem record_leaves {calls : Scene W → List (Addon W)}
    (heffect : ∀ a s, calls (c.effect a s) = calls s ++ [a]) (tree : List (Addon W)) (s : Scene W) :
    calls (c.leaves event tree s) = calls s ++ c.called event tree := by
  unfold leaves
  induction c.called event tree generalizing s with
  | nil => simp
  | cons a rest ih => rw [List.foldl_cons, ih, heffect, List.append_assoc, List.singleton_append]

theorem record_scene {calls : Scene W → List (Addon W)}
    (heffect : ∀ a s, calls (c.effect a s) = calls s ++ [a])
    (hnote : ∀ s r, calls (Scene.note s r) = calls s) (chain : List (Addon W)) (s : Scene W) :
    calls (c.scene event chain s) = calls s ++ c.calledIn event chain := by
  have hpass : ∀ s a, calls (c.pass event s a) = calls s ++ c.called event a.tree := by
    intro s a
    unfold pass
    cases c.logged? event a with
    | none => exact record_leaves heffect a.tree s
    | some f => exact (hnote _ _).trans (record_leaves heffect a.tree s)
  unfold scene calledIn
  induction c.reached event chain generalizing s with
  | nil => simp
  | cons a rest ih => rw [List.foldl_cons, ih, hpass, List.flatMap_cons, List.append_assoc]

/-- Where the handlers log nothing themselves, the errors logged are those of the trees. -/
theorem log_scene (heffect : ∀ a s, (c.effect a s).log = s.log) (chain : List (Addon W))
    (s : Scene W) :
    (c.scene event chain s).log.map (·.2) =
      ((c.reached event chain).filterMap (c.logged? event)).reverse.map errorRecord ++
        s.log.map (·.2) := by
  have hleaves : ∀ tree s, (c.leaves event tree s).log = s.log := by
    intro tree s
    unfold leaves
    induction c.called event tree generalizing s with
    | nil => rfl
    | cons a rest ih => rw [List.foldl_cons, ih, heffect]
  unfold scene
  induction c.reached event chain generalizing s with
  | nil => rfl
  | cons a rest ih =>
    rw [List.foldl_cons, ih, pass]
    cases hf : c.logged? event a with
    | none => rw [List.filterMap_cons_none hf, hleaves]
    | some f => simp [List.filterMap_cons_some hf, Scene.note, hleaves]

section Apart

variable {d : Conduct W} {tree : List (Addon W)} (h : ∀ x ∈ tree, d.reaction x = c.reaction x)

include h

theorem called_congr : d.called event tree = c.called event tree := by
  have hstops : upToFirst (d.stops event) tree = upToFirst (c.stops event) tree :=
    upToFirst_congr fun x hx => by simp [stops, ownFailure?, h x hx]
  have hmem : ∀ x ∈ upToFirst (c.stops event) tree, x ∈ tree := by
    intro x hx
    rcases List.mem_append.mp hx with hx | hx
    · exact List.takeWhile_subset _ hx
    · exact List.mem_of_find?_eq_some (Option.mem_toList.mp hx)
  rw [called, hstops, called]
  exact List.filter_congr fun x hx => by simp [isCalled, h x (hmem x hx)]

theorem failure?_congr : d.failure? event tree = c.failure? event tree := by
  induction tree with
  | nil => rfl
  | cons x rest ih =>
    have hx : d.ownFailure? event x = c.ownFailure? event x := by simp [ownFailure?, h x (by simp)]
    have hrest : d.failure? event rest = c.failure? event rest := ih fun y hy => h y (by simp [hy])
    unfold failure? at hrest ⊢
    rw [List.findSome?_cons, hx, hrest, List.findSome?_cons]

end Apart

theorem reached_congr {d : Conduct W} (h : ∀ b ∈ chain, b = a ∨ ∀ x ∈ b.tree, d.reaction x = c.reaction x)
    (hc : c.ends event a = false) (hd : d.ends event a = false) :
    d.reached event chain = c.reached event chain := by
  refine upToFirst_congr fun b hb => ?_
  rcases h b hb with rfl | hsame
  · rw [hc, hd]
  · rw [ends, endedBy?, failure?_congr hsame, ends, endedBy?]

end Conduct

/-- An event goes through a chain. It gets to one addon after the other up to the first whose tree
ends it, and in each tree it calls the handlers from the top up to the first that fails, each once. A
failure that does not end it is logged once. A refusal is passed on; in all other cases the event
ends well. Whatever an addon does that does not end the event, it gets to the same addons, and there
it calls the same handlers. -/
theorem event_way {c : Conduct W} {chain : List (Addon W)}
    (h : ∀ a ∈ chain, ∀ b ∈ a.tree, c.Describes event table b) (s : Scene W) :
    (triggerEvent event chain table s = match c.ending? event chain with
      | some (.setting f) => .error (.setting f) (c.scene event chain s)
      | _ => .ok () (c.scene event chain s)) ∧
    (∀ calls : Scene W → List (Addon W), (∀ a s, calls (c.effect a s) = calls s ++ [a]) →
      (∀ s r, calls (Scene.note s r) = calls s) →
        calls (after (triggerEvent event chain table) s) = calls s ++ c.calledIn event chain) ∧
    ((∀ a s, (c.effect a s).log = s.log) →
      (after (triggerEvent event chain table) s).log.map (·.2) =
        ((c.reached event chain).filterMap (c.logged? event)).reverse.map Conduct.errorRecord ++
          s.log.map (·.2)) ∧
    ∀ (d : Conduct W) (a : Addon W),
      (∀ b ∈ chain, b = a ∨ ∀ x ∈ b.tree, d.reaction x = c.reaction x) →
      c.ends event a = false → d.ends event a = false →
        d.reached event chain = c.reached event chain ∧
        ∀ b ∈ chain, b ≠ a → d.called event b.tree = c.called event b.tree := by
  have hevent := Conduct.triggerEvent_eq h s
  have hafter : after (triggerEvent event chain table) s = c.scene event chain s := by
    unfold after
    rw [hevent]
    split <;> rename_i heq <;> split at heq <;> cases heq <;> rfl
  refine ⟨hevent, fun calls heffect hnote => ?_, fun heffect => ?_, fun d a hsame hc hd => ?_⟩
  · rw [hafter]
    exact Conduct.record_scene heffect hnote chain s
  · rw [hafter]
    exact Conduct.log_scene heffect chain s
  · refine ⟨Conduct.reached_congr hsame hc hd, fun b hb hne => ?_⟩
    exact Conduct.called_congr ((hsame b hb).resolve_left hne)

end Dispatch

namespace Script

open Dispatch

variable {event : Event}

def reaction : Script → Reaction
  | note | suspend | awaitable => .returns
  | fail f | suspendAndFail f => .fails f
  | notCallable => .notCallable
  | absent => .absent

/-- What is noted of a call; one that is suspended is noted twice. -/
def notes (addon : String) (event : Event) : Script → List ScriptNote
  | note | fail _ | awaitable => [⟨addon, event, false⟩]
  | suspend | suspendAndFail _ => [⟨addon, event, false⟩, ⟨addon, event, true⟩]
  | notCallable | absent => []

theorem handler_does (addon : String) (event : Event) (script : Script) (table : List Setting) :
    Does table (script.handler addon event)
      (fun s => { s with world := script.notes addon event ++ s.world }) script.reaction := by
  cases script with
  | note | fail | suspend | suspendAndFail | awaitable => exact ⟨_, rfl, fun _ => rfl⟩
  | notCallable | absent => rfl

/-- The conduct of addons that have a script each. -/
def conduct (event : Event) (script : String → Script) : Conduct (List ScriptNote) where
  effect a s := { s with world := (script a.id).notes a.id event ++ s.world }
  reaction a := (script a.id).reaction

theorem conduct_describes {script : String → Script} {a : Addon (List ScriptNote)}
    (h : a.handler event = (script a.id).handler a.id event) (table : List Setting) :
    (conduct event script).Describes event table a := by
  unfold Conduct.Describes
  rw [h]
  exact handler_does a.id event (script a.id) table

def addon (script : String → Script) (id : String) (children : List (Addon (List ScriptNote))) :
    Addon (List ScriptNote) :=
  .mk id id [] (fun event => (script id).handler id event) children

/-- In the first tree a handler below the top fails, in the second one at the bottom halts the
event. -/
def sampleScript : String → Script
  | "second" => .fail (.foreign "ValueError" "broken")
  | "fourth" => .suspend
  | "fifth" => .absent
  | "sixth" => .fail (.halt "None")
  | _ => .note

def sampleChain : List (Addon (List ScriptNote)) :=
  [addon sampleScript "first" [addon sampleScript "second" [], addon sampleScript "third" []],
   addon sampleScript "fourth" [addon sampleScript "fifth" [addon sampleScript "sixth" []]],
   addon sampleScript "seventh" []]

theorem sampleChain_scripted :
    ∀ a ∈ sampleChain, ∀ b ∈ a.tree, b.handler event = (sampleScript b.id).handler b.id event := by
  simp [sampleChain, addon, Addon.tree, Addon.forest, Addon.handler, Addon.id]

/-- The failure is logged and skips the rest of its tree; the halt keeps the event from the last
addon. -/
theorem sample_event_way :
    (∀ a ∈ sampleChain, ∀ b ∈ a.tree,
      (conduct .running sampleScript).Describes .running [] b) ∧
    (∃ t, triggerEvent .running sampleChain [] ⟨0, [], []⟩ = .ok () t) ∧
    (after (triggerEvent .running sampleChain []) ⟨0, [], []⟩).log.map (·.2) =
      [Conduct.errorRecord (.foreign "ValueError" "broken")] ∧
    ((conduct .running sampleScript).calledIn .running sampleChain).map (·.id) =
      ["first", "second", "fourth", "sixth"] := by
  have hdescribes : ∀ a ∈ sampleChain, ∀ b ∈ a.tree,
      (conduct .running sampleScript).Describes .running [] b := fun a ha b hb =>
    conduct_describes (sampleChain_scripted a ha b hb) []
  obtain ⟨hevent, -, hlog, -⟩ := event_way hdescribes ⟨0, [], []⟩
  exact ⟨hdescribes, ⟨_, hevent⟩, hlog fun _ _ => rfl, by decide⟩

end Script
end Detour
