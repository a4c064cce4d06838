import Detour.Addon.Script
import Detour.Proofs.Chain.Flow

/-!
# Addons that have been removed

An addon that is removed is told so, but that need not be the last that it hears: an event that was
under way goes on through the chain as it was, and the addon may be below another one as well
(`Script.removed_is_called_again`). Where neither is the case, no handler of it is called any more
unless it is added again (`Traffic.removed_is_called_no_more`).
-/
namespace Detour

variable {W : Type} {R : Scene W → Scene W → Prop}

/-- The calls that are recorded have become more, and only by such as are allowed. -/
def Records (calls : Scene W → List String) (allowed : String → Prop) (s t : Scene W) : Prop :=
  ∃ added, calls t = calls s ++ added ∧ ∀ id ∈ added, allowed id

namespace Records

variable {calls : Scene W → List String} {allowed : String → Prop}

instance : IsPreorder (Scene W) (Records calls allowed) where
  refl s := ⟨[], by simp, by simp⟩
  trans s t u := by
    rintro ⟨first, ht, hfirst⟩ ⟨second, hu, hsecond⟩
    refine ⟨first ++ second, by rw [hu, ht, List.append_assoc], fun id hid => ?_⟩
    rcases List.mem_append.mp hid with hid | hid
    · exact hfirst id hid
    · exact hsecond id hid

theorem of_same {s t : Scene W} (h : calls t = calls s) : Records calls allowed s t :=
  ⟨[], by simp [h], by simp⟩

theorem mono {allowed' : String → Prop} (h : ∀ id, allowed id → allowed' id) {s t : Scene W}
    (hs : Records calls allowed s t) : Records calls allowed' s t := by
  obtain ⟨added, ht, hadded⟩ := hs
  exact ⟨added, ht, fun id hid => h id (hadded id hid)⟩

end Records

theorem Dispatch.HandlerWithin.mono {S : Scene W → Scene W → Prop} (h : ∀ s t, R s t → S s t)
    {handler : Handler W} (hr : HandlerWithin R handler) : HandlerWithin S handler := by
  cases handler with
  | absent | notCallable => trivial
  | plain run | awaitable run => exact fun table s => h _ _ (hr table s)
  | suspending start =>
    exact ⟨fun table s => h _ _ (hr.1 table s),
      fun table s t finish hs table' s' => h _ _ (hr.2 table s t finish hs table' s')⟩

namespace Addon

def ids (a : Addon W) : List String := a.tree.map (·.id)

/-- The addon and those below it are others, and record calls as their own. -/
def Spares (calls : Scene W → List String) (gone : List String) (a : Addon W) : Prop :=
  ∀ b ∈ a.tree, b.id ∉ gone ∧
    ∀ event, Dispatch.HandlerWithin (Records calls (· = b.id)) (b.handler event)

theorem Spares.within {calls : Scene W → List String} {gone : List String} {a : Addon W}
    (h : a.Spares calls gone) : a.Within (Records calls (· ∉ gone)) := by
  intro b hb event
  obtain ⟨hother, hown⟩ := h b hb
  exact (hown event).mono fun s t => Records.mono fun id hid => hid ▸ hother

end Addon

namespace Traffic

variable {calls : Scene W → List String} {a : Addon W} {t : Traffic W}

/-- An addon that could be removed has been told, is not in the chain, and is not known by name. -/
theorem remove_spec (h : ∃ y, Action.forgetAll a.tree (t.settings, t.stage) = .ok () y) :
    (t.remove a).stage.scene =
        after (Dispatch.invokeSync .done a.tree t.settings.table) t.stage.scene ∧
      (∀ b ∈ (t.remove a).stage.addons.chain, b ∈ t.stage.addons.chain ∧ b.id ∉ a.ids) ∧
      (∀ b ∈ a.tree, (t.remove a).stage.addons.contains b.name = false) ∧
      ∀ u ∈ (t.remove a).underway, ∃ v ∈ t.underway, u.turn = v.turn := by
  obtain ⟨⟨s, g⟩, hforget⟩ := h
  obtain ⟨hsettings, hscene, hchain, hnames⟩ := Action.forgetAll_spec hforget
  have hafter : after (Action.remove a) (t.settings, t.stage) =
      (s, { g with scene := after (Dispatch.invokeSync .done a.tree s.table) g.scene }) := by
    rw [Action.remove, after_bind_of_ok hforget, Action.after_onScene]
  dsimp only at hsettings hscene hchain hnames
  have hunknown : ∀ b ∈ a.tree, g.addons.contains b.name = false := by
    intro b hb
    by_contra hname
    exact (hnames b.name (by simpa using hname)).2 (List.mem_map_of_mem hb)
  subst hsettings
  unfold remove act
  rw [hafter, hscene]
  split
  · refine ⟨rfl, hchain, hunknown, fun u hu => ?_⟩
    obtain ⟨v, hv, rfl⟩ := List.mem_map.mp hu
    exact ⟨v, hv, rfl⟩
  · exact ⟨rfl, hchain, hunknown, fun u hu => ⟨u, hu, rfl⟩⟩

/-- An addon that is removed is told that it is done, with those below it, and is not known by name any
more. None of them is called afterwards, whatever events are sent or go on and whatever other addons
are added or removed. This holds if none of them is still to be called by an event under way, none is
also below another addon of the chain, and none is added once more. One of them may be removed once
more, as long as nothing of its name is added. -/
theorem removed_is_called_no_more (hnote : ∀ s r, calls (Scene.note s r) = calls s)
    (hforget : ∃ y, Action.forgetAll a.tree (t.settings, t.stage) = .ok () y)
    (hchain : ∀ b ∈ t.stage.addons.chain, b.id ∈ a.ids ∨ b.Spares calls a.ids)
    (hunderway : ∀ u ∈ t.underway, u.turn.Within (Records calls (· ∉ a.ids)))
    {moves : List (Move W)} (hadd : ∀ b, .add b ∈ moves → b.Spares calls a.ids)
    (hremove : ∀ b, .remove b ∈ moves → b.Spares calls a.ids ∨
      (∃ c ∈ a.tree, c.name = b.name) ∧ ∀ d, .add d ∈ moves → ∀ x ∈ d.tree, x.name ≠ b.name) :
    (t.remove a).stage.scene =
        after (Dispatch.invokeSync .done a.tree t.settings.table) t.stage.scene ∧
      (∀ b ∈ a.tree, (t.remove a).stage.addons.contains b.name = false) ∧
      Records calls (· ∉ a.ids) (t.remove a).stage.scene ((t.remove a).run moves).stage.scene := by
  obtain ⟨hdone, hleft, hunknown, hturns⟩ := remove_spec hforget
  have hwithin : (t.remove a).Within (Records calls (· ∉ a.ids)) := by
    refine ⟨fun b hb => ?_, fun u hu => ?_⟩
    · obtain ⟨hmem, hother⟩ := hleft b hb
      exact ((hchain b hmem).resolve_left hother).within
    · obtain ⟨v, hv, hturn⟩ := hturns u hu
      exact hturn ▸ hunderway v hv
  have hmoves : ∀ move ∈ moves, move.Within (Records calls (· ∉ a.ids))
      (fun name => ∃ d, .add d ∈ moves ∧ ∃ x ∈ d.tree, x.name = name)
      (t.remove a).stage.addons := by
    intro move hmove
    cases move with
    | send | proceed | update => trivial
    | add b => exact ⟨(hadd b hmove).within, fun x hx => ⟨b, hmove, x, hx, rfl⟩⟩
    | remove b =>
      refine (hremove b hmove).imp Addon.Spares.within ?_
      rintro ⟨⟨c, hc, hname⟩, hnew⟩
      refine ⟨hname ▸ hunknown c hc, ?_⟩
      rintro ⟨d, hd, x, hx, hsame⟩
      exact hnew d hd x hx hsame
  have hflows := flows_run (fun s r => .of_same (hnote s r)) hwithin
    (refl_of (AddonTable.Learns _) (t.remove a).stage.addons) hmoves
  exact ⟨hdone, hunknown, hflows.scene⟩

end Traffic

namespace Script

open Dispatch Traffic

def noted (s : Scene (List ScriptNote)) : List String := (s.world.map (·.addon)).reverse

theorem within_write (addon : String) (event : Event) (begun : Bool) (table : List Setting) :
    Within (Records noted (· = addon)) (write addon event begun table) :=
  within_modify fun s => ⟨[addon], by simp [noted], by simp⟩

/-- A handler does what noting a call does, however often. -/
theorem handler_within_of {S : Scene (List ScriptNote) → Scene (List ScriptNote) → Prop}
    [IsPreorder (Scene (List ScriptNote)) S] {addon : String} {event : Event}
    (hwrite : ∀ begun table, Within S (write addon event begun table)) (script : Script) :
    HandlerWithin S (script.handler addon event) := by
  have hfail : ∀ f table, Within S (noteAndFail addon event f table) :=
    fun f table => (hwrite false table).bind fun _ => within_throw f
  have hsuspend : ∀ work, (∀ table, Within S (work table)) →
      HandlerWithin S (suspendThen addon event work) := by
    refine fun work hwork => ⟨fun table => (hwrite true table).bind fun _ => within_pure _,
      fun table s t finish hs => ?_⟩
    cases hs
    exact hwork
  cases script with
  | note | awaitable => exact hwrite false
  | fail f => exact hfail f
  | suspend => exact hsuspend _ (hwrite false)
  | suspendAndFail f => exact hsuspend _ (hfail f)
  | notCallable | absent => trivial

theorem handler_within (addon : String) (event : Event) (script : Script) :
    HandlerWithin (Records noted (· = addon)) (script.handler addon event) :=
  handler_within_of (within_write addon event) script

def player (id : String) (script : Event → Script) (children : List (Addon (List ScriptNote))) :
    Addon (List ScriptNote) :=
  .mk id id [] (fun event => (script event).handler id event) children

theorem player_spares {id : String} {gone : List String} (h : id ∉ gone) (script : Event → Script) :
    (player id script []).Spares noted gone := by
  intro b hb
  obtain rfl : b = player id script [] := by simpa [player, Addon.tree, Addon.forest] using hb
  exact ⟨h, fun event => handler_within id event (script event)⟩

def quick : Event → Script
  | .running | .done => .note
  | _ => .absent

def slow : Event → Script
  | .running => .suspend
  | .done => .note
  | _ => .absent

def outer : Addon (List ScriptNote) := player "outer" quick [player "inner" quick []]

/-- An event is under way; behind the addon that it is at there is one that is slow. -/
def crossing : Traffic (List ScriptNote) where
  settings := .empty
  stage :=
    { addons :=
        { lookup := [("outer", outer), ("inner", player "inner" quick []),
            ("slow", player "slow" slow [])]
          chain := [outer, player "slow" slow []] }
      scene := ⟨0, [], []⟩ }
  underway := [⟨.waiting, true, .ready ⟨.running, [], [player "slow" slow []]⟩⟩]

def afterwards : List (Move (List ScriptNote)) :=
  [.proceed 0, .proceed 0, .add (player "new" quick []), .send .waiting .running, .proceed 0,
    .proceed 1, .remove (player "slow" slow []), .remove outer, .proceed 1]

/-- The event has left the addon that is removed behind, one that is sent later does not get to it, and
removing it once more does nothing. -/
theorem outer_is_called_no_more :
    (crossing.remove outer).stage.scene.world =
        [⟨"inner", .done, false⟩, ⟨"outer", .done, false⟩] ∧
      (∀ b ∈ outer.tree, (crossing.remove outer).stage.addons.contains b.name = false) ∧
      Records noted (· ∉ outer.ids) (crossing.remove outer).stage.scene
        ((crossing.remove outer).run afterwards).stage.scene := by
  have hslow : (player "slow" slow []).Spares noted outer.ids := player_spares (by decide) slow
  have hnew : (player "new" quick []).Spares noted outer.ids := player_spares (by decide) quick
  have hchain : ∀ b ∈ crossing.stage.addons.chain, b.id ∈ outer.ids ∨ b.Spares noted outer.ids := by
    intro b hb
    obtain rfl | rfl : b = outer ∨ b = player "slow" slow [] := by simpa [crossing] using hb
    · exact .inl (by decide)
    · exact .inr hslow
  have hunderway : ∀ u ∈ crossing.underway, u.turn.Within (Records noted (· ∉ outer.ids)) := by
    intro u hu
    obtain rfl := List.mem_singleton.mp hu
    exact fun b hb => hslow.within b (by simpa [Round.ahead, Addon.forest] using hb) .running
  have hadd : ∀ b, .add b ∈ afterwards → b = player "new" quick [] := by
    intro b hb
    simpa [afterwards] using hb
  have hremove : ∀ b, .remove b ∈ afterwards → b.Spares noted outer.ids ∨
      (∃ c ∈ outer.tree, c.name = b.name) ∧
        ∀ d, .add d ∈ afterwards → ∀ x ∈ d.tree, x.name ≠ b.name := by
    intro b hb
    obtain rfl | rfl : b = player "slow" slow [] ∨ b = outer := by simpa [afterwards] using hb
    · exact .inl hslow
    · refine .inr ⟨⟨outer, List.mem_cons_self, rfl⟩, fun d hd x hx => ?_⟩
      obtain rfl := hadd d hd
      obtain rfl : x = player "new" quick [] := by
        simpa [player, Addon.tree, Addon.forest] using hx
      decide
  obtain ⟨hdone, hunknown, hrecords⟩ := removed_is_called_no_more (fun _ _ => rfl) ⟨_, rfl⟩ hchain
    hunderway (fun b hb => hadd b hb ▸ hnew) hremove
  exact ⟨by rw [hdone]; rfl, hunknown, hrecords⟩

/-- An event under way goes on to an addon that has been removed in the meantime and told so. An addon
that is removed twice, being both in the chain and below another one, is called through that one. -/
theorem removed_is_called_again :
    (crossing.run [.remove (player "slow" slow []), .proceed 0, .proceed 0]).stage.scene.world =
        [⟨"slow", .running, true⟩, ⟨"slow", .done, false⟩] ∧
      ((⟨.empty, ⟨.empty, ⟨0, [], []⟩⟩, []⟩ : Traffic (List ScriptNote)).run
        [.add outer, .remove (player "inner" quick []), .add (player "inner" quick []),
          .remove (player "inner" quick []), .send .waiting .running, .proceed 0,
          .proceed 0]).stage.scene.world =
        [⟨"inner", .running, false⟩, ⟨"outer", .running, false⟩, ⟨"inner", .done, false⟩,
          ⟨"inner", .done, false⟩] :=
  ⟨rfl, rfl⟩

end Script
end Detour
