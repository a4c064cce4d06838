import Detour.Proofs.Engine.Turn
import Detour.Proofs.Sending

/-!
# What becomes of a navigation

A navigation that nothing comes between redirects its tab exactly if it is eligible
(`Navigation.Eligible`) and the stored rules send its URL somewhere (`World.SendsTo`). Nothing that
goes wrong on the way is raised; it only means that there is no redirect. Such a navigation is a look
and an answer one after the other (`Course.act_navigation`).
-/
namespace Detour

/-- What the store in use holds under a key, if it can be read. -/
def World.stored (w : World) (key : String) : Except Failure (Option Value) :=
  match w.rulesPath with
  | some p => ((Store.file p).entries w.files).map (Value.field? key)
  | none =>
    match w.memory.failure with
    | some f => .error f
    | none => .ok (Value.field? key w.memory.entries)

/-- Where the stored rules send a URL: the store can be read and holds a list, and the first entry of
the list that sends the URL anywhere sends it there. A tuple, which no document holds, counts as a
list. -/
def World.SendsTo (w : World) (key url target : String) : Prop :=
  ∃ vs, (w.stored key = .ok (some (.list vs)) ∨ w.stored key = .ok (some (.tuple vs))) ∧
    ∃ before v later, vs = before ++ v :: later ∧ Rule.Sends url v target ∧
      ∀ b ∈ before, ∀ t, ¬ Rule.Sends url b t

namespace Rules.Request

variable {w : World} {key : String}

theorem value_eq (w : World) (key : String) (default : Value) :
    (mk w.rulesPath key).value w default = (w.stored key).map (·.getD default) := by
  unfold value World.stored
  cases w.rulesPath with
  | some p => cases h : (Store.file p).entries w.files <;> simp [Store.get, h, Except.map]
  | none => cases w.memory.failure <;> simp [Store.get, Store.entries, Except.map]

/-- The rules that a reading finds send a URL where the stored ones do. -/
theorem targetOf_usable_iff (table : List Setting) {url target : String} :
    Rule.targetOf ((mk w.rulesPath key).usable table w) url = some target ↔
      w.SendsTo key url target := by
  have hempty : Rule.targetOf [] url = none := rfl
  unfold usable rules World.SendsTo
  rw [value_eq]
  cases hstored : w.stored key with
  | error f => simp [Except.map, bind, Except.bind, hempty]
  | ok found =>
    cases found with
    | none =>
      have hnone : Rule.targetOf ((Rule.readAll []).1.filter (·.enabled)) url = none := rfl
      simp [Except.map, bind, Except.bind, pure, Except.pure, hnone]
    | some v =>
      cases v with
      | list vs | tuple vs =>
        simp [Except.map, bind, Except.bind, pure, Except.pure, Rule.targetOf_readAll_eq_some_iff]
      | _ => simp [Except.map, bind, Except.bind, throw, throwThe, MonadExceptOf.throw, hempty]

theorem usable_countLookup (r : Rules.Request) (table : List Setting) (w : World) (guard : Guard) :
    r.usable table ({ w with guard } : World).countLookup = r.usable table w := by
  have hvalue : ∀ default,
      r.value ({ w with guard } : World).countLookup default = r.value w default := by
    intro default
    unfold value World.countLookup
    cases w.rulesPath <;> rfl
  unfold usable rules
  rw [hvalue]

end Rules.Request

namespace Dispatch

theorem triggerEvent_navigation {n : Navigation} {table : List Setting} {s t : Scene World}
    (h : invoke (.navigationCompleted n) [Chain.redirector] table s = .ok () t) :
    triggerEvent (.navigationCompleted n) Chain.core table s = .ok () t := by
  have hguarded : guarded (invoke (.navigationCompleted n) Chain.redirector.tree) table s =
      .ok .goesOn t := by
    have htree : Chain.redirector.tree = [Chain.redirector] := rfl
    simp [guarded, htree, h]
  unfold Chain.core
  rw [triggerEvent_of_absent rfl rfl, triggerEvent_of_absent rfl rfl, triggerEvent_of_absent rfl rfl,
    triggerEvent, bind_of_ok hguarded]
  exact triggerEvent_of_absent rfl rfl _ _ _

theorem triggerEvent_of_unasked {n : Navigation} {table : List Setting} {s t : Scene World}
    (h : Redirect.ask n table s = .ok none t) :
    triggerEvent (.navigationCompleted n) Chain.core table s = .ok () t := by
  have hstart : start (.navigationCompleted n) Chain.redirector table s = .ok none t :=
    bind_of_ok h
  refine triggerEvent_navigation ?_
  rw [invoke, bind_of_ok hstart]
  rfl

/-- One that waits for the rules gets them in the end, whether it has been suspended or not. -/
theorem triggerEvent_of_asked {n : Navigation} {table : List Setting} {s t u : Scene World}
    {r : Rules.Request} (h : Redirect.ask n table s = .ok (some r) t)
    (hfinish : Redirect.finish n r table t = .ok () u) :
    triggerEvent (.navigationCompleted n) Chain.core table s = .ok () u := by
  have hbegin : start (.navigationCompleted n) Chain.redirector table s =
      (if r.isHeld t.world = true then (pure (some (Redirect.finish n r)))
        else Redirect.finish n r table >>= fun _ => pure none) t := bind_of_ok h
  refine triggerEvent_navigation ?_
  cases hheld : r.isHeld t.world with
  | true =>
    rw [hheld, if_pos rfl] at hbegin
    rw [invoke, bind_of_ok hbegin]
    exact (bind_of_ok hfinish).trans rfl
  | false =>
    rw [hheld, if_neg Bool.false_ne_true, bind_of_ok hfinish] at hbegin
    rw [invoke, bind_of_ok hbegin]
    rfl

end Dispatch

/-- A navigation that nothing comes between takes its two moves one after the other. -/
theorem Course.act_navigation {c : Course} (hc : c.Sound) (n : Navigation) :
    (c.act (Action.triggerEvent (.navigationCompleted n))).stage =
      ((c.look n).answer c.waiting.length).stage := by
  obtain ⟨request, t, hask⟩ := ask_spec n c.settings.table c.scene
  have hlook := Action.onScene_of_ok (g := (c.settings, c.stage)) hask
  have hchain : c.stage.addons.chain = Chain.core := hc.chain
  have hstage : (c.look n).stage = { c.stage with scene := t } := by
    simp only [look, act, after_of_ok hlook]
  cases request with
  | none =>
    have hevent := Dispatch.triggerEvent_of_unasked hask
    rw [← hchain] at hevent
    have htrigger := Action.triggerEvent_of_ok (g := (c.settings, c.stage)) hevent
    have hrequest : c.request n = [] := by simp [Course.request, outcome, hlook]
    have hanswer : (c.look n).waiting[c.waiting.length]? = none := by simp [look, hrequest]
    simp only [answer, hanswer, act, after_of_ok htrigger, hstage]
  | some r =>
    obtain ⟨log, hfinish⟩ := finish_spec n r c.settings.table t
    have hevent := Dispatch.triggerEvent_of_asked hask hfinish
    rw [← hchain] at hevent
    have htrigger := Action.triggerEvent_of_ok (g := (c.settings, c.stage)) hevent
    have hrequest : c.request n = [(n, r)] := by simp [Course.request, outcome, hlook]
    have hanswer : (c.look n).waiting[c.waiting.length]? = some (n, r) := by simp [look, hrequest]
    have hsettings : (c.look n).settings = c.settings := by
      simp only [look, act, after_of_ok hlook]
    have hended := Action.onScene_of_ok (g := (c.settings, { c.stage with scene := t })) hfinish
    simp only [answer, hanswer, act, after_of_ok htrigger, hsettings, hstage, after_of_ok hended]

namespace World

def looked (w : World) (now : Rat) (tab : Id) : World :=
  ({ w with guard := (w.guard.isSuppressed now tab).2 } : World).countLookup

def visited (w : World) (table : List Setting) (now : Rat) (n : Navigation) : World :=
  if n.isWatched table && !(w.guard.isSuppressed now n.tab).1 then
    match Rule.targetOf ((Rules.Request.mk w.rulesPath
      (textIn table Rules.keySetting.name)).usable table w) n.url with
    | none => w.looked now n.tab
    | some url => (w.looked now n.tab).withRedirect ⟨n.tab, url, now⟩
  else w

variable {w : World} {now : Rat} {tab : Id}

theorem redirecting_looked (h : (w.guard.isSuppressed now tab).1 = false) (url : String) :
    (w.looked now tab).redirecting now tab url = (w.looked now tab).withRedirect ⟨tab, url, now⟩ := by
  have hguard : (w.looked now tab).guard.isSuppressed now tab =
      (false, (w.looked now tab).guard) :=
    Guard.isSuppressed_of_none (Guard.entryOf?_isSuppressed_of_false h) now
  simp only [redirecting, hguard]
  rfl

end World

/-- A navigation that nothing comes between is dealt with and never fails. -/
theorem navigation_spec (n : Navigation) (table : List Setting) (s : Scene World) :
    ∃ log, Dispatch.triggerEvent (.navigationCompleted n) Chain.core table s =
      .ok () { s with log, world := s.world.visited table s.millis n } := by
  cases hwatched : n.isWatched table with
  | false =>
    refine ⟨s.log, ?_⟩
    rw [Dispatch.triggerEvent_of_unasked (ask_of_ignored hwatched)]
    simp [World.visited, hwatched]
  | true =>
    cases hs : (s.world.guard.isSuppressed s.millis n.tab).1 with
    | true =>
      obtain ⟨log, hask⟩ := ask_of_suppressed hwatched hs
      refine ⟨log, ?_⟩
      rw [Dispatch.triggerEvent_of_unasked hask]
      simp [World.visited, hs]
    | false =>
      have hask := ask_of_free hwatched hs
      obtain ⟨log, hfinish⟩ := finish_spec n _ table _
      refine ⟨log, ?_⟩
      rw [Dispatch.triggerEvent_of_asked hask hfinish, Rules.Request.usable_countLookup]
      simp only [World.visited, hwatched, hs, Bool.not_false, Bool.and_self, if_true]
      cases Rule.targetOf ((Rules.Request.mk s.world.rulesPath
        (World.textIn table Rules.keySetting.name)).usable table s.world) n.url with
      | none => rfl
      | some url =>
        exact congrArg (fun world => EStateM.Result.ok () { s with log, world })
          (World.redirecting_looked hs url)

namespace Engine

variable {g : Settings × Stage World}

theorem settle_of_idle (h : g.2.scene.world.agenda.ready = []) : settle g = .ok () g := by
  have hworld : world g = .ok g.2.scene.world g := rfl
  rw [settle, bind_of_ok hworld, h]
  exact (bind_of_ok (step_of_idle h)).trans rfl

theorem settle_of_command {tab : Id} {url : String}
    (h : g.2.scene.world.agenda.ready = [.navigate tab url]) :
    ∃ log, settle g = .ok () (g.1, { g.2 with scene := { g.2.scene with
      log, world := g.2.scene.world.withCommand tab url [] } }) := by
  have hworld : world g = .ok g.2.scene.world g := rfl
  have hact := Action.after_onScene (fun _ => Redirect.navigate tab url) (withReady g [])
  obtain ⟨log, hnavigate⟩ := navigate_spec tab url (withReady g []).2.scene
  rw [after_of_ok hnavigate] at hact
  refine ⟨log, ?_⟩
  have hstep := step_of_ready h
  rw [runTask, onScene, hact] at hstep
  rw [settle, bind_of_ok hworld, h]
  refine (bind_of_ok hstep).trans ?_
  exact (bind_of_ok (step_of_idle rfl)).trans rfl

def visit (n : Navigation) : Engine Unit := do
  Action.triggerEvent (.navigationCompleted n)
  settle

def resting (settings : Settings) (lookup : List (String × Addon World)) (s : Scene World) :
    Settings × Stage World :=
  withReady (settings, ⟨⟨lookup, Chain.core⟩, s⟩) []

end Engine
/-- What a navigation needs before the rules are read: redirects are enabled, it is one of a main
frame to a web address, and its tab has not been redirected less than a cooldown ago. -/
structure Navigation.Eligible (n : Navigation) (table : List Setting) (s : Scene World) : Prop where
  enabled : (World.valueIn table "redirects_enabled").isTrue = true
  mainFrame : n.frame.toInt = 0
  web : ∃ scheme ∈ ["http://", "https://"], scheme.toList <+: Text.lowerChars n.url.toList
  free : ∀ e, s.world.guard.entryOf? n.tab = some e →
    (s.world.guard.cooldown : Rat) ≤ s.millis - e.recordedAt

/-- A navigation is eligible, and the stored rules send its URL to another one. -/
def Navigation.RedirectsTo (n : Navigation) (target : String) (table : List Setting)
    (s : Scene World) : Prop :=
  n.Eligible table s ∧ s.world.SendsTo (World.textIn table "rules_key") n.url target

variable {n : Navigation} {table : List Setting} {s : Scene World}

theorem Navigation.isWatched_iff : n.isWatched table = true ↔
    (World.valueIn table "redirects_enabled").isTrue = true ∧ n.frame.toInt = 0 ∧
      ∃ scheme ∈ ["http://", "https://"], scheme.toList <+: Text.lowerChars n.url.toList := by
  have hframe : n.isTopLevel = true ↔ n.frame.toInt = 0 := Id.same_iff
  have hweb : n.isWeb = true ↔
      ∃ scheme ∈ ["http://", "https://"], scheme.toList <+: Text.lowerChars n.url.toList := by
    simp only [isWeb, schemes, List.any_eq_true, List.isPrefixOf_iff_prefix]
  rw [isWatched, Bool.and_eq_true, Bool.and_eq_true, hframe, hweb]

theorem Navigation.eligible_iff : n.Eligible table s ↔
    n.isWatched table = true ∧ (s.world.guard.isSuppressed s.millis n.tab).1 = false := by
  rw [isWatched_iff, Guard.isSuppressed_eq_false_iff]
  constructor
  · rintro ⟨enabled, mainFrame, web, free⟩
    exact ⟨⟨enabled, mainFrame, web⟩, free⟩
  · rintro ⟨⟨enabled, mainFrame, web⟩, free⟩
    exact ⟨enabled, mainFrame, web, free⟩

theorem World.visited_of_not_eligible (h : ¬ n.Eligible table s) :
    s.world.visited table s.millis n = s.world := by
  refine if_neg fun hlooked => h (Navigation.eligible_iff.mpr ?_)
  simpa using hlooked

theorem World.visited_of_redirectsTo {target : String} (h : n.RedirectsTo target table s) :
    s.world.visited table s.millis n =
      (s.world.looked s.millis n.tab).withRedirect ⟨n.tab, target, s.millis⟩ := by
  obtain ⟨hwatched, hfree⟩ := Navigation.eligible_iff.mp h.1
  have htarget := (Rules.Request.targetOf_usable_iff table).mpr h.2
  simp only [visited, hwatched, hfree, Bool.not_false, Bool.and_self, if_true, Rules.keySetting,
    htarget]

theorem World.visited_of_vain (h : n.Eligible table s)
    (hvain : ∀ target, ¬ n.RedirectsTo target table s) :
    s.world.visited table s.millis n = s.world.looked s.millis n.tab := by
  obtain ⟨hwatched, hfree⟩ := Navigation.eligible_iff.mp h
  have htarget : Rule.targetOf ((Rules.Request.mk s.world.rulesPath
      (World.textIn table "rules_key")).usable table s.world) n.url = none := by
    refine Option.eq_none_iff_forall_ne_some.mpr fun target hfound => ?_
    exact hvain target ⟨h, (Rules.Request.targetOf_usable_iff table).mp hfound⟩
  simp only [visited, hwatched, hfree, Bool.not_false, Bool.and_self, if_true, Rules.keySetting,
    htarget]

/-- Rules send a URL to one other at most. -/
theorem World.SendsTo.unique {w : World} {key url target target' : String}
    (h : w.SendsTo key url target) (h' : w.SendsTo key url target') : target = target' := by
  have hfound := (Rules.Request.targetOf_usable_iff []).mpr h
  exact Option.some.inj (hfound.symm.trans ((Rules.Request.targetOf_usable_iff []).mpr h'))

theorem Navigation.eligible_resting (settings : Settings) (lookup : List (String × Addon World)) :
    n.Eligible table (Engine.resting settings lookup s).2.scene ↔ n.Eligible table s := by
  constructor
  · intro h
    exact ⟨h.enabled, h.mainFrame, h.web, h.free⟩
  · intro h
    exact ⟨h.enabled, h.mainFrame, h.web, h.free⟩

namespace Engine

/-- A navigation leaves the world as it was, or asks for the rules in vain, or has its tab
redirected. -/
theorem visit_cases (settings : Settings) (lookup : List (String × Addon World)) (s : Scene World)
    (n : Navigation) :
    ∃ t, visit n (resting settings lookup s) = .ok () (settings, ⟨⟨lookup, Chain.core⟩, t⟩) ∧
      (¬ n.Eligible settings.table s ∧ t.world = (resting settings lookup s).2.scene.world ∨
        n.Eligible settings.table s ∧
          (∀ target, ¬ n.RedirectsTo target settings.table s) ∧
          t.world = (resting settings lookup s).2.scene.world.looked s.millis n.tab ∨
        ∃ target, n.RedirectsTo target settings.table s ∧
          t.world = (((resting settings lookup s).2.scene.world.looked s.millis n.tab).withRedirect
            ⟨n.tab, target, s.millis⟩).withCommand n.tab target []) := by
  obtain ⟨log, hevent⟩ := navigation_spec n settings.table (resting settings lookup s).2.scene
  have htrigger := Action.triggerEvent_of_ok (g := resting settings lookup s) hevent
  have hvisit := bind_of_ok htrigger (k := fun _ => settle)
  by_cases heligible : n.Eligible settings.table s
  · have hresting := (Navigation.eligible_resting settings lookup).mpr heligible
    by_cases hsends : ∃ target, n.RedirectsTo target settings.table s
    · obtain ⟨target, htarget⟩ := hsends
      have hworld := World.visited_of_redirectsTo
        (n := n) (s := (resting settings lookup s).2.scene) ⟨hresting, htarget.2⟩
      have hready := congrArg (·.agenda.ready) hworld
      obtain ⟨log', hsettle⟩ := settle_of_command (g := (settings, ⟨⟨lookup, Chain.core⟩,
        { (resting settings lookup s).2.scene with
          log
          world := (resting settings lookup s).2.scene.world.visited settings.table s.millis n }⟩))
        hready
      refine ⟨_, hvisit.trans hsettle, .inr (.inr ⟨target, htarget, ?_⟩)⟩
      exact congrArg (·.withCommand n.tab target []) hworld
    · have hvain : ∀ target, ¬ n.RedirectsTo target settings.table s := not_exists.mp hsends
      have hworld := World.visited_of_vain hresting fun target h => hvain target ⟨heligible, h.2⟩
      refine ⟨_, hvisit.trans (settle_of_idle ?_), .inr (.inl ⟨heligible, hvain, hworld⟩)⟩
      exact congrArg (·.agenda.ready) hworld
  · have hworld := World.visited_of_not_eligible
      (mt (Navigation.eligible_resting settings lookup).mp heligible)
    refine ⟨_, hvisit.trans (settle_of_idle ?_), .inl ⟨heligible, hworld⟩⟩
    exact congrArg (·.agenda.ready) hworld

end Engine

/-- What a navigation means that nothing comes between. It never fails. It has one command given at
most, and has one given exactly if it is eligible and the stored rules send its URL somewhere; the
tab goes there, and the guard has it recorded. Otherwise the guard drops an expired entry of the tab
at most. It leaves the other tabs alone, and reads the store once if it is eligible and else not at
all. -/
theorem navigation_meaning (settings : Settings) (lookup : List (String × Addon World))
    (s : Scene World) (n : Navigation) :
    ∃ t, Engine.visit n (Engine.resting settings lookup s) =
        .ok () (settings, ⟨⟨lookup, Chain.core⟩, t⟩) ∧
      (t.world.issued = s.world.issued ∨
        ∃ target, t.world.issued = s.world.issued ++ [(n.tab, target)]) ∧
      (∀ target, t.world.issued = s.world.issued ++ [(n.tab, target)] ↔
        n.RedirectsTo target settings.table s) ∧
      (∀ target, n.RedirectsTo target settings.table s →
        t.world.guard.entryOf? n.tab = some ⟨n.tab, target, s.millis⟩) ∧
      ((∀ target, ¬ n.RedirectsTo target settings.table s) →
        t.world.guard = s.world.guard ∨
          t.world.guard = s.world.guard.clear n.tab ∧
            ∃ e, s.world.guard.entryOf? n.tab = some e ∧
              (s.world.guard.cooldown : Rat) ≤ s.millis - e.recordedAt) ∧
      (∀ other, n.tab.same other = false →
        t.world.guard.entryOf? other = s.world.guard.entryOf? other) ∧
      (n.Eligible settings.table s → t.world.lookups = s.world.lookups + 1) ∧
      (¬ n.Eligible settings.table s → t.world.lookups = s.world.lookups) := by
  obtain ⟨t, hvisit, hcases⟩ := Engine.visit_cases settings lookup s n
  refine ⟨t, hvisit, ?_⟩
  have hother : ∀ other, n.tab.same other = false →
      (s.world.guard.isSuppressed s.millis n.tab).2.entryOf? other = s.world.guard.entryOf? other :=
    fun other ho => Guard.entryOf?_isSuppressed_other _ _ ho
  rcases hcases with ⟨hno, hworld⟩ | ⟨heligible, hvain, hworld⟩ | ⟨url, hredirects, hworld⟩
  · have hissued : t.world.issued = s.world.issued := by rw [hworld]; rfl
    have hguard : t.world.guard = s.world.guard := by rw [hworld]; rfl
    refine ⟨.inl hissued, fun target => ?_, fun target h => absurd h.1 hno, fun _ => .inl hguard,
      fun other _ => by rw [hguard], fun h => absurd h hno, fun _ => by rw [hworld]; rfl⟩
    rw [hissued]
    exact ⟨fun h => absurd h.symm (by simp), fun h => absurd h.1 hno⟩
  · have hissued : t.world.issued = s.world.issued := by rw [hworld]; rfl
    have hguard : t.world.guard = (s.world.guard.isSuppressed s.millis n.tab).2 := by
      rw [hworld]; rfl
    have hfree := (Navigation.eligible_iff.mp heligible).2
    refine ⟨.inl hissued, fun target => ?_, fun target h => absurd h (hvain target), fun _ => ?_,
      fun other ho => by rw [hguard, hother other ho], fun _ => by rw [hworld]; rfl,
      fun h => absurd heligible h⟩
    · rw [hissued]
      exact ⟨fun h => absurd h.symm (by simp), fun h => absurd h (hvain target)⟩
    · rw [hguard]
      rcases Guard.isSuppressed_of_false hfree with ⟨hg, -⟩ | ⟨hg, e, he⟩
      · exact .inl hg
      · exact .inr ⟨hg, e, he, heligible.free e he⟩
  · have hissued : t.world.issued = s.world.issued ++ [(n.tab, url)] := by rw [hworld]; rfl
    have hguard : t.world.guard =
        (s.world.guard.isSuppressed s.millis n.tab).2.record s.millis n.tab url := by
      rw [hworld]; rfl
    have hunique : ∀ target, n.RedirectsTo target settings.table s → url = target :=
      fun target h => hredirects.2.unique h.2
    refine ⟨.inr ⟨url, hissued⟩, fun target => ?_, fun target h => ?_,
      fun h => absurd hredirects (h url), fun other ho => ?_, fun _ => by rw [hworld]; rfl,
      fun h => absurd hredirects.1 h⟩
    · rw [hissued]
      constructor
      · intro h
        obtain rfl : url = target := by simpa using h
        exact hredirects
      · intro h
        rw [hunique target h]
    · rw [hguard, ← hunique target h]
      exact Guard.entryOf?_record_same _ _ _ (Id.same_refl n.tab)
    · rw [hguard, Guard.entryOf?_record_other _ _ _ ho, hother other ho]

end Detour
