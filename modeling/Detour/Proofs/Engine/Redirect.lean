import Detour.Engine.Redirect
import Detour.Proofs.Effect
import Detour.Proofs.Guard.Entries
import Detour.Proofs.Rule.Selection

/-!
# The two halves of a redirect

What a navigation does up to where it waits for the rules (`ask_of_ignored`, `ask_of_suppressed`,
`ask_of_free`), and what it does with them (`finish_spec`). Neither half ever fails.
-/
namespace Detour

open Redirect

def Navigation.isWatched (n : Navigation) (table : List Setting) : Bool :=
  (World.valueIn table "redirects_enabled").isTrue && (n.isTopLevel && n.isWeb)

/-- The enabled rules that a reading finds; none if it fails. -/
def Rules.Request.usable [Yaml.Codec] (r : Rules.Request) (table : List Setting) (w : World) :
    List Rule :=
  match r.rules table w with
  | .error _ => []
  | .ok (rules, _) => rules.filter (·.enabled)

namespace World

def withRedirect (w : World) (e : GuardEntry) : World :=
  { w with guard := w.guard.record e.recordedAt e.tab e.url, redirects := e :: w.redirects
           agenda := w.agenda.spawn (.navigate e.tab e.url) }

/-- The world after a tab has been asked about, and redirected unless it is suppressed. -/
def redirecting (w : World) (now : Rat) (tab : Id) (url : String) : World :=
  let (answer, guard) := w.guard.isSuppressed now tab
  if answer then { w with guard } else { w with guard }.withRedirect ⟨tab, url, now⟩

variable {w : World} {now : Rat} {tab : Id}

theorem redirecting_of_suppressed (h : (w.guard.isSuppressed now tab).1 = true) (url : String) :
    w.redirecting now tab url = w := by
  simp [redirecting, h, Guard.isSuppressed_of_true h]

theorem redirecting_of_free (h : (w.guard.isSuppressed now tab).1 = false) (url : String) :
    w.redirecting now tab url =
      ({ w with guard := (w.guard.isSuppressed now tab).2 } : World).withRedirect
        ⟨tab, url, now⟩ := by
  simp [redirecting, h]

end World

variable {n : Navigation} {table : List Setting} {s : Scene World}

theorem noteAll_eq (s : Scene World) (rs : List LogRecord) :
    ∃ log, s.noteAll rs = { s with log } := by
  induction rs generalizing s with
  | nil => exact ⟨s.log, rfl⟩
  | cons r rs ih =>
    obtain ⟨log, h⟩ := ih (s.note r)
    exact ⟨log, h⟩

theorem log_spec (rs : List LogRecord) (s : Scene World) :
    ∃ log, World.log rs s = .ok () { s with log } := by
  obtain ⟨log, h⟩ := noteAll_eq s rs
  exact ⟨log, congrArg (EStateM.Result.ok ()) h⟩

theorem suppressed_spec (tab : Id) (s : Scene World) :
    suppressed tab s = .ok (s.world.guard.isSuppressed s.millis tab).1
      { s with world :=
        { s.world with guard := (s.world.guard.isSuppressed s.millis tab).2 } } := rfl

theorem ask_of_ignored (h : n.isWatched table = false) : ask n table s = .ok none s := by
  unfold Navigation.isWatched at h
  unfold ask
  cases henabled : (World.valueIn table "redirects_enabled").isTrue with
  | false => rfl
  | true =>
    have hkind : (n.isTopLevel && n.isWeb) = false := by simpa [henabled] using h
    simp [hkind, pure, EStateM.pure]

/-- A navigation that is looked at asks whether its tab is suppressed, and then for the rules. -/
theorem ask_of_watched (h : n.isWatched table = true) :
    ask n table = (suppressed n.tab >>= fun answer =>
      if answer then do
        World.log [.about Level.debug n.tab ("Suppressed, recently redirected: " ++ n.url)]
        return none
      else do return some (← Rules.begin table)) := by
  obtain ⟨henabled, hkind⟩ := Bool.and_eq_true_iff.mp h
  simp only [ask, henabled, hkind, Bool.not_true, Bool.false_eq_true, if_false]

theorem ask_of_suppressed (h : n.isWatched table = true)
    (hs : (s.world.guard.isSuppressed s.millis n.tab).1 = true) :
    ∃ log, ask n table s = .ok none { s with log } := by
  obtain ⟨log, hlog⟩ :=
    log_spec [.about Level.debug n.tab ("Suppressed, recently redirected: " ++ n.url)] s
  refine ⟨log, ?_⟩
  have hasked := suppressed_spec n.tab s
  rw [hs, Guard.isSuppressed_of_true hs] at hasked
  rw [ask_of_watched h, bind_of_ok hasked, if_pos rfl, bind_of_ok hlog]
  rfl

theorem ask_of_free (h : n.isWatched table = true)
    (hs : (s.world.guard.isSuppressed s.millis n.tab).1 = false) :
    ask n table s = .ok
      (some ⟨s.world.rulesPath, World.textIn table Rules.keySetting.name⟩)
      { s with world :=
        ({ s.world with guard := (s.world.guard.isSuppressed s.millis n.tab).2 } :
          World).countLookup } := by
  have hasked := suppressed_spec n.tab s
  rw [hs] at hasked
  rw [ask_of_watched h, bind_of_ok hasked, if_neg Bool.false_ne_true]
  rfl

theorem ask_spec (n : Navigation) (table : List Setting) (s : Scene World) :
    ∃ r t, ask n table s = .ok r t := by
  cases hwatched : n.isWatched table with
  | false => exact ⟨none, s, ask_of_ignored hwatched⟩
  | true =>
    cases hs : (s.world.guard.isSuppressed s.millis n.tab).1 with
    | true =>
      obtain ⟨log, hask⟩ := ask_of_suppressed hwatched hs
      exact ⟨none, _, hask⟩
    | false => exact ⟨_, _, ask_of_free hwatched hs⟩

theorem finishEnabled_spec [Yaml.Codec] (r : Rules.Request) (table : List Setting)
    (s : Scene World) :
    ∃ log, r.finishEnabled table s = .ok (r.usable table s.world) { s with log } := by
  unfold Rules.Request.finishEnabled Rules.Request.usable
  rw [get_bind]
  cases r.rules table s.world with
  | error f =>
    obtain ⟨log, hlog⟩ :=
      log_spec [.plain Level.warning ("Cannot load redirect rules: " ++ f.described)] s
    exact ⟨log, bind_of_ok hlog⟩
  | ok found =>
    obtain ⟨rules, skipped⟩ := found
    obtain ⟨log, hlog⟩ := log_spec (skipped.map fun x => .plain Level.warning x.message) s
    exact ⟨log, bind_of_ok hlog⟩

theorem record_spec (tab : Id) (url : String) (s : Scene World) :
    record tab url s = .ok ()
      { s with world := s.world.withRedirect ⟨tab, url, s.millis⟩ } := rfl

theorem redirect_spec (n : Navigation) (r : Rule) (s : Scene World) :
    ∃ log, redirect n r s =
      .ok () { s with log, world := s.world.redirecting s.millis n.tab r.target } := by
  have hasked := suppressed_spec n.tab s
  cases hs : (s.world.guard.isSuppressed s.millis n.tab).1 with
  | true =>
    refine ⟨s.log, ?_⟩
    rw [hs, Guard.isSuppressed_of_true hs] at hasked
    rw [redirect, bind_of_ok hasked, World.redirecting_of_suppressed hs]
    rfl
  | false =>
    rw [hs] at hasked
    obtain ⟨log, hlog⟩ := log_spec
      [.about Level.alert n.tab s!"Rule \"{r.name}\" matched: {n.url} -> {r.target}"]
      { s with world := { s.world with guard := (s.world.guard.isSuppressed s.millis n.tab).2 } }
    refine ⟨log, ?_⟩
    rw [redirect, bind_of_ok hasked, World.redirecting_of_free hs]
    exact (bind_of_ok hlog).trans (record_spec _ _ _)

/-- The tab is redirected by the first rule that matches, unless it is suppressed by now. -/
theorem apply_spec (n : Navigation) (rules : List Rule) (s : Scene World) :
    ∃ log, apply n rules s = .ok () { s with log, world := match Rule.targetOf rules n.url with
      | none => s.world
      | some url => s.world.redirecting s.millis n.tab url } := by
  unfold apply Rule.targetOf
  cases hselect : Rule.select (some n.url) rules with
  | mk found notices =>
    obtain ⟨log, hlog⟩ :=
      log_spec (notices.map fun x => .plain Level.warning x.message) s
    simp only
    rw [bind_of_ok hlog]
    cases found with
    | none => exact ⟨log, rfl⟩
    | some r => exact redirect_spec n r { s with log }

/-- A navigation that gets the rules redirects its tab at most. -/
theorem finish_spec (n : Navigation) (r : Rules.Request) (table : List Setting) (s : Scene World) :
    ∃ log, finish n r table s = .ok ()
      { s with log, world := match Rule.targetOf (r.usable table s.world) n.url with
        | none => s.world
        | some url => s.world.redirecting s.millis n.tab url } := by
  obtain ⟨log, hrules⟩ := finishEnabled_spec r table s
  obtain ⟨log', happly⟩ := apply_spec n (r.usable table s.world) { s with log }
  exact ⟨log', (bind_of_ok hrules).trans happly⟩

end Detour
