import Detour.Engine.Chain
import Detour.Proofs.Sending
import Mathlib.Data.Rat.Cast.Order

/-!
# Changes of settings, as the addons take them

Three addons keep something of their settings: the loop guard its cooldown, the rules their file,
and the cleanup the period of its alarm. A change is taken over by all of them if it is acceptable
(`Chain.configure_of_acceptable`). If it is not, some addon refuses it when those before it have
taken it over (`Chain.configure_of_unacceptable`).
-/
namespace Detour

open Dispatch World

theorem Period.isPositive_whole {n : Int} : (Period.whole n).isPositive = true ↔ 0 < n := by
  simp [isPositive, seconds?, toValue, Value.toRat?, Value.toInt?]

def Alarms.Rings (a : Alarms) (name : String) (period : Period) : Prop :=
  ∀ p, (name, p) ∈ a.periods ↔ p = period

theorem Alarms.create_spec {period : Period} (h : period.isPositive = true) (a : Alarms)
    (name : String) :
    ∃ alarms task, a.create name period = some (alarms, task) ∧ alarms.Rings name period := by
  have hrings : ∀ alarms : Alarms,
      alarms.periods = a.periods.filter (·.1 != name) ++ [(name, period)] →
      alarms.Rings name period := by
    intro alarms hperiods p
    simp [hperiods]
  unfold create
  rw [if_neg (by simp [h])]
  dsimp only
  split
  · exact ⟨_, _, rfl, hrings _ rfl⟩
  · exact ⟨_, _, rfl, hrings _ rfl⟩

namespace Chain

variable {names : List String} {table : List Setting} {s : Scene World}

theorem createAlarm_spec {period : Period} (h : period.isPositive = true) (name : String)
    (s : Scene World) :
    ∃ alarms agenda, createAlarm name period s =
        .ok () { s with world := { s.world with alarms, agenda } } ∧ alarms.Rings name period := by
  obtain ⟨alarms, task, hcreate, hrings⟩ := Alarms.create_spec h s.world.alarms name
  refine ⟨alarms, task.toList.foldl (fun a t => a.spawn (.alarm t))
    (s.world.agenda.cancel (isStale alarms)), ?_, hrings⟩
  rw [createAlarm, get_bind, hcreate]
  rfl

theorem scheduleCleanup_spec (h : 0 < wholeIn table intervalSetting.name) (s : Scene World) :
    ∃ alarms agenda, scheduleCleanup table s =
        .ok () { s with world := { s.world with alarms, agenda, cleanupScheduled := true } } ∧
      alarms.Rings cleanupAlarm (.whole (wholeIn table intervalSetting.name)) := by
  obtain ⟨alarms, agenda, hcreate, hrings⟩ :=
    createAlarm_spec (Period.isPositive_whole.mpr h) cleanupAlarm s
  exact ⟨alarms, agenda, bind_of_ok hcreate, hrings⟩

theorem requirePositive_of_positive {d : Declaration} (h : 0 < wholeIn table d.name)
    (s : Scene World) : requirePositive d table s = .ok (wholeIn table d.name) s := by
  simp [requirePositive, not_le.mpr h, pure, EStateM.pure]

theorem requirePositive_of_not_positive {d : Declaration} (h : ¬ 0 < wholeIn table d.name)
    (s : Scene World) :
    requirePositive d table s =
      .error (.setting (.notPositive d.name (wholeIn table d.name))) s := by
  simp only [requirePositive, not_lt.mp h, if_true]
  rfl

theorem invokeSync_loopGuard (names : List String) (table : List Setting) :
    invokeSync (.configure names) loopGuard.tree table =
      if names.contains cooldownSetting.name then do
        let cooldown ← requirePositive cooldownSetting table
        change fun w => w.mapGuard fun g => { g with cooldown }
      else pure () :=
  invokeSync_singleton (.configure names) loopGuard table

/-- The world with the cooldown that the settings say, if it is named. -/
def guarding (names : List String) (table : List Setting) (w : World) : World :=
  w.mapGuard fun g => { g with
    cooldown := if names.contains cooldownSetting.name then wholeIn table cooldownSetting.name
      else g.cooldown }

theorem cooldown_guarding (names : List String) (table : List Setting) (w : World) :
    (guarding names table w).guard.cooldown =
      if names.contains cooldownSetting.name then wholeIn table cooldownSetting.name
      else w.guard.cooldown := rfl

theorem loopGuard_takes
    (h : names.contains cooldownSetting.name = true → 0 < wholeIn table cooldownSetting.name)
    (s : Scene World) :
    guarded (invokeSync (.configure names) loopGuard.tree) table s =
      .ok .goesOn { s with world := guarding names table s.world } := by
  refine guarded_of_ok ?_
  rw [invokeSync_loopGuard, guarding]
  cases hnames : names.contains cooldownSetting.name with
  | true =>
    rw [if_pos rfl, bind_of_ok (requirePositive_of_positive (h hnames) s)]
    rfl
  | false => rfl

theorem loopGuard_refuses (hnames : names.contains cooldownSetting.name = true)
    (h : ¬ 0 < wholeIn table cooldownSetting.name) (s : Scene World) :
    ∃ f, invokeSync (.configure names) loopGuard.tree table s = .error (.setting f) s := by
  rw [invokeSync_loopGuard, if_pos hnames, bind_of_error (requirePositive_of_not_positive h s)]
  exact ⟨_, rfl⟩

theorem invokeSync_ruleStore (names : List String) (table : List Setting) :
    invokeSync (.configure names) ruleStore.tree table = Rules.configure names table :=
  invokeSync_singleton (.configure names) ruleStore table

/-- The file that rules are read from after one has been named; the old one if the path of the new
one cannot be made out. -/
def rulesPathAfter (homes : Path.Homes) (text : String) (old : Option Path) : Option Path :=
  if text = "" then none
  else
    match Store.atPath homes text with
    | .ok (.file p) => some p
    | _ => old

theorem rulesPathAfter_idem (homes : Path.Homes) (text : String) (old : Option Path) :
    rulesPathAfter homes text (rulesPathAfter homes text old) = rulesPathAfter homes text old := by
  unfold rulesPathAfter
  split
  · rfl
  · cases Store.atPath homes text with
    | error f => rfl
    | ok store => cases store <;> rfl

/-- A file for the rules is taken, or it is in the home directory of a user who is not known. -/
theorem useFile_cases (text : String) (s : Scene World) :
    Rules.useFile text s = .ok () { s with world := { s.world with
        rulesPath := rulesPathAfter s.world.files.homes text s.world.rulesPath } } ∨
      Rules.useFile text s = .error .noHome s ∧
        rulesPathAfter s.world.files.homes text s.world.rulesPath = s.world.rulesPath := by
  unfold Rules.useFile
  split
  · exact .inl rfl
  · next hempty =>
    rw [get_bind, rulesPathAfter, if_neg hempty, Store.atPath]
    cases (Path.ofString text).expandUser? s.world.files.homes with
    | some p => exact .inl rfl
    | none => exact .inr ⟨rfl, rfl⟩

theorem configure_rules
    (h : names.contains Rules.keySetting.name = true → textIn table Rules.keySetting.name ≠ "") :
    invokeSync (.configure names) ruleStore.tree table =
      if names.contains Rules.fileSetting.name then
        Rules.useFile (textIn table Rules.fileSetting.name)
      else pure () := by
  have hkey : (names.contains Rules.keySetting.name &&
      decide (textIn table Rules.keySetting.name = "")) = false := by
    cases hnames : names.contains Rules.keySetting.name with
    | true => simpa using h hnames
    | false => rfl
  rw [invokeSync_ruleStore]
  unfold Rules.configure
  rw [hkey]
  rfl

theorem ruleStore_takes
    (h : names.contains Rules.keySetting.name = true → textIn table Rules.keySetting.name ≠ "")
    (s : Scene World) :
    ∃ t, guarded (invokeSync (.configure names) ruleStore.tree) table s = .ok .goesOn t ∧
      t.world = { s.world with
        rulesPath := if names.contains Rules.fileSetting.name then
            rulesPathAfter s.world.files.homes (textIn table Rules.fileSetting.name) s.world.rulesPath
          else s.world.rulesPath } := by
  have hinvoke := configure_rules h
  cases hnames : names.contains Rules.fileSetting.name with
  | false =>
    rw [hnames] at hinvoke
    exact ⟨s, guarded_of_ok (congrFun hinvoke s), rfl⟩
  | true =>
    rw [hnames] at hinvoke
    rcases useFile_cases (textIn table Rules.fileSetting.name) s with huse | ⟨huse, hpath⟩
    · exact ⟨_, guarded_of_ok ((congrFun hinvoke s).trans huse), rfl⟩
    · refine ⟨_, guarded_of_logged ((congrFun hinvoke s).trans huse) rfl, ?_⟩
      rw [if_pos rfl, hpath]
      rfl

theorem ruleStore_refuses (hnames : names.contains Rules.keySetting.name = true)
    (h : textIn table Rules.keySetting.name = "") (s : Scene World) :
    ∃ f, invokeSync (.configure names) ruleStore.tree table s = .error (.setting f) s := by
  have hkey : (names.contains Rules.keySetting.name &&
      decide (textIn table Rules.keySetting.name = "")) = true := by
    rw [hnames, h]
    rfl
  refine ⟨.emptyKey, ?_⟩
  rw [invokeSync_ruleStore, Rules.configure, if_pos hkey]
  rfl

theorem invokeSync_cleanup (names : List String) (table : List Setting) :
    invokeSync (.configure names) cleanup.tree table =
      if names.contains intervalSetting.name then do
        let _ ← requirePositive intervalSetting table
        if (← get).world.cleanupScheduled then scheduleCleanup table
      else pure () :=
  invokeSync_singleton (.configure names) cleanup table

/-- The cleanup takes over a new interval that is positive, by a new alarm if it has one. -/
theorem cleanup_takes
    (h : names.contains intervalSetting.name = true → 0 < wholeIn table intervalSetting.name)
    (s : Scene World) :
    ∃ t alarms agenda,
      guarded (invokeSync (.configure names) cleanup.tree) table s = .ok .goesOn t ∧
      t.world = { s.world with alarms, agenda } ∧
      if names.contains intervalSetting.name = true ∧ s.world.cleanupScheduled = true then
        alarms.Rings cleanupAlarm (.whole (wholeIn table intervalSetting.name))
      else alarms = s.world.alarms ∧ agenda = s.world.agenda := by
  have hinvoke := invokeSync_cleanup names table
  cases hnames : names.contains intervalSetting.name with
  | false =>
    rw [hnames] at hinvoke
    exact ⟨s, _, _, guarded_of_ok (congrFun hinvoke s), rfl, rfl, rfl⟩
  | true =>
    have hpositive := h hnames
    rw [hnames, if_pos rfl] at hinvoke
    have hgo : invokeSync (.configure names) cleanup.tree table s =
        (if s.world.cleanupScheduled then scheduleCleanup table else pure ()) s := by
      rw [hinvoke, bind_of_ok (requirePositive_of_positive hpositive s), get_bind]
    cases hscheduled : s.world.cleanupScheduled with
    | false =>
      rw [hscheduled] at hgo
      exact ⟨s, _, _, guarded_of_ok hgo, rfl, rfl, rfl⟩
    | true =>
      rw [hscheduled, if_pos rfl] at hgo
      obtain ⟨alarms, agenda, hschedule, hrings⟩ := scheduleCleanup_spec hpositive s
      rw [← hscheduled] at hschedule
      exact ⟨_, alarms, agenda, guarded_of_ok (hgo.trans hschedule), rfl, hrings⟩

theorem cleanup_refuses (hnames : names.contains intervalSetting.name = true)
    (h : ¬ 0 < wholeIn table intervalSetting.name) (s : Scene World) :
    ∃ f, invokeSync (.configure names) cleanup.tree table s = .error (.setting f) s := by
  rw [invokeSync_cleanup, if_pos hnames, bind_of_error (requirePositive_of_not_positive h s)]
  exact ⟨_, rfl⟩

/-- Whether no addon refuses the values of the named settings. -/
structure Acceptable (names : List String) (table : List Setting) : Prop where
  cooldown : names.contains cooldownSetting.name = true → 0 < wholeIn table cooldownSetting.name
  key : names.contains Rules.keySetting.name = true → textIn table Rules.keySetting.name ≠ ""
  interval : names.contains intervalSetting.name = true → 0 < wholeIn table intervalSetting.name

/-- The cooldown, the file of the rules and the alarm are what the settings say, but perhaps for the
named settings. -/
structure Copied (names : List String) (table : List Setting) (w : World) : Prop where
  cooldown : names.contains cooldownSetting.name = false →
    w.guard.cooldown = wholeIn table cooldownSetting.name
  /-- To be told of the file would change nothing. -/
  file : names.contains Rules.fileSetting.name = false →
    rulesPathAfter w.files.homes (textIn table Rules.fileSetting.name) w.rulesPath = w.rulesPath
  alarm : names.contains intervalSetting.name = false → w.cleanupScheduled = true →
    w.alarms.Rings cleanupAlarm (.whole (wholeIn table intervalSetting.name))

section Unnamed

variable {table' : List Setting} (hsame : ∀ name, names.contains name = false →
  valueIn table' name = valueIn table name)

include hsame

theorem wholeIn_of_same {name : String} (h : names.contains name = false) :
    wholeIn table' name = wholeIn table name := by
  unfold wholeIn
  rw [hsame name h]

theorem textIn_of_same {name : String} (h : names.contains name = false) :
    textIn table' name = textIn table name := by
  unfold textIn
  rw [hsame name h]

/-- Where all old values are acceptable, all new ones are if those that are named are. -/
theorem Acceptable.of_named (hall : ∀ names, Acceptable names table)
    (h : Acceptable names table') (others : List String) : Acceptable others table' := by
  refine ⟨fun _ => ?_, fun _ => ?_, fun _ => ?_⟩
  · cases hnames : names.contains cooldownSetting.name with
    | true => exact h.cooldown hnames
    | false =>
      rw [wholeIn_of_same hsame hnames]
      exact (hall [cooldownSetting.name]).cooldown rfl
  · cases hnames : names.contains Rules.keySetting.name with
    | true => exact h.key hnames
    | false =>
      rw [textIn_of_same hsame hnames]
      exact (hall [Rules.keySetting.name]).key rfl
  · cases hnames : names.contains intervalSetting.name with
    | true => exact h.interval hnames
    | false =>
      rw [wholeIn_of_same hsame hnames]
      exact (hall [intervalSetting.name]).interval rfl

/-- What is not named is as the new values say if it was as the old ones did. -/
theorem Copied.of_same {w : World} (h : Copied [] table w) : Copied names table' w := by
  refine ⟨fun hnames => ?_, fun hnames => ?_, fun hnames => ?_⟩
  · rw [wholeIn_of_same hsame hnames]
    exact h.cooldown rfl
  · rw [textIn_of_same hsame hnames]
    exact h.file rfl
  · rw [wholeIn_of_same hsame hnames]
    exact h.alarm rfl

end Unnamed

namespace Copied

variable {w : World} {alarms : Alarms} {agenda : Agenda Task}

/-- A cooldown that is named may change. -/
theorem guarding {table' : List Setting} (hc : Copied names table' w) (table : List Setting) :
    Copied names table' (Chain.guarding names table w) := by
  refine ⟨fun hnames => ?_, hc.file, hc.alarm⟩
  rw [cooldown_guarding, hnames]
  exact hc.cooldown hnames

/-- Once the named ones are taken over, everything is as the settings say. -/
theorem of_taken (hc : Copied names table w)
    (halarms : if names.contains intervalSetting.name = true ∧ w.cleanupScheduled = true then
        alarms.Rings cleanupAlarm (.whole (wholeIn table intervalSetting.name))
      else alarms = w.alarms ∧ agenda = w.agenda) :
    Copied [] table { Chain.guarding names table w with
      rulesPath := if names.contains Rules.fileSetting.name then
          rulesPathAfter w.files.homes (textIn table Rules.fileSetting.name) w.rulesPath
        else w.rulesPath
      alarms, agenda } := by
  refine ⟨fun _ => ?_, fun _ => ?_, fun _ hscheduled => ?_⟩
  · change (Chain.guarding names table w).guard.cooldown = _
    rw [cooldown_guarding]
    cases hnames : names.contains cooldownSetting.name with
    | true => rfl
    | false => exact hc.cooldown hnames
  · cases hnames : names.contains Rules.fileSetting.name with
    | true => exact rulesPathAfter_idem _ _ _
    | false => exact hc.file hnames
  · have hscheduled : w.cleanupScheduled = true := hscheduled
    rw [hscheduled] at halarms
    cases hnames : names.contains intervalSetting.name with
    | true =>
      rw [hnames] at halarms
      exact halarms
    | false =>
      rw [hnames] at halarms
      obtain ⟨rfl, -⟩ : alarms = w.alarms ∧ agenda = w.agenda := halarms
      exact hc.alarm hnames hscheduled

end Copied

theorem ignores_alarms (names : List String) : Ignores (.configure names) alarms :=
  ignores_of_absent rfl rfl

theorem ignores_redirector (names : List String) : Ignores (.configure names) redirector :=
  ignores_of_absent rfl rfl

theorem ignores_loopGuard (h : names.contains cooldownSetting.name = false) :
    Ignores (.configure names) loopGuard := by
  intro table s
  rw [loopGuard_takes (fun hnames => by rw [h] at hnames; cases hnames), guarding, h]
  rfl

theorem ignores_ruleStore (hkey : names.contains Rules.keySetting.name = false)
    (hfile : names.contains Rules.fileSetting.name = false) :
    Ignores (.configure names) ruleStore := by
  intro table s
  have hinvoke : invokeSync (.configure names) ruleStore.tree table = _ :=
    configure_rules fun h => by rw [hkey] at h; cases h
  rw [hfile] at hinvoke
  exact guarded_of_ok (congrFun hinvoke s)

theorem ignores_cleanup (h : names.contains intervalSetting.name = false) :
    Ignores (.configure names) cleanup := by
  intro table s
  have hinvoke := invokeSync_cleanup names table
  rw [h] at hinvoke
  exact guarded_of_ok (congrFun hinvoke s)

theorem trigger_core (names : List String) (table : List Setting) (s : Scene World) :
    trigger (.configure names) core table s =
      trigger (.configure names) [loopGuard, ruleStore, redirector, cleanup] table s :=
  trigger_of_goesOn (ignores_alarms names table s) _

theorem configure_of_acceptable (h : Acceptable names table) (hc : Copied names table s.world) :
    ∃ t, trigger (.configure names) core table s = .ok () t ∧ Copied [] table t.world := by
  have hguard := loopGuard_takes h.cooldown s
  obtain ⟨t, hrules, htworld⟩ :=
    ruleStore_takes h.key { s with world := guarding names table s.world }
  obtain ⟨u, alarms, agenda, hcleanup, huworld, halarms⟩ := cleanup_takes h.interval t
  refine ⟨u, ?_, ?_⟩
  · rw [trigger_core, trigger_of_goesOn hguard, trigger_of_goesOn hrules,
      trigger_of_goesOn (ignores_redirector names table t), trigger_of_goesOn hcleanup]
    rfl
  · rw [htworld] at halarms
    rw [huworld, htworld]
    exact hc.of_taken halarms

/-- A change that is not is refused, and what is not named stays as it is. -/
theorem configure_of_unacceptable (h : ¬ Acceptable names table) (s : Scene World) :
    ∃ f t, trigger (.configure names) core table s = .error (.setting f) t ∧
      ∀ table', Copied names table' s.world → Copied names table' t.world := by
  by_cases hcooldown :
      names.contains cooldownSetting.name = true → 0 < wholeIn table cooldownSetting.name
  · have hguard := trigger_of_goesOn (loopGuard_takes hcooldown s) [ruleStore, redirector, cleanup]
    by_cases hkey :
        names.contains Rules.keySetting.name = true → textIn table Rules.keySetting.name ≠ ""
    · obtain ⟨t, hrules, htworld⟩ :=
        ruleStore_takes hkey { s with world := guarding names table s.world }
      have hinterval := Classical.not_imp.mp fun hinterval => h ⟨hcooldown, hkey, hinterval⟩
      obtain ⟨f, hrefused⟩ := cleanup_refuses hinterval.1 hinterval.2 t
      refine ⟨f, t, ?_, fun table' hc => ?_⟩
      · rw [trigger_core, hguard, trigger_of_goesOn hrules,
          trigger_of_goesOn (ignores_redirector names table t), trigger_of_refusal hrefused]
      · rw [htworld]
        refine ⟨(hc.guarding table).cooldown, fun hnames => ?_, (hc.guarding table).alarm⟩
        rw [hnames]
        exact hc.file hnames
    · obtain ⟨hnames, hnot⟩ := Classical.not_imp.mp hkey
      obtain ⟨f, hrefused⟩ := ruleStore_refuses hnames (not_not.mp hnot)
        { s with world := guarding names table s.world }
      exact ⟨f, _, (trigger_core names table s).trans (hguard.trans (trigger_of_refusal hrefused _)),
        fun table' hc => hc.guarding table⟩
  · obtain ⟨hnames, hnot⟩ := Classical.not_imp.mp hcooldown
    obtain ⟨f, hrefused⟩ := loopGuard_refuses hnames hnot s
    exact ⟨f, s, (trigger_core names table s).trans (trigger_of_refusal hrefused _), fun _ => id⟩

end Chain
end Detour
