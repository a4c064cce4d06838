import Detour.Proofs.Deferral
import Detour.Proofs.Engine.InStep

/-!
# Settings of the engine that are put off

Settings of the loop guard, the rules and the cleanup that are put off until the addon is added are
set without its being told. It goes on with what it has, and a value that it would refuse is
accepted. So it matters whether settings are put off or set afterwards, unless they are acceptable
and what the addon has is what they say (`Chain.deferral_agrees_iff`).
-/
namespace Detour.Chain

open Dispatch World

variable {names : List String} {table : List Setting} {s : Scene World}

/-- The world is already as the named settings say. -/
structure Untouched (names : List String) (table : List Setting) (w : World) : Prop where
  cooldown : names.contains cooldownSetting.name = true →
    w.guard.cooldown = wholeIn table cooldownSetting.name
  file : names.contains Rules.fileSetting.name = true →
    rulesPathAfter w.files.homes (textIn table Rules.fileSetting.name) w.rulesPath = w.rulesPath

/-- Whether an addon that is told of settings takes them without a change of the world. -/
def Indifferent (a : Addon World) (names : List String) (table : List Setting) (s : Scene World) :
    Prop :=
  ∃ t, trigger (.configure names) [a] table s = .ok () t ∧ t.world = s.world

theorem indifferent_of_goesOn {a : Addon World} {t : Scene World}
    (h : guarded (invokeSync (.configure names) a.tree) table s = .ok .goesOn t) :
    Indifferent a names table s ↔ t.world = s.world := by
  have htrigger : trigger (.configure names) [a] table s = .ok () t := trigger_of_goesOn h []
  constructor
  · rintro ⟨u, hu, hworld⟩
    obtain rfl : t = u := by simpa [htrigger] using hu
    exact hworld
  · exact fun hworld => ⟨t, htrigger, hworld⟩

theorem not_indifferent_of_refusal {a : Addon World} {f : SettingFault} {t : Scene World}
    (h : invokeSync (.configure names) a.tree table s = .error (.setting f) t) :
    ¬ Indifferent a names table s := by
  rintro ⟨u, hu, -⟩
  rw [trigger_of_refusal h []] at hu
  cases hu

theorem loopGuard_indifferent_iff :
    Indifferent loopGuard names table s ↔
      (names.contains cooldownSetting.name = true → 0 < wholeIn table cooldownSetting.name) ∧
      (names.contains cooldownSetting.name = true →
        s.world.guard.cooldown = wholeIn table cooldownSetting.name) := by
  by_cases hcooldown :
      names.contains cooldownSetting.name = true → 0 < wholeIn table cooldownSetting.name
  · rw [indifferent_of_goesOn (loopGuard_takes hcooldown s)]
    refine ⟨fun hworld => ⟨hcooldown, fun hnames => ?_⟩, fun ⟨_, hsame⟩ => ?_⟩
    · have hguard := congrArg (·.guard.cooldown) hworld
      simp only [cooldown_guarding, hnames, if_true] at hguard
      exact hguard.symm
    · have hguard : (if names.contains cooldownSetting.name = true then
          wholeIn table cooldownSetting.name else s.world.guard.cooldown) =
          s.world.guard.cooldown := by
        split
        · next hnames => exact (hsame hnames).symm
        · rfl
      change guarding names table s.world = s.world
      rw [guarding, mapGuard, hguard]
  · obtain ⟨hnames, hnot⟩ := Classical.not_imp.mp hcooldown
    obtain ⟨f, hrefused⟩ := loopGuard_refuses hnames hnot s
    exact iff_of_false (not_indifferent_of_refusal hrefused) fun h => hcooldown h.1

theorem ruleStore_indifferent_iff :
    Indifferent ruleStore names table s ↔
      (names.contains Rules.keySetting.name = true → textIn table Rules.keySetting.name ≠ "") ∧
      (names.contains Rules.fileSetting.name = true →
        rulesPathAfter s.world.files.homes (textIn table Rules.fileSetting.name) s.world.rulesPath =
          s.world.rulesPath) := by
  by_cases hkey :
      names.contains Rules.keySetting.name = true → textIn table Rules.keySetting.name ≠ ""
  · obtain ⟨t, hrules, htworld⟩ := ruleStore_takes hkey s
    rw [indifferent_of_goesOn hrules, htworld]
    refine ⟨fun hworld => ⟨hkey, fun hnames => ?_⟩, fun ⟨_, hsame⟩ => ?_⟩
    · have hpath := congrArg (·.rulesPath) hworld
      simpa only [hnames, if_true] using hpath
    · have hpath : (if names.contains Rules.fileSetting.name = true then
          rulesPathAfter s.world.files.homes (textIn table Rules.fileSetting.name) s.world.rulesPath
          else s.world.rulesPath) = s.world.rulesPath := by
        split
        · next hnames => exact hsame hnames
        · rfl
      rw [hpath]
  · obtain ⟨hnames, hnot⟩ := Classical.not_imp.mp hkey
    obtain ⟨f, hrefused⟩ := ruleStore_refuses hnames (not_not.mp hnot) s
    exact iff_of_false (not_indifferent_of_refusal hrefused) fun h => hkey h.1

theorem cleanup_indifferent_iff (hscheduled : s.world.cleanupScheduled = false) :
    Indifferent cleanup names table s ↔
      (names.contains intervalSetting.name = true → 0 < wholeIn table intervalSetting.name) := by
  by_cases hinterval :
      names.contains intervalSetting.name = true → 0 < wholeIn table intervalSetting.name
  · obtain ⟨t, alarms, agenda, hcleanup, htworld, halarms⟩ := cleanup_takes hinterval s
    rw [indifferent_of_goesOn hcleanup, htworld]
    refine iff_of_true ?_ hinterval
    rw [if_neg (by simp [hscheduled])] at halarms
    rw [halarms.1, halarms.2]
  · obtain ⟨hnames, hnot⟩ := Classical.not_imp.mp hinterval
    obtain ⟨f, hrefused⟩ := cleanup_refuses hnames hnot s
    exact iff_of_false (not_indifferent_of_refusal hrefused) hinterval

def configurable : List (Addon World) := [loopGuard, ruleStore, cleanup]

theorem indifferent_iff {a : Addon World} (ha : a ∈ configurable)
    (hnames : ∀ name ∈ names, name ∈ a.declares.map (·.name))
    (hscheduled : s.world.cleanupScheduled = false) :
    Indifferent a names table s ↔ Acceptable names table ∧ Untouched names table s.world := by
  have hother : ∀ {name : String} {P : Prop}, name ∉ a.declares.map (·.name) →
      names.contains name = true → P := fun hname hcontains => by
    rw [Engine.contains_eq_false hname hnames] at hcontains
    cases hcontains
  simp only [configurable, List.mem_cons, List.not_mem_nil, or_false] at ha
  rcases ha with rfl | rfl | rfl
  · rw [loopGuard_indifferent_iff]
    exact ⟨fun h => ⟨⟨h.1, hother (by decide), hother (by decide)⟩, h.2, hother (by decide)⟩,
      fun h => ⟨h.1.cooldown, h.2.cooldown⟩⟩
  · rw [ruleStore_indifferent_iff]
    exact ⟨fun h => ⟨⟨hother (by decide), h.1, hother (by decide)⟩, hother (by decide), h.2⟩,
      fun h => ⟨h.1.key, h.2.file⟩⟩
  · rw [cleanup_indifferent_iff hscheduled]
    exact ⟨fun h => ⟨⟨hother (by decide), hother (by decide), h⟩, hother (by decide),
      hother (by decide)⟩, fun h => h.1.interval⟩

theorem plain_of_configurable {a : Addon World} (ha : a ∈ configurable) :
    "self" ∉ a.declares.map (·.name) := by
  simp only [configurable, List.mem_cons, List.not_mem_nil, or_false] at ha
  rcases ha with rfl | rfl | rfl <;> decide

open Detour.Action in
/-- Settings that are put off until an addon is added are set whatever they are, and the addon goes
on with what it has. It would be told of them otherwise, and take them over or refuse them. So the
two orders agree exactly if the settings are acceptable and the world is already as they say. -/
theorem deferral_agrees_iff {a : Addon World} (ha : a ∈ configurable) {s : Settings}
    {g : Stage World} {x : Settings.Assignments} (h : Newcomer a s g)
    (hx : ∀ name ∈ x.names, name ∈ a.declares.map (·.name))
    (hwaiting : ∀ e ∈ s.putOff, (s.withDeclared a.declares).contains e.1 = false)
    (hscheduled : g.scene.world.cleanupScheduled = false) :
    (∀ table, x.Gives (s.withDeclared a.declares) table → deferThenAdd a x (s, g) =
      .ok () ({ s with table }, { g with addons := g.addons.withAddon a })) ∧
    (Agree (deferThenAdd a x) (addThenApply a x) (s, g) ↔
      ∀ table, x.Gives (s.withDeclared a.declares) table →
        Acceptable x.names table ∧ Untouched x.names table g.scene.world) := by
  have hplain := plain_of_configurable ha
  refine ⟨fun table => h.deferThenAdd_of_gives hx hplain hwaiting, ?_⟩
  rw [h.agree_iff hx hplain hwaiting]
  exact forall_congr' fun table => imp_congr_right fun _ => indifferent_iff ha hx hscheduled

def early : Settings × Stage World :=
  (Settings.empty.withDeclared [Settings.configDirectory, Settings.redirectsEnabled],
    ⟨AddonTable.empty.withAddon alarms,
      ⟨0, .fresh .empty "" (.ofEntries []) (.fresh .recording none), []⟩⟩)

theorem newcomer_early : Newcomer loopGuard early.1 early.2 := (Engine.newcomers_core _).tail.head

def cooldownOf (n : Int) : Settings.Assignments :=
  .given [("redirect_cooldown", .int n)] (by simp)

theorem names_cooldownOf (n : Int) :
    ∀ name ∈ (cooldownOf n).names, name ∈ loopGuard.declares.map (·.name) :=
  List.forall_mem_singleton.mpr (List.mem_singleton.mpr rfl)

def tableOf (n : Int) : List Setting :=
  [Settings.configDirectory.setting, Settings.redirectsEnabled.setting,
    { cooldownSetting.setting with value := some (.int n) }]

theorem gives_cooldownOf (n : Int) (table : List Setting) :
    (cooldownOf n).Gives (early.1.withDeclared loopGuard.declares) table ↔ table = tableOf n := by
  have hread : (cooldownOf n).read (early.1.withDeclared loopGuard.declares) =
      .ok [("redirect_cooldown", .int n)] := rfl
  have hassign : Settings.assignAll [("redirect_cooldown", .int n)]
      (early.1.withDeclared loopGuard.declares, ()) =
      .ok () ({ early.1.withDeclared loopGuard.declares with table := tableOf n }, ()) := rfl
  constructor
  · rintro ⟨values, -, hvalues, htable⟩
    obtain rfl : [("redirect_cooldown", Value.int n)] = values := by simpa [hread] using hvalues
    have hsame := hassign.symm.trans htable
    simpa using hsame.symm
  · rintro rfl
    exact ⟨_, by simp, hread, hassign⟩

open Detour.Action in
/-- The orders agree on the cooldown that the guard has anyway, and on no other. -/
theorem deferral_agrees_on_standard_cooldown :
    Agree (deferThenAdd loopGuard (cooldownOf 3000)) (addThenApply loopGuard (cooldownOf 3000))
      early ∧
    ¬ Agree (deferThenAdd loopGuard (cooldownOf 500)) (addThenApply loopGuard (cooldownOf 500))
      early := by
  have hagree := fun n => (deferral_agrees_iff (a := loopGuard) (by simp [configurable])
    newcomer_early (names_cooldownOf n) (List.forall_mem_nil _) rfl).2
  refine ⟨(hagree 3000).mpr fun table hgives => ?_, fun h => ?_⟩
  · obtain rfl := (gives_cooldownOf 3000 table).mp hgives
    exact ⟨⟨fun _ => by decide, nofun, nofun⟩, ⟨fun _ => rfl, nofun⟩⟩
  · have huntouched := ((hagree 500).mp h _ ((gives_cooldownOf 500 _).mpr rfl)).2
    exact absurd (huntouched.cooldown rfl) (by decide)

open Detour.Action in
/-- A cooldown that has been put off is set, but the guard goes on with its own. And one that the
guard would refuse is set as well. -/
theorem put_off_cooldown_is_not_taken_over :
    (∃ y z, deferThenAdd loopGuard (cooldownOf 500) early = .ok () y ∧
      addThenApply loopGuard (cooldownOf 500) early = .ok () z ∧
      y.1.current? "redirect_cooldown" = some (.int 500) ∧
      z.1.current? "redirect_cooldown" = some (.int 500) ∧
      y.2.scene.world.guard.cooldown = 3000 ∧ z.2.scene.world.guard.cooldown = 500) ∧
    ∃ y f z, deferThenAdd loopGuard (cooldownOf (-1)) early = .ok () y ∧
      y.1.current? "redirect_cooldown" = some (.int (-1)) ∧
      addThenApply loopGuard (cooldownOf (-1)) early = .error f z := by
  have hplain := plain_of_configurable (a := loopGuard) (by simp [configurable])
  have hlate := fun n => newcomer_early.deferThenAdd_of_gives (names_cooldownOf n) hplain
    (List.forall_mem_nil _) ((gives_cooldownOf n _).mpr rfl)
  constructor
  · have htakes : trigger (.configure (cooldownOf 500).names) [loopGuard] (tableOf 500)
        early.2.scene = .ok () { early.2.scene with
          world := guarding (cooldownOf 500).names (tableOf 500) early.2.scene.world } :=
      trigger_of_goesOn (loopGuard_takes (fun _ => by decide) _) []
    have hearly := newcomer_early.addThenApply_of_accepted (names_cooldownOf 500)
      hplain (List.forall_mem_nil _) ((gives_cooldownOf 500 _).mpr rfl) htakes
    exact ⟨_, _, hlate 500, hearly, rfl, rfl, rfl, rfl⟩
  · obtain ⟨f, hrefuses⟩ : ∃ f, invokeSync (.configure (cooldownOf (-1)).names) loopGuard.tree
        (tableOf (-1)) early.2.scene = .error (.setting f) early.2.scene :=
      loopGuard_refuses rfl (by decide) _
    obtain ⟨f', z, hearly⟩ := newcomer_early.addThenApply_of_refused (names_cooldownOf (-1))
      hplain (List.forall_mem_nil _) ((gives_cooldownOf (-1) _).mpr rfl) (trigger_of_refusal hrefuses [])
    exact ⟨_, f', z, hlate (-1), rfl, hearly⟩

end Detour.Chain
