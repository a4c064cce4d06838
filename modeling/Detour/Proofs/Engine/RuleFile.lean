import Detour.Proofs.Engine.InStep
import Detour.Proofs.Path
import Detour.Proofs.Settings.Latest

/-!
# Where the rules are kept

The setting `rules_file` names the file that rules are read from. After every call that changes
settings, whether it is accepted or refused, the store in use is that file, or the memory if none is
named (`Engine.rules_kept_where_named`). Only a path that begins with a tilde and the name of a user
who is not known leads nowhere: such a value is accepted, its fault is only logged, and the store in
use stays what it was (`Engine.homeless_file_is_accepted`).
-/
namespace Detour

open Chain Dispatch World

/-- The rules are kept where a value for `rules_file` says: in memory without a text, and otherwise
in the file there, if its path can be made out. -/
def World.KeepsRulesIn (w : World) : Value → Prop
  | .null => w.store = .memory w.memory.entries
  | .str text =>
    if text = "" then w.store = .memory w.memory.entries
    else ∀ p, (Path.ofString text).expandUser? w.files.homes = some p → w.store = .file p
  | _ => False

namespace Chain

/-- Where the rules are kept once the addon of the rules has been told of a text. -/
theorem keepsRulesIn_of_told {text : String} {w : World}
    (h : rulesPathAfter w.files.homes text w.rulesPath = w.rulesPath) :
    w.KeepsRulesIn (.str text) := by
  unfold KeepsRulesIn
  dsimp only
  by_cases hempty : text = ""
  · rw [if_pos hempty]
    rw [rulesPathAfter, if_pos hempty] at h
    rw [store, ← h]
  · rw [if_neg hempty]
    intro p hp
    rw [rulesPathAfter, if_neg hempty, Store.atPath, hp] at h
    rw [store, ← h]

theorem rulesPathAfter_of_homeless {homes : Path.Homes} {text : String} (hne : text ≠ "")
    (h : (Path.ofString text).expandUser? homes = none) (old : Option Path) :
    rulesPathAfter homes text old = old := by
  rw [rulesPathAfter, if_neg hne, Store.atPath, h]

end Chain

namespace Engine

variable {base s : Settings} {g : Stage World}

theorem textIn_of_current? {name text : String} (h : s.current? name = some (.str text)) :
    textIn s.table name = text := by
  obtain ⟨o, hfind, hcurrent⟩ := Option.map_eq_some_iff.mp h
  rw [textIn, valueIn_of_find? hfind, hcurrent]

theorem current?_optionalText {name : String} (hsound : s.Sound)
    (htype : (s.declared? name).map (·.type) = some .optionalStr) :
    s.current? name = some .null ∧ textIn s.table name = "" ∨
      s.current? name = some (.str (textIn s.table name)) := by
  obtain ⟨d, hdeclared, hd⟩ := Option.map_eq_some_iff.mp htype
  obtain ⟨o, hfind, rfl⟩ := Option.map_eq_some_iff.mp hdeclared
  have hholds := (hsound name o hfind).1
  rw [show o.type = .optionalStr from hd] at hholds
  rw [Settings.current?, hfind, textIn, valueIn_of_find? hfind, Option.map_some]
  cases hcurrent : o.current with
  | null => exact .inl ⟨rfl, rfl⟩
  | str text => exact .inr rfl
  | _ => simp [hcurrent, TypeSpec.holds, PlainType.holds] at hholds

/-- An engine in step with its settings keeps the rules where they say. -/
theorem Tuned.keepsRules (h : Tuned base s g)
    (hbase : (base.declared? Rules.fileSetting.name).map (·.type) = some .optionalStr) :
    ∃ v, s.current? "rules_file" = some v ∧ g.scene.world.KeepsRulesIn v := by
  have htold := keepsRulesIn_of_told (h.copied.file rfl)
  have htype : (s.declared? Rules.fileSetting.name).map (·.type) = some .optionalStr := by
    rw [h.declared, hbase]
  rcases current?_optionalText h.sound htype with
    ⟨hcurrent, hempty⟩ | hcurrent
  · rw [hempty] at htold
    exact ⟨.null, hcurrent, htold⟩
  · exact ⟨_, hcurrent, htold⟩

theorem type_fileSetting :
    (standardSettings.declared? Rules.fileSetting.name).map (·.type) = some .optionalStr := rfl

/-- In an engine with the addons that redirect, whatever calls follow, and whether they are accepted
or not: the rules are kept where the current value of `rules_file` says. -/
theorem rules_kept_where_named (files : FileTree) (input : String) (memory : RuleMemory)
    (tabs : Tabs) (clock : Rat) (log : List (Rat × LogRecord)) (calls : List Call)
    (htyped : ∀ c ∈ calls, c.Typed standardSettings) :
    ∃ g, assemble core [] (.empty, ⟨.empty, ⟨clock, .fresh files input memory tabs, log⟩⟩) =
        .ok () g ∧ ∀ made, made <+: calls →
          ∃ v, (afterCalls g made).1.current? "rules_file" = some v ∧
            (afterCalls g made).2.scene.world.KeepsRulesIn v := by
  refine ⟨_, assemble_core ⟨clock, .fresh files input memory tabs, log⟩, fun made hmade => ?_⟩
  have htuned : Tuned standardSettings standardSettings
      ⟨core.foldl AddonTable.withAddon .empty, ⟨clock, .fresh files input memory tabs, log⟩⟩ :=
    tuned_standard rfl rfl
  exact (htuned.calls fun c hc => htyped c (hmade.subset hc)).keepsRules type_fileSetting

/-- A file in the home directory of a user who is not known, then one in the user's own, and a change
of the file that the cleanup refuses. -/
theorem rules_kept_after_refusal :
    (∀ c ∈ [Call.update [("rules_file", .str "~nobody/rules.yaml")],
      .update [("rules_file", .str "~/rules.yaml")],
      .update [("rules_file", .str "rules.yaml"), ("cleanup_interval", .int 0)]],
      c.Typed standardSettings) ∧
    ∃ g, assemble core [] (.empty, ⟨.empty, ⟨0, .fresh .empty "" (.ofEntries [])
        (.fresh .recording none), []⟩⟩) = .ok () g ∧
      ∃ h, h = afterCalls g [.update [("rules_file", .str "~nobody/rules.yaml")],
          .update [("rules_file", .str "~/rules.yaml")],
          .update [("rules_file", .str "rules.yaml"), ("cleanup_interval", .int 0)]] ∧
        ∃ v, h.1.current? "rules_file" = some v ∧ h.2.scene.world.KeepsRulesIn v := by
  refine ⟨by decide, ?_⟩
  obtain ⟨g, hassemble, hkeeps⟩ := rules_kept_where_named .empty "" (.ofEntries [])
    (.fresh .recording none) 0 []
    [.update [("rules_file", .str "~nobody/rules.yaml")],
      .update [("rules_file", .str "~/rules.yaml")],
      .update [("rules_file", .str "rules.yaml"), ("cleanup_interval", .int 0)]] (by decide)
  exact ⟨g, hassemble, _, rfl, hkeeps _ List.prefix_rfl⟩

/-- A file in the home directory of a user who is not known is accepted, and the rules are kept
where they were. -/
theorem homeless_file_is_accepted (h : Tuned base s g) {text : String}
    (htakes : base.Takes ("rules_file", .str text)) (hne : text ≠ "")
    (hhome : (Path.ofString text).expandUser? g.scene.world.files.homes = none) :
    ∃ s' u, Action.update [("rules_file", .str text)] (s, g) = .ok () (s', { g with scene := u }) ∧
      s'.current? "rules_file" = some (.str text) ∧ u.world.store = g.scene.world.store := by
  have htakes : s.Takes ("rules_file", .str text) := by
    obtain ⟨o, o', hdeclared, hassign⟩ := htakes
    exact ⟨o, o', (h.declared _).trans hdeclared, hassign⟩
  obtain ⟨table, hlatest, -, hset⟩ :=
    Settings.setAll_of_taken (List.forall_mem_singleton.mpr htakes) Stage.listener g
  obtain ⟨d, -, hdeclared, -⟩ := htakes
  obtain ⟨o, hfind, -⟩ := Option.map_eq_some_iff.mp hdeclared
  have hcurrent : ({ s with table } : Settings).current? "rules_file" = some (.str text) := by
    rw [hlatest, Settings.current?, hfind]
    rfl
  have htext : textIn table Rules.fileSetting.name = text := textIn_of_current? hcurrent
  -- Only the addon of the rules cares, and its failure is logged.
  have hkey : ["rules_file"].contains Rules.keySetting.name = true →
      textIn table Rules.keySetting.name ≠ "" := fun hnamed => by cases hnamed
  obtain ⟨u, hrules, hworld⟩ := ruleStore_takes hkey g.scene
  have htrigger : trigger (.configure ["rules_file"]) core table g.scene = .ok () u := by
    rw [trigger_core, trigger_of_goesOn (ignores_loopGuard rfl table g.scene),
      trigger_of_goesOn hrules, trigger_of_goesOn (ignores_redirector _ table u),
      trigger_of_goesOn (ignores_cleanup rfl table u)]
    rfl
  refine ⟨_, u, ?_, hcurrent, ?_⟩
  · have hknown : ∀ e ∈ [("rules_file", Value.str text)], s.contains e.1 = true := by
      simp [Settings.contains, hfind]
    exact (Settings.update_of_known hknown Stage.listener g).trans
      (hset _ (changed_of_trigger h.chain htrigger))
  · rw [hworld, store, store]
    dsimp only
    rw [htext, rulesPathAfter_of_homeless hne hhome, ite_self]

theorem expandUser?_nosuchuser :
    (Path.ofString "~nosuchuser/rules.yaml").expandUser? FileTree.empty.homes = none := by
  rw [Path.ofString_eq]
  decide +kernel

/-- The file of a user who is not known has been named and not been refused, and the rules are still
in memory. -/
theorem file_of_unknown_user_is_accepted :
    ∃ g s' g', assemble core [] (.empty, ⟨.empty, ⟨0, .fresh .empty "" (.ofEntries [])
        (.fresh .recording none), []⟩⟩) = .ok () g ∧
      Action.update [("rules_file", .str "~nosuchuser/rules.yaml")] g = .ok () (s', g') ∧
      s'.current? "rules_file" = some (.str "~nosuchuser/rules.yaml") ∧
      g'.scene.world.store = .memory [] := by
  have htakes : standardSettings.Takes ("rules_file", .str "~nosuchuser/rules.yaml") :=
    ⟨_, _, rfl, rfl⟩
  have htuned : Tuned standardSettings standardSettings
      ⟨core.foldl AddonTable.withAddon .empty, ⟨0, .fresh .empty "" (.ofEntries [])
        (.fresh .recording none), []⟩⟩ := tuned_standard rfl rfl
  obtain ⟨s', u, hupdate, hcurrent, hstore⟩ :=
    homeless_file_is_accepted htuned htakes (by decide) expandUser?_nosuchuser
  exact ⟨_, s', _, assemble_core _, hupdate, hcurrent, hstore⟩

end Engine
end Detour
