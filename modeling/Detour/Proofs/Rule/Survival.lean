import Detour.Proofs.Engine.Redirect
import Detour.Proofs.Path
import Detour.Proofs.Store

/-!
# Rules survive the store

A rule is stored as a mapping that describes it, unless its pattern is empty: such an entry is no rule.
So a list of rules that is put into a store, in memory or in a file, is found there again without
the rules that have no pattern (`Rules.survive_store`). What is stored of a rule that has been read
describes the same rule, whatever else the mapping it was read from had in it.
-/
namespace Detour

namespace Rule

theorem ofState_state {r : Rule} (h : r.pattern ≠ "") : ofState r.state = .ok r := by
  rw [ofState_eq_ok_iff]
  refine ⟨_, rfl, rfl, rfl, rfl, h, rfl, ?_⟩
  constructor
  · intro henabled
    exact ⟨.bool r.enabled, rfl, henabled⟩
  · rintro ⟨flag, hflag, htrue⟩
    cases hflag
    exact htrue

theorem ofState_state_of_empty {r : Rule} (h : r.pattern = "") :
    ofState r.state = .error .emptyPattern := by
  obtain ⟨name, kind, pattern, target, enabled⟩ := r
  cases h
  cases kind <;> rfl

theorem pattern_ne_of_ofState {v : Value} {r : Rule} (h : ofState v = .ok r) : r.pattern ≠ "" := by
  obtain ⟨_, _, _, _, _, hpattern, _⟩ := ofState_eq_ok_iff.mp h
  exact hpattern

theorem readAll_map_state (rules : List Rule) :
    (readAll (rules.map state)).1 = rules.filter (·.pattern ≠ "") := by
  have hone : ∀ r : Rule, (ofState r.state).toOption = if r.pattern ≠ "" then some r else none := by
    intro r
    by_cases h : r.pattern = ""
    · rw [ofState_state_of_empty h, if_neg (not_not_intro h)]
      rfl
    · rw [ofState_state h, if_pos h]
      rfl
  rw [readAll, readFrom_eq_filterMap, List.filterMap_map]
  simp only [Function.comp_def, hone]
  rw [← List.filterMap_eq_filter]
  simp [Option.guard]

end Rule

namespace Rules

open Store

variable {rules : List Rule} {table : List Setting} {s : Scene World} {w : World}

def stored (c : Changed) (w : World) : World :=
  match c.store with
  | .memory entries => { w with memory := { w.memory with entries } }
  | _ => { w with files := c.files }

section Codec

variable [Yaml.Codec]

def Holds (w : World) (entries : Entries) : Prop :=
  w.store.entries w.files = .ok entries ∧ (w.rulesPath = none → w.memory.failure = none)

theorem Holds.value {entries : Entries} (h : Holds w entries) (key : String) (default : Value) :
    (Request.mk w.rulesPath key).value w default =
      .ok ((Value.field? key entries).getD default) := by
  obtain ⟨hentries, hsound⟩ := h
  unfold World.store at hentries
  cases hpath : w.rulesPath with
  | some p =>
    rw [hpath] at hentries
    exact get_of_entries hentries key default
  | none =>
    rw [hpath] at hentries
    simp only [Request.value, hsound hpath]
    exact get_of_entries hentries key default

theorem Holds.countLookup {entries : Entries} (h : Holds w entries) : Holds w.countLookup entries := by
  obtain ⟨hentries, hsound⟩ := h
  unfold Holds World.store World.countLookup at *
  cases hpath : w.rulesPath with
  | some p =>
    rw [hpath] at hentries
    simpa [hpath] using hentries
  | none =>
    rw [hpath] at hentries
    simpa [hpath, hsound hpath] using hentries

/-- The store in use holds a mapping and can be written, and the mapping that is written for these
rules is one that reading undoes. -/
def Usable (rules : List Rule) (table : List Setting) (w : World) : Prop :=
  match w.rulesPath with
  | none => w.memory.failure = none
  | some p => ∃ es, readShared w.files p.text = .ok es ∧ w.files.Writable p.text ∧
      let x := written es (World.textIn table keySetting.name) (.list (rules.map Rule.state))
      Yaml.Shared.Survives x.1 x.2

/-- After the rules have been replaced by these, those of them that have a pattern are the rules, and
those of them that are enabled are the enabled ones. -/
def Kept (rules : List Rule) (table : List Setting) (s : Scene World) : Prop :=
  ∃ t, replace rules table s = .ok () t ∧
    (∃ u, all table t = .ok (rules.filter (·.pattern ≠ "")) u) ∧
    ∃ u, enabled table t = .ok ((rules.filter (·.pattern ≠ "")).filter (·.enabled)) u

theorem put_of_set {key : String} {value : Value} {c : Changed}
    (h : s.world.store.set s.world.files key value = .ok c) :
    ∃ log, put key value s = .ok () { s with log, world := stored c s.world } := by
  obtain ⟨log, hlog⟩ := log_spec c.notices { s with world := stored c s.world }
  refine ⟨log, ?_⟩
  rw [put, get_bind, h]
  exact hlog

/-- Rules that can be put into the store are put there, beside what else it holds. -/
theorem replace_spec [Yaml.Codec.Lawful] (h : Usable rules table s.world) :
    ∃ t entries, replace rules table s = .ok () t ∧
      Holds t.world (Value.insert (.str (World.textIn table keySetting.name))
        (.list (rules.map Rule.state)) entries) := by
  unfold Usable at h
  cases hpath : s.world.rulesPath with
  | none =>
    rw [hpath] at h
    have hstore : s.world.store = .memory s.world.memory.entries := by simp [World.store, hpath]
    obtain ⟨c, hset, hafter⟩ := entries_set_memory s.world.files s.world.memory.entries
      (World.textIn table keySetting.name) (.list (rules.map Rule.state))
    rw [← hstore] at hset
    obtain ⟨log, hput⟩ := put_of_set hset
    refine ⟨_, s.world.memory.entries, hput, ?_, fun _ => ?_⟩
    · simp [stored, hafter, World.store, hpath, Store.entries]
    · simpa [stored, hafter] using h
  | some p =>
    rw [hpath] at h
    obtain ⟨es, hread, hwritable, hback⟩ := h
    have hstore : s.world.store = .file p := by simp [World.store, hpath]
    obtain ⟨c, hset, hafter, hentries⟩ := entries_set_file hread hwritable hback
    rw [← hstore] at hset
    obtain ⟨log, hput⟩ := put_of_set hset
    refine ⟨_, Yaml.Shared.entryValues es, hput, ?_, fun hnone => ?_⟩
    · simpa [stored, hafter, World.store, hpath] using hentries
    · simp [stored, hafter, hpath] at hnone

theorem request_rules {entries : Entries} (h : Holds w (Value.insert
      (.str (World.textIn table keySetting.name)) (.list (rules.map Rule.state)) entries)) :
    ∃ skipped, (Request.mk w.rulesPath (World.textIn table keySetting.name)).rules table w =
      .ok (rules.filter (·.pattern ≠ ""), skipped) := by
  have hvalue := h.value (World.textIn table keySetting.name) (.list [])
  rw [Value.field?_insert, Option.getD_some] at hvalue
  refine ⟨(Rule.readAll (rules.map Rule.state)).2, ?_⟩
  rw [Request.rules, hvalue]
  dsimp only [bind, Except.bind]
  rw [← Rule.readAll_map_state]
  rfl

theorem finish_of_rules {r : Request} {skipped : List Rule.Skipped}
    (h : r.rules table s.world = .ok (rules, skipped)) :
    ∃ log, r.finish table s = .ok rules { s with log } := by
  obtain ⟨log, hlog⟩ := log_spec (skipped.map fun x => .plain Level.warning x.message) s
  refine ⟨log, ?_⟩
  rw [Request.finish, get_bind, h]
  exact bind_of_ok hlog

theorem kept_of_usable [Yaml.Codec.Lawful] (h : Usable rules table s.world) : Kept rules table s := by
  obtain ⟨t, entries, hput, hholds⟩ := replace_spec h
  obtain ⟨skipped, hrules⟩ := request_rules hholds.countLookup
  have hbegin : begin table t =
      .ok ⟨t.world.countLookup.rulesPath, World.textIn table keySetting.name⟩
        { t with world := t.world.countLookup } := rfl
  obtain ⟨log, hall⟩ :=
    finish_of_rules (s := { t with world := t.world.countLookup }) hrules
  obtain ⟨log', henabled⟩ := finishEnabled_spec
    ⟨t.world.countLookup.rulesPath, World.textIn table keySetting.name⟩ table
    { t with world := t.world.countLookup }
  rw [Request.usable, hrules] at henabled
  exact ⟨t, hput, ⟨_, (bind_of_ok hbegin).trans hall⟩, ⟨_, (bind_of_ok hbegin).trans henabled⟩⟩

/-- Rules that are put into a store are found there again, in their order and without those that have
an empty pattern. What is stored of a rule that was read from a mapping is read as the same rule, and
stored again as the same mapping. -/
theorem survive_store [Yaml.Codec.Lawful] (rules : List Rule) (table : List Setting)
    (s : Scene World) (h : Usable rules table s.world) :
    Kept rules table s ∧
      ∀ v r, Rule.ofState v = .ok r → Rule.ofState r.state = .ok r ∧
        (Rule.ofState r.state).map Rule.state = .ok r.state := by
  refine ⟨kept_of_usable h, fun v r hread => ?_⟩
  have hagain := Rule.ofState_state (Rule.pattern_ne_of_ofState hread)
  rw [hagain]
  exact ⟨rfl, rfl⟩

end Codec

def sampleRules : List Rule :=
  [⟨"docs", .contains, "a", "b", true⟩, ⟨"", .regex, "", "", false⟩]

def sampleTable : List Setting :=
  [⟨keySetting.name, keySetting.type, keySetting.default, keySetting.help, none, none⟩]

def sampleWorld : World :=
  { World.fresh .empty "" (.ofEntries []) (.fresh .recording none) with rulesPath := some ⟨"", ["r"]⟩ }

def sampleText : String :=
  "redirectRules:\n- name: docs\n  matchType: contains\n  matchPattern: a\n  redirectUrl: b\n" ++
    "  enabled: true\n- name: ''\n  matchType: regex\n  matchPattern: ''\n  redirectUrl: ''\n" ++
    "  enabled: false\n"

def isStateOf (r : Rule) : List (Yaml.Shared × Yaml.Shared) → Bool
  | [(.plain (.str a), .plain (.str name)), (.plain (.str b), .plain (.str kind)),
      (.plain (.str c), .plain (.str pattern)), (.plain (.str d), .plain (.str target)),
      (.plain (.str e), .plain (.bool enabled))] =>
    [a, b, c, d, e] == ["name", "matchType", "matchPattern", "redirectUrl", "enabled"] &&
      [name, kind, pattern, target] == [r.name, r.kind.name, r.pattern, r.target] &&
      enabled == r.enabled
  | _ => false

theorem entryValues_of_isStateOf {r : Rule} {es : List (Yaml.Shared × Yaml.Shared)}
    (h : isStateOf r es = true) : Value.map (Yaml.Shared.entryValues es) = r.state := by
  unfold isStateOf at h
  split at h
  · simp only [Bool.and_eq_true, beq_iff_eq, List.cons.injEq] at h
    simp [h, Yaml.Shared.entryValues, Yaml.Shared.value, Rule.state, Rule.Field.key]
  · cases h

def isSample : Except Yaml.Fault Yaml.Shared → Bool
  | .ok (.map _ [(.plain (.str k), .list _ [.map _ r, .map _ s])]) =>
    k == "redirectRules" && isStateOf ⟨"docs", .contains, "a", "b", true⟩ r &&
      isStateOf ⟨"", .regex, "", "", false⟩ s
  | _ => false

theorem entries_of_isSample {x : Except Yaml.Fault Yaml.Shared} (h : isSample x = true) :
    ∃ label es, x = .ok (.map label es) ∧
      Yaml.Shared.entryValues es =
        [(.str "redirectRules", .list (sampleRules.map Rule.state))] := by
  unfold isSample at h
  split at h
  · simp only [Bool.and_eq_true, beq_iff_eq] at h
    obtain ⟨⟨rfl, hr⟩, hs⟩ := h
    refine ⟨_, _, rfl, ?_⟩
    simp only [Yaml.Shared.entryValues, Yaml.Shared.value, Yaml.Shared.values,
      entryValues_of_isStateOf hr, entryValues_of_isStateOf hs]
    rfl
  · cases h

theorem print_sample :
    printWith [] "redirectRules" (.list (sampleRules.map Rule.state)) = sampleText := by
  decide +kernel

theorem isSample_read : isSample (Yaml.Codec.read sampleText) = true := by
  decide +kernel

theorem survives_sample :
    let x := written [] "redirectRules" (.list (sampleRules.map Rule.state))
    Yaml.Shared.Survives x.1 x.2 := by
  obtain ⟨label, es, hread, hes⟩ := entries_of_isSample isSample_read
  rw [← print_sample, printWith_eq] at hread
  have hvalues := entryValues_written [] "redirectRules" (.list (sampleRules.map Rule.state))
  exact ⟨by rw [hvalues]; decide, label, es, hread, hes.trans hvalues.symm⟩

theorem usable_sample : Usable sampleRules sampleTable sampleWorld := by
  have hplace : FileTree.empty.locate "r" = .ok ["work", "r"] := by
    rw [FileTree.locate_eq]
    decide +kernel
  refine ⟨[], ?_, ⟨_, hplace, by decide, by decide⟩, survives_sample⟩
  have hmissing : FileTree.empty.readText "r" = .error (.file .notFound) := by
    rw [FileTree.readText, FileTree.read, hplace]
    rfl
  have htext : (⟨"", ["r"]⟩ : Path).text = "r" := by decide
  rw [htext, readShared, readText]
  have hfiles : sampleWorld.files = FileTree.empty := rfl
  rw [hfiles, hmissing]
  rfl

/-- Two rules are put into a file that did not exist, and the one with a pattern is found there. -/
theorem rules_survive_in_new_file :
    Usable sampleRules sampleTable sampleWorld ∧
      Kept sampleRules sampleTable ⟨0, sampleWorld, []⟩ ∧
      ∀ v r, Rule.ofState v = .ok r → Rule.ofState r.state = .ok r ∧
        (Rule.ofState r.state).map Rule.state = .ok r.state :=
  ⟨usable_sample, survive_store sampleRules sampleTable ⟨0, sampleWorld, []⟩ usable_sample⟩

end Rules
end Detour
