import Detour.Proofs.Path
import Detour.Proofs.Tool.Loaded

/-!
# Which value of a setting counts

A setting may be given by a flag of its own, by a text behind `--set`, and by the two config files.
The texts are set first, then the config files are loaded, and the other flags take effect last
(`Tool.configure_spec`). So the command line overrides the config files, but for what is given behind
`--set`, which they override (`Tool.sources_in_order`).
-/
namespace Detour

namespace Config

variable {R : Type} {l : Listener R} {files : FileTree} {path : String}
  {values : List (String × Value)} {x y : Settings × R}

/-- The values that a path stands for: those of the config file, or none where there is no file. -/
def Gives (files : FileTree) (path : String) (values : List (String × Value)) : Prop :=
  ∃ p, userPath files.homes (.str path) = .ok p ∧
    ((exists? files p = .ok false ∧ values = []) ∨
      exists? files p = .ok true ∧ ∃ text, files.readText p.text = .ok text ∧
        valuesOf files.homes text (some p.absolute.parent) = .ok values)

/-- Loading a config file is setting its values or putting them off. -/
theorem loadPaths_of_gives (h : Gives files path values)
    (hload : Settings.updateOrDefer l values x = .ok () y) (rest : List String) :
    loadPaths l files (path :: rest) x = loadPaths l files rest y := by
  obtain ⟨p, hpath, ⟨hmissing, rfl⟩ | ⟨hexists, text, htext, hvalues⟩⟩ := h
  · obtain rfl : x = y := by simpa [Settings.updateOrDefer_nil] using hload
    rw [loadPaths]
    simp only [hpath, hmissing]
  · have hfile : loadFile l files p x = .ok () y := by
      simp only [loadFile, htext, load, hvalues, hload]
    rw [loadPaths]
    simp only [hpath, hexists]
    exact bind_of_ok hfile

end Config

namespace Tool

open Chain Settings

variable {s : Start} {files : FileTree} {x : Settings × Stage World} {values : List (String × Value)}

theorem Ready.of_table (h : Ready files x) {t : Settings} (ht : t.table = x.1.table) :
    Ready files (t, x.2) := by
  have hdeclared : ∀ name, t.declared? name = x.1.declared? name := fun name => by
    simp [declared?, find?, ht]
  exact ⟨h.chain, h.files, fun name => (hdeclared name).trans (h.declared name), fun name => by
    simpa [ht] using h.usable name⟩

theorem Ready.contains (h : Ready files x) (name : String) :
    x.1.contains name = settings.contains name := by
  have hdeclared := congrArg Option.isSome (h.declared name)
  simpa [declared?, Settings.contains] using hdeclared

theorem Ready.setTexts (h : Ready files x) (hx : x.1 = settings) {specs : List String}
    (hread : settings.readGroups (groupSpecs specs) = .ok values) (hvalid : ∀ e ∈ values, Valid e) :
    ∃ y, Action.setFromTexts specs true x = .ok () y ∧ Ready files y ∧ Latest values x.1 y.1 := by
  obtain ⟨s, g⟩ := x
  obtain rfl : s = settings := hx
  have hset := setFromTexts_of_read hread Stage.listener true g
  rw [Bool.not_true, Bool.and_false, if_neg Bool.false_ne_true] at hset
  have htable := table_deferAll
    ((settings.unknownGroups specs).map fun g => (g.1, PutOff.texts g.2)) settings
  have hready := h.of_table htable
  obtain ⟨y, hy, hready', hlatest⟩ := hready.setAll hvalid
  have hknown : ∀ e ∈ values, (settings.deferAll ((settings.unknownGroups specs).map
      fun g => (g.1, PutOff.texts g.2))).contains e.1 = true := by
    intro e he
    obtain ⟨o, hfind, -⟩ := readGroups_typed hread e he
    rw [hready.contains, Settings.contains, hfind]
    rfl
  have hplain : ∀ e ∈ values, e.1 ≠ "self" := by
    intro e he hself
    obtain ⟨o, hfind, -⟩ := readGroups_typed hread e he
    have hnone : settings.find? "self" = none := rfl
    simp [hself, hnone] at hfind
  rw [updateByName_of_plain hplain] at hset
  refine ⟨y, (hset.trans (update_of_known hknown _ _)).trans hy, hready', fun name => ?_⟩
  have hsame : ∀ {t : Settings}, t.table = settings.table →
      t.current? name = settings.current? name := fun ht => by simp [current?, find?, ht]
  rw [hlatest name, hsame htable]

theorem Ready.loadValues (h : Ready files x)
    (hvalid : ∀ e ∈ values, settings.contains e.1 = true → Valid e) :
    ∃ y, updateOrDefer Stage.listener values x = .ok () y ∧ Ready files y ∧
      Latest values x.1 y.1 := by
  obtain ⟨s, g⟩ := x
  have hknown : ∀ e ∈ s.known values, Valid e := by
    intro e he
    obtain ⟨hmem, hcontains⟩ := List.mem_filter.mp he
    exact hvalid e hmem ((h.contains e.1).symm.trans hcontains)
  obtain ⟨y, hy, hready, hlatest⟩ := h.setAll hknown
  have htable := table_deferAll ((s.unknown values).map fun e => (e.1, PutOff.value e.2)) y.1
  refine ⟨_, (updateOrDefer_eq _ _ _ _).trans (bind_of_ok hy), hready.of_table htable,
    (Latest.of_known hlatest).of_table htable⟩

/-- The values for settings that the command line and the config files give. -/
structure Sources where
  /-- Behind `--set`. -/
  texts : List (String × Value)
  yaml : List (String × Value)
  yml : List (String × Value)
  /-- By flags of their own, and the verbosity. -/
  flags : List (String × Value)

def directory (texts : List (String × Value)) : String :=
  match (lastFor texts configDirectory.name).getD configDirectory.default with
  | .str path => path
  | _ => ""

namespace Sources

/-- What is given to a run of the tool. -/
structure Of (src : Sources) (s : Start) (given : List (String × Value)) : Prop where
  texts : settings.readGroups (groupSpecs (CommandLine.settingTexts given)) = .ok src.texts
  yaml : Config.Gives s.files (Path.joinText (directory src.texts) "config.yaml") src.yaml
  yml : Config.Gives s.files (Path.joinText (directory src.texts) "config.yml") src.yml
  flags : src.flags = CommandLine.settingValues settings given

def all (src : Sources) : List (String × Value) := src.texts ++ (src.yaml ++ src.yml) ++ src.flags

/-- The value that a setting has in the end. -/
def value (src : Sources) (d : Declaration) : Value :=
  ((lastFor src.flags d.name).or <| (lastFor src.yml d.name).or <|
    (lastFor src.yaml d.name).or <| lastFor src.texts d.name).getD d.default

/-- The value that it has if the command line overrides the config files. -/
def commandLineFirst (src : Sources) (d : Declaration) : Value :=
  ((lastFor src.flags d.name).or <| (lastFor src.texts d.name).or <|
    (lastFor src.yml d.name).or <| lastFor src.yaml d.name).getD d.default

theorem value_eq (src : Sources) (d : Declaration) :
    src.value d = (lastFor src.all d.name).getD d.default := by
  simp only [value, all, lastFor_append, Option.or_assoc]

end Sources

theorem current?_settings {d : Declaration} (hd : d ∈ declarations) :
    settings.current? d.name = some d.default := by
  have hfind : ∀ ds : List Declaration, (ds.map (·.name)).Nodup → d ∈ ds →
      (ds.map Declaration.setting).find? (·.name = d.name) = some d.setting := by
    intro ds hdistinct hmem
    induction ds with
    | nil => cases hmem
    | cons e rest ih =>
      obtain ⟨hfirst, hrest⟩ := List.nodup_cons.mp hdistinct
      rcases List.mem_cons.mp hmem with rfl | hmem
      · simp [Declaration.setting]
      · have hne : e.name ≠ d.name := (ne_of_mem_of_not_mem (List.mem_map_of_mem hmem) hfirst).symm
        simpa [Declaration.setting, hne] using ih hrest hmem
  have hsetting : settings.find? d.name = some d.setting := hfind declarations (by decide) hd
  rw [current?, hsetting]
  rfl

/-- What the config files are looked for in is what a text has set. -/
theorem directory_eq (h : Latest values settings x.1) :
    World.textIn x.1.table configDirectory.name = directory values := by
  have hcurrent := h configDirectory.name
  rw [current?_settings (by simp [declarations] : configDirectory ∈ declarations)] at hcurrent
  have hvalue : World.valueIn x.1.table configDirectory.name =
      (x.1.current? configDirectory.name).getD .null := rfl
  rw [World.textIn, hvalue, hcurrent]
  rfl

variable {src : Sources} {given : List (String × Value)}

/-- The flags take effect on top of everything else. -/
theorem Ready.applyFlags (h : Ready files x)
    (hvalid : ∀ e ∈ CommandLine.settingValues settings given, settings.contains e.1 = true → Valid e)
    (hversion : CommandLine.isOn given CommandLine.versionFlag.dest = false)
    (runtime platform : String) :
    ∃ y, CommandLine.apply runtime platform given x = .ok none y ∧
      Latest (CommandLine.settingValues settings given) x.1 y.1 := by
  obtain ⟨s, g⟩ := x
  have hvalues : CommandLine.settingValues s given = CommandLine.settingValues settings given := by
    unfold CommandLine.settingValues
    simp only [h.contains]
  have hknown : ∀ e ∈ CommandLine.settingValues settings given, s.contains e.1 = true := by
    intro e he
    rw [h.contains]
    exact (Bool.and_eq_true_iff.mp (List.mem_filter.mp he).2).1
  obtain ⟨y, hy, -, hlatest⟩ := h.setAll fun e he =>
    hvalid e he ((h.contains e.1).symm.trans (hknown e he))
  have hupdate : Action.update (CommandLine.settingValues s given) (s, g) = .ok () y := by
    rw [hvalues]
    exact (update_of_known hknown _ _).trans hy
  refine ⟨y, ?_, hlatest⟩
  rw [CommandLine.apply, hversion]
  exact bind_of_ok hupdate

/-- The texts are set, then both config files are loaded, then the flags take effect. -/
theorem configure_spec (hsrc : src.Of s given)
    (hvalid : ∀ e ∈ src.all, settings.contains e.1 = true → Valid e)
    (hversion : CommandLine.isOn given CommandLine.versionFlag.dest = false) :
    ∃ x y, start s (initial s) = .ok () x ∧ configure s given x = .ok none y ∧
      Latest src.all settings y.1 := by
  obtain ⟨x, hstart, hx, hready⟩ := start_spec s
  have htextsKnown : ∀ e ∈ src.texts, Valid e := by
    intro e he
    obtain ⟨o, hfind, -⟩ := readGroups_typed hsrc.texts e he
    exact hvalid e (by simp [Sources.all, he]) (by simp [Settings.contains, hfind])
  obtain ⟨a, hset, ha, hlatest⟩ := hready.setTexts hx hsrc.texts htextsKnown
  rw [hx] at hlatest
  have hyamlValid : ∀ e ∈ src.yaml, settings.contains e.1 = true → Valid e := fun e he =>
    hvalid e (by simp [Sources.all, he])
  have hymlValid : ∀ e ∈ src.yml, settings.contains e.1 = true → Valid e := fun e he =>
    hvalid e (by simp [Sources.all, he])
  obtain ⟨b, hyaml, hb, hlatest'⟩ := ha.loadValues hyamlValid
  obtain ⟨c, hyml, hc, hlatest''⟩ := hb.loadValues hymlValid
  have hflagsValid : ∀ e ∈ CommandLine.settingValues settings given,
      settings.contains e.1 = true → Valid e := fun e he =>
    hvalid e (by simp [Sources.all, hsrc.flags, he])
  obtain ⟨y, hflags, hlast⟩ := hc.applyFlags hflagsValid hversion s.runtime s.platform
  refine ⟨x, y, hstart, ?_, ?_⟩
  · have hload : Config.loadPaths Stage.listener a.2.scene.world.files
        (configFiles.map (Path.joinText (World.textIn a.1.table configDirectory.name))) a =
        .ok () c := by
      rw [ha.files, directory_eq hlatest]
      exact (Config.loadPaths_of_gives hsrc.yaml hyaml _).trans
        (Config.loadPaths_of_gives hsrc.yml hyml _)
    have hworld : Engine.world a = .ok a.2.scene.world a := rfl
    rw [configure, bind_of_ok hset, get_bind, bind_of_ok hworld, bind_of_ok hload]
    exact hflags
  · have hall := (hlatest.trans (hlatest'.trans hlatest'')).trans hlast
    rwa [← hsrc.flags] at hall

/-- Once the settings are configured, each has the value that a flag gives, or else the one from
`config.yml`, or else the one from `config.yaml`, or else the one behind `--set`, or else its default.
So the command line overrides the config files in all settings but those that are given only behind
`--set` and by a config file too. -/
theorem sources_in_order (hsrc : src.Of s given)
    (hvalid : ∀ e ∈ src.all, settings.contains e.1 = true → Valid e)
    (hversion : CommandLine.isOn given CommandLine.versionFlag.dest = false) :
    ∃ x y, start s (initial s) = .ok () x ∧ configure s given x = .ok none y ∧
      ∀ d ∈ declarations, y.1.current? d.name = some (src.value d) ∧
        ((lastFor src.flags d.name).isSome ∨ lastFor src.texts d.name = none ∨
            lastFor src.yml d.name = none ∧ lastFor src.yaml d.name = none →
          src.value d = src.commandLineFirst d) := by
  obtain ⟨x, y, hstart, hconfigure, hlatest⟩ := configure_spec hsrc hvalid hversion
  refine ⟨x, y, hstart, hconfigure, fun d hd => ⟨?_, fun horder => ?_⟩⟩
  · rw [hlatest d.name, current?_settings hd, src.value_eq d]
    rfl
  · unfold Sources.value Sources.commandLineFirst
    rcases horder with hflag | htexts | ⟨hyml, hyaml⟩
    · obtain ⟨v, hv⟩ := Option.isSome_iff_exists.mp hflag
      simp [hv]
    · simp [htexts]
    · simp [hyml, hyaml]

def sampleFiles : FileTree :=
  FileTree.empty.install ["work", "home", ".navredirect", "config.yaml"]
    (.file (Text.Utf8.encode "rfile: b.jsonl\n"))

def sampleStart (args : List String) : Start where
  args := args
  files := sampleFiles
  input := ""
  runtime := ""
  platform := ""
  clock := 0
  stopAfter := none

def configPath (name : String) : Path := ⟨"/", ["work", "home", ".navredirect", name]⟩

theorem userPath_configPath : ∀ name ∈ configFiles,
    Config.userPath sampleFiles.homes (.str (Path.joinText "~/.navredirect" name)) =
      .ok (configPath name) := by
  have hparts : ∀ name ∈ configFiles,
      (Path.ofString (Path.joinText "~/.navredirect" name)).expandUser? sampleFiles.homes =
        some (configPath name) := by
    simp only [Path.expandUser?, Path.ofString_eq]
    decide +kernel
  intro name hname
  rw [Config.userPath, hparts name hname]

theorem readText_yaml :
    sampleFiles.readText (configPath "config.yaml").text = .ok "rfile: b.jsonl\n" := by
  rw [FileTree.readText, FileTree.read, FileTree.locate_eq]
  decide +kernel

theorem exists_yaml : Config.exists? sampleFiles (configPath "config.yaml") = .ok true := by
  have hread := readText_yaml
  unfold FileTree.readText at hread
  cases hbytes : sampleFiles.read (configPath "config.yaml").text with
  | error f => simp [hbytes] at hread
  | ok bytes => simp [Config.exists?, hbytes]

theorem missing_yml : Config.exists? sampleFiles (configPath "config.yml") = .ok false := by
  have hread : sampleFiles.read (configPath "config.yml").text = .error .notFound := by
    rw [FileTree.read, FileTree.locate_eq]
    decide +kernel
  rw [Config.exists?, hread]

def isText (name text : String) : List (String × Value) → Bool
  | [(n, .str t)] => n == name && t == text
  | _ => false

theorem eq_of_isText {name text : String} (h : isText name text values = true) :
    values = [(name, .str text)] := by
  unfold isText at h
  split at h
  · simp_all
  · cases h

theorem eq_of_readText {ε : Type} {name text : String} {values? : Except ε (List (String × Value))}
    (h : values?.toOption.any (isText name text) = true) : values? = .ok [(name, .str text)] := by
  cases values? with
  | error f => cases h
  | ok values => rw [eq_of_isText h]

theorem valuesOf_yaml :
    Config.valuesOf sampleFiles.homes "rfile: b.jsonl\n"
      (some (configPath "config.yaml").absolute.parent) = .ok [("rfile", .str "b.jsonl")] :=
  eq_of_readText (by decide +kernel)

def sampleSources (flags : List (String × Value)) : Sources where
  texts := [("rfile", .str "a.jsonl")]
  yaml := [("rfile", .str "b.jsonl")]
  yml := []
  flags := flags

theorem sampleSources_of {args : List String} {flags : List (String × Value)}
    (htexts : CommandLine.settingTexts given = ["rfile=a.jsonl"])
    (hflags : flags = CommandLine.settingValues settings given) :
    (sampleSources flags).Of (sampleStart args) given := by
  have hpath := userPath_configPath
  refine ⟨?_, ⟨_, hpath "config.yaml" (by decide), .inr ⟨exists_yaml, _, readText_yaml, valuesOf_yaml⟩⟩,
    ⟨_, hpath "config.yml" (by decide), .inl ⟨missing_yml, rfl⟩⟩, hflags⟩
  rw [htexts]
  exact eq_of_readText (by decide +kernel)

theorem valid_record (path : String) : Valid (recordSetting.name, .str path) := by
  have hother : recordSetting.name ≠ cooldownSetting.name ∧
      recordSetting.name ≠ Rules.keySetting.name ∧ recordSetting.name ≠ intervalSetting.name := by
    decide
  exact ⟨⟨recordSetting.setting, _, rfl, rfl⟩, fun h => absurd h hother.1,
    fun h => absurd h hother.2.1, fun h => absurd h hother.2.2⟩

theorem sampleSources_valid {flags : List (String × Value)} (h : ∀ e ∈ flags, Valid e) :
    ∀ e ∈ (sampleSources flags).all, settings.contains e.1 = true → Valid e := by
  intro e he _
  obtain rfl | rfl | hflag : e = ("rfile", .str "a.jsonl") ∨ e = ("rfile", .str "b.jsonl") ∨
      e ∈ flags := by simpa [sampleSources, Sources.all] using he
  · exact valid_record "a.jsonl"
  · exact valid_record "b.jsonl"
  · exact h e hflag

def readsAs (flags : List (String × Value) → Bool) (given : List (String × Value)) : Bool :=
  CommandLine.settingTexts given == ["rfile=a.jsonl"] &&
    flags (CommandLine.settingValues settings given) &&
    !CommandLine.isOn given CommandLine.versionFlag.dest

theorem exists_of_readsAs {ε : Type} {flags : List (String × Value) → Bool}
    {given? : Except ε (List (String × Value))}
    (h : given?.toOption.any (readsAs flags) = true) :
    ∃ given, given? = .ok given ∧ CommandLine.settingTexts given = ["rfile=a.jsonl"] ∧
      flags (CommandLine.settingValues settings given) = true ∧
      CommandLine.isOn given CommandLine.versionFlag.dest = false := by
  cases given? with
  | error f => cases h
  | ok given =>
    have hgiven : readsAs flags given = true := h
    simp only [readsAs, Bool.and_eq_true, beq_iff_eq, Bool.not_eq_true'] at hgiven
    exact ⟨given, rfl, hgiven.1.1, hgiven.1.2, hgiven.2⟩

/-- A flag of its own overrides the config file, and what is behind `--set`. -/
theorem flag_overrides_config_file : ∃ given x y,
    CommandLine.read settings ["--set", "rfile=a.jsonl", "-r", "c.jsonl"] = .ok given ∧
      configure (sampleStart ["--set", "rfile=a.jsonl", "-r", "c.jsonl"]) given x = .ok none y ∧
      y.1.current? "rfile" = some (.str "c.jsonl") := by
  have hargs : (CommandLine.read settings
      ["--set", "rfile=a.jsonl", "-r", "c.jsonl"]).toOption.any
        (readsAs (isText "rfile" "c.jsonl")) = true := by decide +kernel
  obtain ⟨given, hread, htexts, hflags, hversion⟩ := exists_of_readsAs hargs
  have hsrc : (sampleSources [("rfile", .str "c.jsonl")]).Of
      (sampleStart ["--set", "rfile=a.jsonl", "-r", "c.jsonl"]) given :=
    sampleSources_of htexts (eq_of_isText hflags).symm
  have hvalid := sampleSources_valid (List.forall_mem_singleton.mpr (valid_record "c.jsonl"))
  obtain ⟨x, y, -, hconfigure, hvalues⟩ := sources_in_order hsrc hvalid hversion
  obtain ⟨hvalue, -⟩ := hvalues recordSetting (by simp [declarations, standard, core, readEvents,
    Chain.addon, Addon.declares])
  exact ⟨given, x, y, hread, hconfigure, hvalue⟩

/-- What is given behind `--set` does not override the config file. -/
theorem text_does_not_override_config_file : ∃ given x y,
    CommandLine.read settings ["--set", "rfile=a.jsonl"] = .ok given ∧
      (sampleSources []).Of (sampleStart ["--set", "rfile=a.jsonl"]) given ∧
      start (sampleStart ["--set", "rfile=a.jsonl"])
        (initial (sampleStart ["--set", "rfile=a.jsonl"])) = .ok () x ∧
      configure (sampleStart ["--set", "rfile=a.jsonl"]) given x = .ok none y ∧
      y.1.current? "rfile" = some (.str "b.jsonl") ∧
      (sampleSources []).commandLineFirst recordSetting = .str "a.jsonl" := by
  have hargs : (CommandLine.read settings ["--set", "rfile=a.jsonl"]).toOption.any
      (readsAs List.isEmpty) = true := by decide +kernel
  obtain ⟨given, hread, htexts, hflags, hversion⟩ := exists_of_readsAs hargs
  have hsrc : (sampleSources []).Of (sampleStart ["--set", "rfile=a.jsonl"]) given :=
    sampleSources_of htexts (List.isEmpty_iff.mp hflags).symm
  have hvalid := sampleSources_valid (List.forall_mem_nil Valid)
  obtain ⟨x, y, hstart, hconfigure, hlatest⟩ := configure_spec hsrc hvalid hversion
  have hvalue := hlatest "rfile"
  exact ⟨given, x, y, hread, hsrc, hstart, hconfigure, hvalue, rfl⟩

end Tool
end Detour
