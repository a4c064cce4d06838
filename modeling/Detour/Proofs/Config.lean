import Detour.Config
import Detour.Proofs.Path
import Detour.Proofs.Settings.Misfit
import Detour.Proofs.Settings.Specs
import Detour.Proofs.Store

/-!
# What a config file does to the settings

The entries of a config file become values by name (`Config.valuesOf_cases`), which are set, put off
or refused. A refusal names the file and leaves the settings as they were. Some files end the
loading with another failure: those in which a scalar is ill-formed, the rules file is no path or a
key is no name (`Config.Spoilt`), and those with a value that does not fit its setting
(`Config.reported_where_sound`).
-/
namespace Detour

namespace Value

variable {entries : List (Value × Value)} {name other : String} {v : Value}

theorem eq_str_of_same (h : v.same (str name) = true) : v = str name := by
  cases v with
  | str t => rw [beq_iff_eq.mp ((same_str t name).symm.trans h)]
  | _ => simp [same, numbersAgree, toRat?, toInt?] at h

theorem field?_cons (name : String) (e : Value × Value) (rest : List (Value × Value)) :
    field? name (e :: rest) = if e.1.same (str name) then some e.2 else field? name rest := by
  unfold field? lookup?
  cases h : e.1.same (str name) <;> simp [h]

theorem keys_insert (h : field? name entries = some v) (value : Value) :
    (insert (str name) value entries).map (·.1) = entries.map (·.1) := by
  induction entries with
  | nil => cases h
  | cons e rest ih =>
    obtain ⟨k, w⟩ := e
    cases hk : k.same (str name) with
    | true => simp [insert, hk]
    | false =>
      rw [field?_cons, hk, if_neg Bool.false_ne_true] at h
      simp [insert, hk, ih h]

theorem field?_insert_other (h : other ≠ name) (value : Value) :
    field? other (insert (str name) value entries) = field? other entries := by
  induction entries with
  | nil => simp [insert, field?_cons, same_str, h.symm]
  | cons e rest ih =>
    obtain ⟨k, w⟩ := e
    cases hk : k.same (str name) with
    | true =>
      obtain rfl := eq_str_of_same hk
      simp [insert, field?_cons, same_str, h.symm]
    | false => simp [insert, hk, field?_cons, ih]

def ofNamed (values : List (String × Value)) : List (Value × Value) :=
  values.map fun e => (str e.1, e.2)

theorem textKeys_of_keys {entries' : List (Value × Value)}
    (h : entries.map (·.1) = entries'.map (·.1)) : textKeys entries = textKeys entries' := by
  have hmap : ∀ es : List (Value × Value), textKeys es = (es.map (·.1)).filterMap text? :=
    fun es => by rw [textKeys, List.filterMap_map]; rfl
  rw [hmap, hmap, h]

theorem textKeys_ofNamed (values : List (String × Value)) :
    textKeys (ofNamed values) = values.map (·.1) := by
  rw [textKeys, ofNamed, List.filterMap_map, ← List.filterMap_eq_map]
  rfl

theorem field?_ofNamed (name : String) (values : List (String × Value)) :
    field? name (ofNamed values) = values.lookup name := by
  induction values with
  | nil => rfl
  | cons e rest ih =>
    obtain ⟨k, v⟩ := e
    have hgo : ofNamed ((k, v) :: rest) = (str k, v) :: ofNamed rest := rfl
    rw [hgo, field?_cons, ih, same_str, lookup_cons]
    by_cases h : name = k
    · simp [h]
    · simp [h, Ne.symm h]

end Value

namespace Settings

/-- Where every name is given once, it does not matter whether first or last. -/
theorem lastFor_of_distinct {values : List (String × Value)} (h : (values.map (·.1)).Nodup)
    (name : String) : lastFor values name = values.lookup name := by
  cases hlast : lastFor values name with
  | some v => exact (lookup_of_mem h (mem_of_lastFor hlast)).symm
  | none =>
    rw [lastFor, List.lookup_eq_none_iff] at hlast
    exact (List.lookup_eq_none_iff.mpr fun e he => hlast e (List.mem_reverse.mpr he)).symm

end Settings

namespace Config

variable {homes : Path.Homes} {text : String} {base : Path} {entries : List (Value × Value)}
  {v : Value} {f : Failure}

theorem isRefusal_of_userPath (h : userPath homes v = .error f) : f.isRefusal = false := by
  unfold userPath at h
  split at h
  · split at h <;> cases h
    rfl
  · cases h
    rfl

/-- What a config file gives for a name; for the rules file, the path of it as seen from the
directory of the config file. -/
def fileValue (homes : Path.Homes) (base : Path) (entries : List (Value × Value))
    (name : String) : Option Value :=
  (Value.field? name entries).map fun v =>
    if name = rulesFileKey ∧ v.isTrue then
      match relativePath homes v base with
      | .ok p => .str p.text
      | .error _ => v
    else v

def BadRulesFile (homes : Path.Homes) (entries : List (Value × Value)) : Prop :=
  ∃ v, Value.field? rulesFileKey entries = some v ∧ v.isTrue = true ∧
    ∀ p, userPath homes v ≠ .ok p

/-- The rules file is taken from the directory of the config file, unless it is no path. -/
theorem resolveRulesFile_cases (homes : Path.Homes) (base : Path) (entries : List (Value × Value)) :
    (∃ f, resolveRulesFile homes (some base) entries = .error f ∧ f.isRefusal = false ∧
        BadRulesFile homes entries) ∨
      ∃ resolved, resolveRulesFile homes (some base) entries = .ok resolved ∧
        ¬ BadRulesFile homes entries ∧ resolved.map (·.1) = entries.map (·.1) ∧
        ∀ name, Value.field? name resolved = fileValue homes base entries name := by
  have hplain : (∀ v, Value.field? rulesFileKey entries = some v → v.isTrue = false) →
      ∀ name, Value.field? name entries = fileValue homes base entries name := by
    intro hfalse name
    cases hv : Value.field? name entries with
    | none => simp [fileValue, hv]
    | some v =>
      have hkeep : ¬(name = rulesFileKey ∧ v.isTrue = true) := by
        rintro ⟨rfl, htrue⟩
        rw [hfalse v hv] at htrue
        cases htrue
      simp [fileValue, hv, hkeep]
  have hgood : (∀ v, Value.field? rulesFileKey entries = some v → v.isTrue = true →
      ∃ p, userPath homes v = .ok p) → ¬ BadRulesFile homes entries := by
    rintro hpath ⟨v, hv, htrue, hbad⟩
    obtain ⟨p, hp⟩ := hpath v hv htrue
    exact hbad p hp
  cases hv : Value.field? rulesFileKey entries with
  | none =>
    exact .inr ⟨entries, by simp only [resolveRulesFile, hv], hgood (by simp [hv]), rfl,
      hplain (by simp [hv])⟩
  | some v =>
    cases htrue : v.isTrue with
    | false =>
      refine .inr ⟨entries, ?_, hgood (by simp [hv, htrue]), rfl, hplain (by simp [hv, htrue])⟩
      simp only [resolveRulesFile, hv, htrue, Bool.false_eq_true, if_false]
    | true =>
      cases hpath : userPath homes v with
      | error f =>
        refine .inl ⟨f, ?_, isRefusal_of_userPath hpath, v, hv, htrue, by simp [hpath]⟩
        simp [resolveRulesFile, hv, htrue, relativePath, hpath, Except.map, bind, Except.bind]
      | ok p =>
        refine .inr
          ⟨Value.insert (.str rulesFileKey) (.str (base.join p).absolute.text) entries, ?_,
          hgood (by simp [hv, hpath]), Value.keys_insert hv _, fun name => ?_⟩
        · simp [resolveRulesFile, hv, htrue, relativePath, hpath, Except.map, bind, Except.bind,
            pure, Except.pure]
        · by_cases hname : name = rulesFileKey
          · subst hname
            simp [Value.field?_insert, fileValue, hv, htrue, relativePath, hpath, Except.map]
          · rw [Value.field?_insert_other hname]
            simp [fileValue, hname]

/-- A key that is no name: no text, or the word that the operation keeps for itself. -/
def BadKey (key : Value) : Prop := ∀ name, key = .str name → name = "self"

theorem exists_badKey {entries' : List (Value × Value)}
    (h : entries.map (·.1) = entries'.map (·.1)) :
    (∃ e ∈ entries, BadKey e.1) ↔ ∃ e ∈ entries', BadKey e.1 := by
  have hmap : ∀ es : List (Value × Value), (∃ e ∈ es, BadKey e.1) ↔
      ∃ k ∈ es.map (·.1), BadKey k := fun es => by
    simp only [List.mem_map, exists_exists_and_eq_and]
  rw [hmap, hmap, h]

def nameOf (e : Value × Value) : Except Failure (String × Value) :=
  match e.1 with
  | .str name => .ok (name, e.2)
  | _ => .error .nameNotText

theorem nameOf_cases (e : Value × Value) :
    (nameOf e = .error .nameNotText ∧ ∀ name, e.1 ≠ .str name) ∨
      ∃ name, e.1 = .str name ∧ nameOf e = .ok (name, e.2) := by
  obtain ⟨k, v⟩ := e
  cases k with
  | str name => exact .inr ⟨name, rfl, rfl⟩
  | _ => exact .inl ⟨rfl, fun name => by simp⟩

theorem mapM_nameOf (entries : List (Value × Value)) :
    (entries.mapM nameOf = .error .nameNotText ∧ ∃ e ∈ entries, ∀ name, e.1 ≠ .str name) ∨
      ∃ values, entries.mapM nameOf = .ok values ∧ entries = Value.ofNamed values := by
  induction entries with
  | nil => exact .inr ⟨[], rfl, rfl⟩
  | cons e rest ih =>
    rw [List.mapM_cons]
    rcases nameOf_cases e with ⟨he, hother⟩ | ⟨name, hname, he⟩
    · exact .inl ⟨by rw [he]; rfl, e, by simp, hother⟩
    rcases ih with ⟨hrest, b, hb, hother⟩ | ⟨values, hrest, rfl⟩
    · exact .inl ⟨by rw [he, hrest]; rfl, b, by simp [hb], hother⟩
    · refine .inr ⟨(name, e.2) :: values, by rw [he, hrest]; rfl, ?_⟩
      rw [Value.ofNamed, Value.ofNamed, List.map_cons, ← hname]

theorem named_eq (operation : String) (entries : List (Value × Value)) :
    named operation entries = entries.mapM nameOf >>= fun values =>
      if values.any (·.1 = "self") then throw (.reservedName operation) else pure values := by
  unfold named
  refine congrArg _ (funext fun values => ?_)
  dsimp only
  split <;> rfl

theorem named_cases (operation : String) (entries : List (Value × Value)) :
    (∃ f, named operation entries = .error f ∧ f.isRefusal = false ∧ ∃ e ∈ entries, BadKey e.1) ∨
      ∃ values, named operation entries = .ok values ∧ entries = Value.ofNamed values ∧
        ∀ e ∈ entries, ¬ BadKey e.1 := by
  rw [named_eq]
  rcases mapM_nameOf entries with ⟨hmap, e, he, hother⟩ | ⟨values, hmap, rfl⟩
  · exact .inl ⟨.nameNotText, by rw [hmap]; rfl, rfl, e, he, fun name h => absurd h (hother name)⟩
  rw [hmap]
  cases hself : values.any (·.1 = "self") with
  | true =>
    obtain ⟨e, he, hname⟩ := List.any_eq_true.mp hself
    refine .inl ⟨.reservedName operation, by simp only [bind, Except.bind, hself]; rfl, rfl,
      (.str e.1, e.2), List.mem_map_of_mem he, ?_⟩
    rintro name ⟨⟩
    simpa using hname
  | false =>
    refine .inr ⟨values, by simp only [bind, Except.bind, hself]; rfl, rfl, ?_⟩
    intro e he hbad
    obtain ⟨v, hv, rfl⟩ := List.mem_map.mp he
    have hname := List.any_eq_false.mp hself v hv
    exact hname (by simpa using hbad v.1 rfl)

variable {R : Type} {l : Listener R} {files : FileTree} {path : String} {p : Path}
  {bytes : List UInt8} {s : Settings}

theorem readText_cases (hread : files.read p.text = .ok bytes) :
    (∃ f, files.readText p.text = .error (.encoding f)) ∨
      ∃ text, files.readText p.text = .ok text := by
  cases hdecode : Text.Utf8.decode bytes with
  | error f => exact .inl ⟨f, by simp only [FileTree.readText, hread, hdecode]⟩
  | ok cs =>
    exact .inr ⟨String.ofList (unifyBreaks cs), by simp only [FileTree.readText, hread, hdecode]⟩

section Codec

variable [Yaml.Codec]

theorem parse_failure (h : parse text = .error f) : f.isRefusal = true ∨
    text ≠ "" ∧ ∃ family message, Yaml.read text = .error (.scalar family message) := by
  unfold parse at h
  split at h
  · cases h
  · rename_i hsome
    split at h
    · rename_i fault hread
      obtain rfl := Except.error.inj h
      cases fault with
      | scalar family message => exact .inr ⟨hsome, family, message, hread⟩
      | _ => exact .inl rfl
    · cases h
    · cases h
    · obtain rfl := Except.error.inj h
      exact .inl rfl

theorem distinct_parse [Yaml.Codec.Lawful] (h : parse text = .ok entries) :
    (Value.textKeys entries).Nodup := by
  unfold parse at h
  split at h
  · cases h
    exact List.nodup_nil
  · split at h
    · cases h
    · cases h
      exact List.nodup_nil
    · rename_i hread
      cases h
      exact Yaml.distinct_read hread
    · cases h

/-- What ends the loading of a config file with a failure that is no refusal. -/
inductive Spoilt (homes : Path.Homes) (text : String) : Prop
  /-- A scalar is ill-formed for its tag. -/
  | scalar {family message : String} (hsome : text ≠ "")
      (h : Yaml.read text = .error (.scalar family message))
  | rulesFile {entries : List (Value × Value)} (h : parse text = .ok entries)
      (hbad : BadRulesFile homes entries)
  | key {entries : List (Value × Value)} (h : parse text = .ok entries)
      {e : Value × Value} (he : e ∈ entries) (hbad : BadKey e.1)

theorem spoilt_of_parse_error (h : parse text = .error f) :
    Spoilt homes text ↔ f.isRefusal = false := by
  constructor
  · rintro (⟨hsome, hread⟩ | ⟨hok, -⟩ | ⟨hok, -, -⟩)
    · simp only [parse, if_neg hsome, hread] at h
      rw [← Except.error.inj h]
      rfl
    · rw [h] at hok
      cases hok
    · rw [h] at hok
      cases hok
  · intro hf
    rcases parse_failure h with hrefusal | ⟨hsome, family, message, hread⟩
    · rw [hf] at hrefusal
      cases hrefusal
    · exact .scalar hsome hread

theorem spoilt_of_parse_ok (h : parse text = .ok entries) :
    Spoilt homes text ↔ BadRulesFile homes entries ∨ ∃ e ∈ entries, BadKey e.1 := by
  constructor
  · rintro (⟨hsome, hread⟩ | ⟨hok, hbad⟩ | ⟨hok, he, hbad⟩)
    · simp [parse, hsome, hread] at h
    · obtain rfl := Except.ok.inj (h.symm.trans hok)
      exact .inl hbad
    · obtain rfl := Except.ok.inj (h.symm.trans hok)
      exact .inr ⟨_, he, hbad⟩
  · rintro (hbad | ⟨e, he, hbad⟩)
    · exact .rulesFile h hbad
    · exact .key h he hbad

/-- The values that a text gives are those of its entries; there are none if the text is refused, or
if it is spoilt. -/
theorem valuesOf_cases [Yaml.Codec.Lawful] (homes : Path.Homes) (text : String) (base : Path) :
    (Spoilt homes text ∧ ∃ f, valuesOf homes text (some base) = .error f ∧ f.isRefusal = false) ∨
      ¬ Spoilt homes text ∧ ((∃ f, valuesOf homes text (some base) = .error (.setting f)) ∨
        ∃ entries values, parse text = .ok entries ∧ valuesOf homes text (some base) = .ok values ∧
          Settings.lastFor values = fileValue homes base entries) := by
  cases hparse : parse text with
  | error f =>
    have hfail : valuesOf homes text (some base) = .error f := by
      rw [valuesOf, hparse]
      rfl
    rw [spoilt_of_parse_error hparse]
    cases f with
    | setting f => exact .inr ⟨by simp [Failure.isRefusal], .inl ⟨f, hfail⟩⟩
    | _ => exact .inl ⟨rfl, _, hfail, rfl⟩
  | ok entries =>
    rw [spoilt_of_parse_ok hparse]
    have hgo : valuesOf homes text (some base) = (resolveRulesFile homes (some base) entries >>=
        named "OptManager.update_defer") := by
      rw [valuesOf, hparse]
      rfl
    rcases resolveRulesFile_cases homes base entries with
      ⟨f, hresolve, hf, hbad⟩ | ⟨resolved, hresolve, hgood, hkeys, hfields⟩
    · exact .inl ⟨.inl hbad, f, by rw [hgo, hresolve]; rfl, hf⟩
    have hnamed : valuesOf homes text (some base) = named "OptManager.update_defer" resolved := by
      rw [hgo, hresolve]
      rfl
    rcases named_cases "OptManager.update_defer" resolved with
      ⟨f, hfail, hf, hbad⟩ | ⟨values, hok, rfl, hnames⟩
    · exact .inl ⟨.inr ((exists_badKey hkeys).mp hbad), f, hnamed.trans hfail, hf⟩
    refine .inr ⟨?_, .inr ⟨entries, values, rfl, hnamed.trans hok, funext fun name => ?_⟩⟩
    · rintro (hbad | hbad)
      · exact hgood hbad
      · obtain ⟨e, he, hbad⟩ := (exists_badKey hkeys).mpr hbad
        exact hnames e he hbad
    · have hdistinct : (values.map (·.1)).Nodup := by
        rw [← Value.textKeys_ofNamed, Value.textKeys_of_keys hkeys]
        exact distinct_parse hparse
      rw [Settings.lastFor_of_distinct hdistinct, ← Value.field?_ofNamed, hfields]

/-- What the file holds is no text, or a text that is not spoilt and whose values fit their
settings, as far as they are looked at. -/
def Sound (files : FileTree) (p : Path) (s : Settings) : Prop :=
  ∀ text, files.readText p.text = .ok text → ¬ Spoilt files.homes text ∧
    ∀ values, valuesOf files.homes text (some p.absolute.parent) = .ok values →
      ¬ s.Misfits (s.known values)

theorem loadPaths_of_read (hpath : userPath files.homes (.str path) = .ok p)
    (hread : files.read p.text = .ok bytes) (l : Listener R) :
    loadPaths l files [path] = loadFile l files p := by
  have hexists : exists? files p = .ok true := by rw [exists?, hread]
  rw [loadPaths]
  simp only [hpath, hexists, loadPaths, bind_pure_unit]

theorem load_of_values {base : Option Path} {values : List (String × Value)}
    (h : valuesOf homes text base = .ok values) (l : Listener R) :
    load l homes text base = Settings.updateOrDefer l values := by
  rw [load, h]

theorem load_of_failure {base : Option Path} (h : valuesOf homes text base = .error f)
    (l : Listener R) (x : Settings × R) : load l homes text base x = .error f x := by
  rw [load, h]
  rfl

theorem loadFile_of_encoding {f : Text.Utf8.Fault}
    (h : files.readText p.text = .error (.encoding f)) (l : Listener R) (x : Settings × R) :
    loadFile l files p x = .error (.setting (.inFile p.text f.message)) x := by
  simp only [loadFile, h]

theorem loadFile_of_refusal {f : SettingFault} {x y : Settings × R}
    (h : files.readText p.text = .ok text)
    (hload : load l files.homes text (some p.absolute.parent) x = .error (.setting f) y) :
    loadFile l files p x = .error (.setting (.inFile p.text f.message)) y := by
  simp only [loadFile, h, hload]

theorem loadFile_of_failure {x y : Settings × R} (h : files.readText p.text = .ok text)
    (hload : load l files.homes text (some p.absolute.parent) x = .error f y)
    (hf : f.isRefusal = false) : loadFile l files p x = .error f y := by
  simp only [loadFile, h, hload]
  cases f with
  | setting g => cases hf
  | _ => rfl

theorem loadFile_of_loaded {x y : Settings × R} (h : files.readText p.text = .ok text)
    (hload : load l files.homes text (some p.absolute.parent) x = .ok () y) :
    loadFile l files p x = .ok () y := by
  simp only [loadFile, h, hload]

/-- Loading a config file takes its entries over, or is refused with the name of the file and leaves
the settings as they were, exactly if what the file holds is sound: no scalar in it is ill-formed,
the rules file is a path, the keys are names, and the values fit the settings that there are.
Otherwise it fails in another way, perhaps with some of the settings set, and nobody is told. -/
theorem reported_where_sound [Yaml.Codec.Lawful] (hl : l.Orderly)
    (hpath : userPath files.homes (.str path) = .ok p) (hread : files.read p.text = .ok bytes)
    (s : Settings) (r : R) :
    (Sound files p s →
        (∃ text entries t r', files.readText p.text = .ok text ∧ parse text = .ok entries ∧
            loadPaths l files [path] (s, r) = .ok () (t, r') ∧
            s.TakenOver (fileValue files.homes p.absolute.parent entries) t) ∨
          ∃ message r', loadPaths l files [path] (s, r) =
            .error (.setting (.inFile p.text message)) (s, r')) ∧
      (¬ Sound files p s → ∃ f table, f.isRefusal = false ∧
        loadPaths l files [path] (s, r) = .error f ({ s with table }, r)) := by
  rw [loadPaths_of_read hpath hread]
  rcases readText_cases hread with ⟨f, htext⟩ | ⟨text, htext⟩
  · -- What is no text is refused as it is decoded.
    have hsound : Sound files p s := fun text h => by simp [htext] at h
    exact ⟨fun _ => .inr ⟨_, r, loadFile_of_encoding htext l (s, r)⟩, fun h => absurd hsound h⟩
  have hsound : Sound files p s ↔ ¬ Spoilt files.homes text ∧ ∀ values,
      valuesOf files.homes text (some p.absolute.parent) = .ok values →
        ¬ s.Misfits (s.known values) := by
    simp [Sound, htext]
  rw [hsound]
  rcases valuesOf_cases files.homes text p.absolute.parent with
    ⟨hspoilt, f, hvalues, hf⟩ | ⟨hgood, ⟨f, hvalues⟩ | ⟨entries, values, hparse, hvalues, hgiven⟩⟩
  · have hload := load_of_failure hvalues l (s, r)
    exact ⟨fun h => absurd hspoilt h.1,
      fun _ => ⟨f, s.table, hf, loadFile_of_failure htext hload hf⟩⟩
  · have hload := load_of_failure hvalues l (s, r)
    refine ⟨fun _ => .inr ⟨_, r, loadFile_of_refusal htext hload⟩, fun h => absurd ⟨hgood, ?_⟩ h⟩
    simp [hvalues]
  have hload := load_of_values hvalues l
  by_cases hfit : s.Misfits (s.known values)
  · obtain ⟨f, table, hupdate, hf⟩ := Settings.updateOrDefer_of_misfits hfit l r
    rw [← hload] at hupdate
    exact ⟨fun h => absurd hfit (h.2 values hvalues),
      fun _ => ⟨f, table, hf, loadFile_of_failure htext hupdate hf⟩⟩
  · refine ⟨fun _ => ?_, fun h => absurd ⟨hgood, by simpa [hvalues] using hfit⟩ h⟩
    rcases Settings.updateOrDefer_of_no_misfit hl hfit r with
      ⟨t, r', hupdate, htaken⟩ | ⟨f, r', hupdate⟩
    · rw [← hload] at hupdate
      exact .inl ⟨text, entries, t, r', htext, hparse, loadFile_of_loaded htext hupdate,
        hgiven ▸ htaken⟩
    · rw [← hload] at hupdate
      exact .inr ⟨_, r', loadFile_of_refusal htext hupdate⟩

end Codec

def oneFile (text : String) : FileTree :=
  FileTree.empty.put ["work", "c.yaml"] (.file (Text.Utf8.encode text))

theorem locate_oneFile : FileTree.empty.locate "c.yaml" = .ok ["work", "c.yaml"] := by
  rw [FileTree.locate_eq]
  decide +kernel

theorem read_oneFile (text : String) :
    (oneFile text).read "c.yaml" = .ok (Text.Utf8.encode text) := by
  rw [FileTree.read, oneFile, FileTree.locate_put locate_oneFile (by decide)]
  rfl

theorem readText_oneFile (h : '\r' ∉ text.toList) :
    (oneFile text).readText "c.yaml" = .ok text := by
  rw [FileTree.readText, read_oneFile]
  dsimp only
  rw [Text.Utf8.decode_encode]
  dsimp only
  rw [unifyBreaks_of_not_mem h, String.ofList_toList]

theorem expandUser?_plain (homes : Path.Homes) : ∀ name ∈ ["c.yaml", "r.yaml"],
    (Path.ofString name).expandUser? homes = some ⟨"", [name]⟩ := by
  intro name hname
  obtain ⟨hparts, hplain⟩ : Path.ofString name = ⟨"", [name]⟩ ∧ name.toList.head? ≠ some '~' := by
    revert name
    simp only [Path.ofString_eq]
    decide +kernel
  rw [hparts, Path.expandUser?]
  exact if_neg hplain

theorem userPath_plain (homes : Path.Homes) : ∀ name ∈ ["c.yaml", "r.yaml"],
    userPath homes (.str name) = .ok ⟨"", [name]⟩ := by
  intro name hname
  rw [userPath, expandUser?_plain homes name hname]

def isNumberAndText (number : String) (n : Int) (name text : String) :
    List (Value × Value) → Bool
  | [(.str a, .int m), (.str b, .str t)] => a == number && m == n && b == name && t == text
  | _ => false

theorem parse_of_check {n : Int} {number name t : String}
    (h : (parse text).toOption.any (isNumberAndText number n name t) = true) :
    parse text = .ok [(.str number, .int n), (.str name, .str t)] := by
  cases hparse : parse text with
  | error f =>
    rw [hparse] at h
    cases h
  | ok entries =>
    rw [hparse] at h
    have hentries : isNumberAndText number n name t entries = true := h
    unfold isNumberAndText at hentries
    split at hentries
    · simp_all
    · cases hentries

def onePath : Path := ⟨"", ["c.yaml"]⟩

def numberAndRules : List (Value × Value) :=
  [(.str "cooldown", .int 500), (.str "rules_file", .str "r.yaml")]

theorem relativePath_rules (homes : Path.Homes) :
    relativePath homes (.str "r.yaml") onePath.absolute.parent =
      .ok ⟨"/", ["work", "r.yaml"]⟩ := by
  rw [relativePath, userPath_plain _ "r.yaml" (by simp)]
  rfl

theorem valuesOf_rules (hparse : parse text = .ok numberAndRules) :
    valuesOf homes text (some onePath.absolute.parent) =
      .ok [("cooldown", .int 500), ("rules_file", .str "/work/r.yaml")] := by
  have hfield : Value.field? rulesFileKey numberAndRules = some (.str "r.yaml") := rfl
  have hresolve : resolveRulesFile homes (some onePath.absolute.parent) numberAndRules =
      .ok [(.str "cooldown", .int 500), (.str "rules_file", .str "/work/r.yaml")] := by
    simp only [resolveRulesFile, hfield, relativePath_rules]
    rfl
  rw [valuesOf, hparse]
  simp only [bind, Except.bind, hresolve]
  rfl

theorem loadPaths_oneFile (text : String) (l : Listener R) (h : '\r' ∉ text.toList) :
    (oneFile text).readText onePath.text = .ok text ∧
      loadPaths l (oneFile text) ["c.yaml"] = loadFile l (oneFile text) onePath :=
  ⟨readText_oneFile h, loadPaths_of_read (userPath_plain _ "c.yaml" (by simp)) (read_oneFile text) l⟩

/-- A sound config file sets the number, and puts the rules file off with its path. -/
theorem two_lines_taken_over : ∃ t r',
    loadPaths (Settings.wary "interval") (oneFile "cooldown: 500\nrules_file: r.yaml\n") ["c.yaml"]
        (Settings.twoNumbers, []) = .ok () (t, r') ∧
      t.current? "cooldown" = some (.int 500) ∧ t.current? "interval" = some (.int 300) ∧
      t.putOff.lookup "rules_file" = some (.value (.str "/work/r.yaml")) := by
  have hparse : parse "cooldown: 500\nrules_file: r.yaml\n" = .ok numberAndRules :=
    parse_of_check (by decide +kernel)
  obtain ⟨htext, hfile⟩ := loadPaths_oneFile "cooldown: 500\nrules_file: r.yaml\n"
    (Settings.wary "interval") (by decide)
  obtain ⟨y, hupdate⟩ : ∃ y, Settings.updateOrDefer (Settings.wary "interval")
      [("cooldown", .int 500), ("rules_file", .str "/work/r.yaml")] (Settings.twoNumbers, []) =
        .ok () y := ⟨_, rfl⟩
  rw [← load_of_values (valuesOf_rules hparse)] at hupdate
  have hload := hfile ▸ loadFile_of_loaded htext hupdate
  obtain ⟨hreported, hother⟩ := reported_where_sound (Settings.orderly_wary "interval")
    (userPath_plain _ "c.yaml" (by simp)) (read_oneFile "cooldown: 500\nrules_file: r.yaml\n")
    Settings.twoNumbers []
  have hsound := Classical.byContradiction fun h => by
    obtain ⟨f, table, -, hfail⟩ := hother h
    rw [hload] at hfail
    cases hfail
  rcases hreported hsound with
    ⟨text, entries, t, r', hread, hentries, ht, htaken⟩ | ⟨_, _, hrefused⟩
  · obtain rfl := Except.ok.inj (htext.symm.trans hread)
    obtain rfl := Except.ok.inj (hparse.symm.trans hentries)
    refine ⟨t, r', ht, htaken.current "cooldown", htaken.current "interval", ?_⟩
    have hgiven : fileValue FileTree.empty.homes onePath.absolute.parent numberAndRules "rules_file" =
        some (.str "/work/r.yaml") := by
      have hfield : Value.field? "rules_file" numberAndRules = some (.str "r.yaml") := rfl
      simp only [fileValue, hfield, Option.map_some, relativePath_rules]
      rfl
    rw [htaken.putOff "rules_file"]
    exact congrArg (fun v => (v.map PutOff.value).or none) hgiven
  · rw [hload] at hrefused
    cases hrefused

/-- A value of the wrong type ends the loading with another failure than a refusal, and what stands
before it stays set; and the word that an update keeps for itself ends it as well. -/
theorem bad_config_files_not_reported :
    (∃ f t, loadPaths (Settings.wary "interval") (oneFile "cooldown: 500\ninterval: soon\n")
        ["c.yaml"] (Settings.twoNumbers, []) = .error f (t, []) ∧ f.isRefusal = false ∧
        Settings.twoNumbers.current? "cooldown" = some (.int 3000) ∧
        t.current? "cooldown" = some (.int 500)) ∧
      ∃ f, loadPaths (Settings.wary "interval") (oneFile "cooldown: 500\nself: soon\n")
        ["c.yaml"] (Settings.twoNumbers, []) = .error f (Settings.twoNumbers, []) ∧
        f.isRefusal = false := by
  constructor
  · have hparse : parse "cooldown: 500\ninterval: soon\n" =
        .ok [(.str "cooldown", .int 500), (.str "interval", .str "soon")] :=
      parse_of_check (by decide +kernel)
    have hvalues : valuesOf FileTree.empty.homes "cooldown: 500\ninterval: soon\n"
        (some onePath.absolute.parent) =
        .ok [("cooldown", .int 500), ("interval", .str "soon")] := by
      rw [valuesOf, hparse]
      rfl
    obtain ⟨f, t, hupdate, hf, ht⟩ : ∃ f t, Settings.updateOrDefer (Settings.wary "interval")
        [("cooldown", .int 500), ("interval", .str "soon")] (Settings.twoNumbers, []) =
          .error f (t, []) ∧ f.isRefusal = false ∧ t.current? "cooldown" = some (.int 500) :=
      ⟨_, _, rfl, rfl, rfl⟩
    obtain ⟨htext, hfile⟩ := loadPaths_oneFile "cooldown: 500\ninterval: soon\n"
      (Settings.wary "interval") (by decide)
    rw [← load_of_values hvalues] at hupdate
    exact ⟨f, t, hfile ▸ loadFile_of_failure htext hupdate hf, hf, rfl, ht⟩
  · have hparse : parse "cooldown: 500\nself: soon\n" =
        .ok [(.str "cooldown", .int 500), (.str "self", .str "soon")] :=
      parse_of_check (by decide +kernel)
    have hvalues : valuesOf FileTree.empty.homes "cooldown: 500\nself: soon\n"
        (some onePath.absolute.parent) =
        .error (.reservedName "OptManager.update_defer") := by
      rw [valuesOf, hparse]
      rfl
    obtain ⟨htext, hfile⟩ := loadPaths_oneFile "cooldown: 500\nself: soon\n"
      (Settings.wary "interval") (by decide)
    have hload := load_of_failure hvalues (Settings.wary "interval") (Settings.twoNumbers, [])
    exact ⟨_, hfile ▸ loadFile_of_failure htext hload rfl, rfl⟩

end Config
end Detour
