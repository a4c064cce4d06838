import Detour.Proofs.Numeral
import Detour.Proofs.Settings.Latest
import Detour.Proofs.Settings.Step
import Mathlib.Data.List.Induction
import Mathlib.Data.List.Nodup
import Mathlib.Data.List.TakeWhile

/-!
# What specs denote

A spec of a command line is the name of a setting, or the name, an equals sign and a text. Specs give
a name one text at most (`Settings.Gives`), or it stands alone, and the type of the setting tells
which value that denotes (`Setting.Denotes`). So specs denote values for the settings they name
(`Settings.Denoted`). Any value of one of the types of a command line is denoted by a spec
(`Settings.specOf`).
-/
namespace Detour

namespace Setting

/-- The value that a text, or no text, denotes for a setting of the type with an old value. -/
inductive Denotes : TypeSpec.Entry → Value → Option String → Value → Prop where
  | text (optional : Bool) (old : Value) (text : String) :
      Denotes (.text optional) old (some text) (.str text)
  | noText (old : Value) : Denotes (.text true) old none .null
  | whole (optional : Bool) (old : Value) {text : String} {n : Int} (hne : text ≠ "")
      (hread : Whole.readInt text = .ok n) : Denotes (.whole optional) old (some text) (.int n)
  | noWhole (old : Value) {text : Option String} (h : text = none ∨ text = some "") :
      Denotes (.whole true) old text .null
  | yes (old : Value) {text : Option String}
      (h : text = none ∨ text = some "" ∨ text = some "true") : Denotes .flag old text (.bool true)
  | no (old : Value) : Denotes .flag old (some "false") (.bool false)
  | toggle (old : Value) : Denotes .flag old (some "toggle") (.bool !old.isTrue)

variable {o : Setting} {v : Value} {text : Option String}

theorem flagOfText_eq_ok : o.flagOfText text = .ok v ↔ Denotes .flag o.current text v := by
  constructor
  · intro h
    unfold flagOfText at h
    split at h <;> cases h
    · exact .yes _ (.inl rfl)
    · exact .yes _ (.inr (.inl rfl))
    · exact .yes _ (.inr (.inr rfl))
    · exact .no _
    · exact .toggle _
  · intro h
    cases h with
    | yes _ h => rcases h with rfl | rfl | rfl <;> rfl
    | no => rfl
    | toggle => rfl

theorem wholeOfText_eq_ok {text : String} :
    wholeOfText text = .ok v ↔ ∃ n, Whole.readInt text = .ok n ∧ v = .int n := by
  unfold wholeOfText
  cases Whole.readInt text <;> simp [eq_comm]

theorem denotes_whole_of_missing {optional : Bool} {old : Value}
    (h : text = none ∨ text = some "") :
    (if optional = true then Except.ok Value.null
      else .error (Failure.setting (.required o.name))) = .ok v ↔
        Denotes (.whole optional) old text v := by
  constructor
  · intro hv
    cases optional <;> cases hv
    exact .noWhole old h
  · intro hv
    cases hv with
    | whole _ _ hne => simp [hne] at h
    | noWhole => rfl

theorem denotes_whole_of_given {optional : Bool} {old : Value} {text : String} (h : text ≠ "") :
    wholeOfText text = .ok v ↔ Denotes (.whole optional) old (some text) v := by
  rw [wholeOfText_eq_ok]
  constructor
  · rintro ⟨n, hread, rfl⟩
    exact .whole optional old h hread
  · intro hv
    cases hv with
    | whole _ _ _ hread => exact ⟨_, hread, rfl⟩
    | noWhole _ hmissing => simp [h] at hmissing

theorem ofText_eq_ok :
    o.ofText text = .ok v ↔ ∃ e, o.type.entry? = some e ∧ Denotes e o.current text v := by
  unfold ofText
  cases o.type.entry? with
  | none => simp
  | some e =>
    simp only [Option.some.injEq, exists_eq_left']
    cases e with
    | flag => exact flagOfText_eq_ok
    | text optional =>
      constructor
      · intro h
        cases text with
        | some text =>
          cases h
          exact .text ..
        | none =>
          cases optional <;> cases h
          exact .noText _
      · intro h
        cases h <;> rfl
    | whole optional =>
      dsimp only
      split
      · exact denotes_whole_of_missing (.inl rfl)
      · exact denotes_whole_of_missing (.inr rfl)
      · next hne => exact denotes_whole_of_given hne

theorem ofTexts_eq_ok {texts : List String} :
    o.ofTexts texts = .ok v ↔ ∃ text : Option String, texts = text.toList ∧ o.ofText text = .ok v := by
  match texts with
  | [] =>
    constructor
    · exact fun h => ⟨none, rfl, h⟩
    · rintro ⟨text, htexts, h⟩
      cases text with
      | none => exact h
      | some text => cases htexts
  | [text] =>
    constructor
    · exact fun h => ⟨some text, rfl, h⟩
    · rintro ⟨text', htexts, h⟩
      cases text' with
      | none => cases htexts
      | some text' =>
        cases htexts
        exact h
  | _ :: _ :: _ =>
    -- a second text is refused, and no choice of a text gives such a list
    constructor
    · intro h
      cases h
    · rintro ⟨text, htexts, -⟩
      cases text <;> cases htexts

def textOf : Value → Option String
  | .str text => some text
  | .int n => some (toString n)
  | .bool b => some (if b then "true" else "false")
  | _ => none

/-- Every value of a type is denoted by its text, unless it is a number with too many digits. -/
theorem denotes_textOf {e : TypeSpec.Entry} (old : Value) (hv : e.type.holds v = true)
    (hdigits : ∀ n, v = .int n → n.natAbs < Nat.pow 10 digitLimit) : Denotes e old (textOf v) v := by
  cases e with
  | flag =>
    cases v with
    | bool b =>
      cases b
      · exact .no old
      · exact .yes old (.inr (.inr rfl))
    | _ => cases hv
  | text optional =>
    cases v with
    | str text => exact .text optional old text
    | null =>
      cases optional with
      | true => exact .noText old
      | false => cases hv
    | _ => cases optional <;> cases hv
  | whole optional =>
    cases v with
    | int n =>
      exact .whole optional old (Whole.toString_ne_empty n) (Whole.readInt_toString (hdigits n rfl))
    | null =>
      cases optional with
      | true => exact .noWhole old (.inl rfl)
      | false => cases hv
    | _ => cases optional <;> cases hv

end Setting

namespace Settings

variable {s : Settings} {name : String} {specs : List String}

theorem splitSpec_of_name (h : '=' ∉ name.toList) : splitSpec name = (name, none) := by
  have hall : name.toList.takeWhile (· != '=') = name.toList :=
    List.takeWhile_eq_self_iff.mpr fun c hc => by simpa using ne_of_mem_of_not_mem hc h
  simp only [splitSpec, hall, List.drop_length]

theorem splitSpec_of_text (h : '=' ∉ name.toList) (text : String) :
    splitSpec (name ++ "=" ++ text) = (name, some text) := by
  have htext : (name ++ "=" ++ text).toList = name.toList ++ '=' :: text.toList := by simp
  have hname : (name.toList ++ '=' :: text.toList).takeWhile (· != '=') = name.toList := by
    rw [List.takeWhile_append_of_pos fun c hc => by simpa using ne_of_mem_of_not_mem hc h]
    simp
  simp only [splitSpec, htext, hname, List.drop_left, String.ofList_toList]

/-- A spec is a name alone, or a name and the text behind the first equals sign. -/
theorem splitSpec_cases (spec : String) :
    '=' ∉ (splitSpec spec).1.toList ∧
      ((splitSpec spec).2 = none ∧ spec = (splitSpec spec).1 ∨
        ∃ text, (splitSpec spec).2 = some text ∧ spec = (splitSpec spec).1 ++ "=" ++ text) := by
  by_cases h : '=' ∈ spec.toList
  · obtain ⟨name, text, hspec, hname⟩ := List.eq_append_cons_of_mem h
    have hjoined : spec = String.ofList name ++ "=" ++ String.ofList text := by
      apply String.toList_injective
      simp [hspec]
    have hplain : '=' ∉ (String.ofList name).toList := by simpa using hname
    have hsplit := splitSpec_of_text hplain (String.ofList text)
    rw [← hjoined] at hsplit
    rw [hsplit]
    exact ⟨hplain, .inr ⟨_, rfl, hjoined⟩⟩
  · rw [splitSpec_of_name h]
    exact ⟨h, .inl ⟨rfl, rfl⟩⟩

def textFor (name spec : String) : Option String :=
  if (splitSpec spec).1 = name then (splitSpec spec).2 else none

theorem textFor_eq_some (h : '=' ∉ name.toList) {spec text : String} :
    textFor name spec = some text ↔ spec = name ++ "=" ++ text := by
  constructor
  · intro hspec
    rcases (splitSpec_cases spec).2 with ⟨hnone, -⟩ | ⟨text', htext, hjoined⟩
    · simp [textFor, hnone] at hspec
    · obtain ⟨rfl, rfl⟩ : (splitSpec spec).1 = name ∧ text' = text := by
        simpa [textFor, htext] using hspec
      exact hjoined
  · rintro rfl
    simp [textFor, splitSpec_of_text h]

def Named (specs : List String) (name : String) : Prop :=
  '=' ∉ name.toList ∧ (name ∈ specs ∨ ∃ text, name ++ "=" ++ text ∈ specs)

theorem named_iff : Named specs name ↔ name ∈ specs.map fun spec => (splitSpec spec).1 := by
  constructor
  · rintro ⟨hplain, hmem | ⟨text, hmem⟩⟩
    · exact List.mem_map.mpr ⟨_, hmem, congrArg (·.1) (splitSpec_of_name hplain)⟩
    · exact List.mem_map.mpr ⟨_, hmem, congrArg (·.1) (splitSpec_of_text hplain text)⟩
  · intro h
    obtain ⟨spec, hmem, rfl⟩ := List.mem_map.mp h
    obtain ⟨hplain, ⟨-, hspec⟩ | ⟨text, -, hspec⟩⟩ := splitSpec_cases spec
    · exact ⟨hplain, .inl (hspec ▸ hmem)⟩
    · exact ⟨hplain, .inr ⟨text, hspec ▸ hmem⟩⟩

/-- What specs give a name: its only text, which is given once, or none if it always stands
alone. -/
inductive Gives (specs : List String) (name : String) : Option String → Prop where
  | none (h : ∀ text, name ++ "=" ++ text ∉ specs) : Gives specs name none
  | one {text : String} (hone : specs.count (name ++ "=" ++ text) = 1)
      (honly : ∀ other, name ++ "=" ++ other ∈ specs → other = text) : Gives specs name (some text)

def textsFor (specs : List String) (name : String) : List String := specs.filterMap (textFor name)

theorem mem_textsFor (h : '=' ∉ name.toList) {text : String} :
    text ∈ textsFor specs name ↔ name ++ "=" ++ text ∈ specs := by
  simp [textsFor, List.mem_filterMap, textFor_eq_some h]

theorem count_textsFor (h : '=' ∉ name.toList) (specs : List String) (text : String) :
    (textsFor specs name).count text = specs.count (name ++ "=" ++ text) := by
  rw [textsFor, List.count_filterMap, List.count]
  refine List.countP_congr fun spec _ => ?_
  simp [textFor_eq_some h]

theorem gives_of_textsFor (h : '=' ∉ name.toList) {text : Option String}
    (htexts : textsFor specs name = text.toList) : Gives specs name text := by
  cases text with
  | none =>
    refine .none fun text hmem => ?_
    have htext := (mem_textsFor h).mpr hmem
    simp [htexts] at htext
  | some text =>
    refine .one ?_ fun other hmem => ?_
    · rw [← count_textsFor h, htexts]
      simp
    · have hother := (mem_textsFor h).mpr hmem
      simpa [htexts] using hother

theorem lookup_addText (name : String) (text : Option String)
    (groups : List (String × List String)) (other : String) :
    (addText name text groups).lookup other =
      if other = name then some ((groups.lookup name).getD [] ++ text.toList)
      else groups.lookup other := by
  induction groups with
  | nil => simp [addText, lookup_cons]
  | cons g rest ih =>
    obtain ⟨n, ts⟩ := g
    rw [lookup_cons]
    by_cases hn : n = name
    · subst hn
      by_cases h : other = n <;> simp [addText, lookup_cons, h]
    · rw [addText, if_neg hn, lookup_cons, ih]
      by_cases h : other = name
      · subst h
        simp [Ne.symm hn]
      · simp [lookup_cons, h]

theorem groupSpecs_concat (specs : List String) (spec : String) :
    groupSpecs (specs ++ [spec]) = addText (splitSpec spec).1 (splitSpec spec).2 (groupSpecs specs) := by
  simp [groupSpecs]

theorem textsFor_concat (specs : List String) (spec : String) :
    textsFor (specs ++ [spec]) name = textsFor specs name ++ (textFor name spec).toList := by
  cases h : textFor name spec <;> simp [textsFor, List.filterMap_append, h]

theorem textsFor_of_unnamed (h : name ∉ specs.map fun spec => (splitSpec spec).1) :
    textsFor specs name = [] := by
  refine List.filterMap_eq_nil_iff.mpr fun spec hspec => if_neg fun hname => h ?_
  exact List.mem_map.mpr ⟨spec, hspec, hname⟩

/-- The specs for one name, and no others, make its group. -/
theorem lookup_groupSpecs (specs : List String) (name : String) :
    (groupSpecs specs).lookup name =
      if name ∈ specs.map (fun spec => (splitSpec spec).1) then some (textsFor specs name)
      else none := by
  -- from the back, since each spec is added to the groups of those before it
  induction specs using List.reverseRecOn with
  | nil => rfl
  | append_singleton specs spec ih =>
    rw [groupSpecs_concat, lookup_addText, textsFor_concat, List.map_append, ih]
    by_cases h : name = (splitSpec spec).1
    · have hbefore : ((groupSpecs specs).lookup (splitSpec spec).1).getD [] =
          textsFor specs name := by
        rw [← h, ih]
        split
        · rfl
        · next hnew => exact (textsFor_of_unnamed hnew).symm
      rw [if_pos h, hbefore]
      simp [h, textFor]
    · have hnone : textFor name spec = none := if_neg (Ne.symm h)
      simp [h, hnone]

theorem lookup_of_mem {β : Type} {entries : List (String × β)} {v : β}
    (hdistinct : (entries.map (·.1)).Nodup) (h : (name, v) ∈ entries) :
    entries.lookup name = some v := by
  obtain ⟨before, later, rfl⟩ := List.append_of_mem h
  refine List.lookup_eq_some_iff.mpr ⟨before, later, rfl, fun e he => ?_⟩
  rw [List.map_append, List.map_cons] at hdistinct
  have hne : e.1 ≠ name :=
    (List.nodup_append.mp hdistinct).2.2 e.1 (List.mem_map_of_mem he) name (by simp)
  exact bne_iff_ne.mpr hne.symm

theorem texts_of_mem_groupSpecs {texts : List String} (h : (name, texts) ∈ groupSpecs specs) :
    texts = textsFor specs name := by
  have hlookup := lookup_of_mem (nodup_groupSpecs specs) h
  rw [lookup_groupSpecs] at hlookup
  split at hlookup <;> cases hlookup
  rfl

theorem named_iff_mem_groupSpecs : Named specs name ↔ name ∈ (groupSpecs specs).map (·.1) := by
  rw [named_iff]
  constructor
  · intro h
    have hlookup := lookup_groupSpecs specs name
    rw [if_pos h] at hlookup
    obtain ⟨before, later, hgroups, -⟩ := List.lookup_eq_some_iff.mp hlookup
    simp [hgroups]
  · intro h
    obtain ⟨⟨name, texts⟩, hmem, rfl⟩ := List.mem_map.mp h
    have hlookup := lookup_of_mem (nodup_groupSpecs specs) hmem
    rw [lookup_groupSpecs] at hlookup
    split at hlookup
    · assumption
    · cases hlookup

variable {values : List (String × Value)}

/-- The specs name settings that exist, and the values are those that the specs denote for them. -/
structure Denoted (s : Settings) (specs : List String) (values : List (String × Value)) : Prop where
  distinct : (values.map (·.1)).Nodup
  named : ∀ name, name ∈ values.map (·.1) ↔ Named specs name
  denotes : ∀ e ∈ values, ∃ o entry text, s.find? e.1 = some o ∧ o.type.entry? = some entry ∧
    Gives specs e.1 text ∧ Setting.Denotes entry o.current text e.2

theorem Denoted.contains (h : s.Denoted specs values) : ∀ e ∈ values, s.contains e.1 = true := by
  intro e he
  obtain ⟨o, -, -, hfind, -⟩ := h.denotes e he
  exact contains_of_find? hfind

theorem denoted_of_read (hread : s.readGroups (groupSpecs specs) = .ok values)
    (hknown : s.unknownGroups specs = []) : s.Denoted specs values := by
  have hcontains : ∀ g ∈ groupSpecs specs, s.contains g.1 = true := by
    simpa [unknownGroups, List.filter_eq_nil_iff] using hknown
  have hnames : values.map (·.1) = (groupSpecs specs).map (·.1) := by
    have hready := (readyValues_texts s (groupSpecs specs)).trans hread
    have hentries : ∀ e ∈ (groupSpecs specs).map fun g => (g.1, PutOff.texts g.2),
        s.contains e.1 = true := List.forall_mem_map.mpr hcontains
    simpa [Function.comp_def] using names_of_readyValues hentries hready
  have hnamed : ∀ name, name ∈ values.map (·.1) ↔ Named specs name := fun name => by
    rw [hnames, named_iff_mem_groupSpecs]
  refine ⟨hnames ▸ nodup_groupSpecs specs, hnamed, fun e he => ?_⟩
  obtain ⟨texts, o, hmem, hfind, hvalue⟩ := mem_readGroups hread he
  obtain ⟨text, htexts, htext⟩ := Setting.ofTexts_eq_ok.mp hvalue
  obtain ⟨entry, hentry, hdenotes⟩ := Setting.ofText_eq_ok.mp htext
  have hplain := ((hnamed e.1).mp (List.mem_map_of_mem he)).1
  exact ⟨o, entry, text, hfind, hentry,
    gives_of_textsFor hplain ((texts_of_mem_groupSpecs hmem).symm.trans htexts), hdenotes⟩

def specOf (e : String × Value) : String :=
  match Setting.textOf e.2 with
  | some text => e.1 ++ "=" ++ text
  | none => e.1

/-- The setting can be named, is of a type of the command line and takes the value, which is no
number with too many digits. -/
structure Expressible (s : Settings) (e : String × Value) : Prop where
  plain : '=' ∉ e.1.toList
  unreserved : e.1 ≠ "self"
  admitted : ∃ o entry, s.find? e.1 = some o ∧ o.type.entry? = some entry ∧
    o.type.holds e.2 = true ∧ ∀ choices, o.choices = some choices → choices.allows e.2 = .ok true
  short : ∀ n, e.2 = .int n → n.natAbs < Nat.pow 10 digitLimit

theorem splitSpec_specOf {e : String × Value} (h : '=' ∉ e.1.toList) :
    splitSpec (specOf e) = (e.1, Setting.textOf e.2) := by
  unfold specOf
  cases Setting.textOf e.2 with
  | none => exact splitSpec_of_name h
  | some text => exact splitSpec_of_text h text

theorem names_specOf (hplain : ∀ e ∈ values, '=' ∉ e.1.toList) :
    (values.map specOf).map (fun spec => (splitSpec spec).1) = values.map (·.1) := by
  rw [List.map_map]
  exact List.map_congr_left fun e he => congrArg (·.1) (splitSpec_specOf (hplain e he))

theorem textsFor_specOf (hdistinct : (values.map (·.1)).Nodup)
    (hplain : ∀ e ∈ values, '=' ∉ e.1.toList) {e : String × Value} (he : e ∈ values) :
    textsFor (values.map specOf) e.1 = (Setting.textOf e.2).toList := by
  -- the entries before and behind this one have other names, and give it no texts
  obtain ⟨before, later, rfl⟩ := List.append_of_mem he
  have hnew : e.1 ∉ before.map (·.1) ∧ e.1 ∉ later.map (·.1) := by
    rw [List.map_append, List.map_cons] at hdistinct
    obtain ⟨-, hlater, hapart⟩ := List.nodup_append.mp hdistinct
    exact ⟨fun h => hapart _ h _ List.mem_cons_self rfl, (List.nodup_cons.mp hlater).1⟩
  have hother : ∀ {part : List (String × Value)}, (∀ e' ∈ part, e' ∈ before ++ e :: later) →
      e.1 ∉ part.map (·.1) → textsFor (part.map specOf) e.1 = [] := by
    intro part hpart h
    refine textsFor_of_unnamed ?_
    rwa [names_specOf fun e' he' => hplain e' (hpart e' he')]
  have hone : textFor e.1 (specOf e) = Setting.textOf e.2 := by
    simp [textFor, splitSpec_specOf (hplain e he)]
  have hparts : (before ++ e :: later).map specOf =
      before.map specOf ++ [specOf e] ++ later.map specOf := by simp
  have happend : ∀ xs ys, textsFor (xs ++ ys) e.1 = textsFor xs e.1 ++ textsFor ys e.1 :=
    fun xs ys => List.filterMap_append
  rw [hparts, happend, textsFor_concat, hone,
    hother (fun _ h => List.mem_append_left _ h) hnew.1,
    hother (fun _ h => List.mem_append_right _ (List.mem_cons_of_mem _ h)) hnew.2]
  simp

theorem readGroups_of_denoting {groups : List (String × List String)}
    (h : ∀ g ∈ groups, ∃ o v, s.find? g.1 = some o ∧ o.ofTexts g.2 = .ok v ∧ (g.1, v) ∈ values) :
    ∃ read, s.readGroups groups = .ok read ∧ read.map (·.1) = groups.map (·.1) ∧
      ∀ e ∈ read, e ∈ values := by
  induction groups with
  | nil => exact ⟨[], rfl, rfl, by simp⟩
  | cons g rest ih =>
    obtain ⟨o, v, hfind, hv, hmem⟩ := h g (by simp)
    obtain ⟨read, hread, hnames, hvalues⟩ := ih fun g' hg' => h g' (by simp [hg'])
    refine ⟨(g.1, v) :: read, ?_, by simp [hnames], List.forall_mem_cons.mpr ⟨hmem, hvalues⟩⟩
    simp only [readGroups, hfind, hv, hread]
    rfl

/-- Specs for values, in any order, are read as the values. -/
theorem read_specOf (hdistinct : (values.map (·.1)).Nodup)
    (hexpressible : ∀ e ∈ values, s.Expressible e) (hspecs : specs.Perm (values.map specOf)) :
    ∃ read, s.readGroups (groupSpecs specs) = .ok read ∧ s.unknownGroups specs = [] ∧
      read.Perm values := by
  have hplain : ∀ e ∈ values, '=' ∉ e.1.toList := fun e he => (hexpressible e he).plain
  have htexts : ∀ e ∈ values, textsFor specs e.1 = (Setting.textOf e.2).toList := by
    intro e he
    have hperm : (textsFor specs e.1).Perm (textsFor (values.map specOf) e.1) :=
      hspecs.filterMap _
    rw [textsFor_specOf hdistinct hplain he] at hperm
    cases h : Setting.textOf e.2 with
    | none => simpa [h] using hperm
    | some text => simpa [h] using hperm
  have hnamed : ∀ name, name ∈ (groupSpecs specs).map (·.1) ↔ name ∈ values.map (·.1) := by
    intro name
    rw [← named_iff_mem_groupSpecs, named_iff, ← names_specOf hplain]
    exact (hspecs.map _).mem_iff
  have hgroups : ∀ g ∈ groupSpecs specs,
      ∃ o v, s.find? g.1 = some o ∧ o.ofTexts g.2 = .ok v ∧ (g.1, v) ∈ values := by
    rintro ⟨name, texts⟩ hg
    obtain ⟨e, he, rfl⟩ := List.mem_map.mp ((hnamed name).mp (List.mem_map_of_mem hg))
    obtain ⟨o, entry, hfind, hentry, hv, -⟩ := (hexpressible e he).admitted
    rw [TypeSpec.holds_of_entry? hentry] at hv
    have hdenotes := Setting.denotes_textOf o.current hv (hexpressible e he).short
    exact ⟨o, e.2, hfind, Setting.ofTexts_eq_ok.mpr ⟨_,
      (texts_of_mem_groupSpecs hg).trans (htexts e he),
      Setting.ofText_eq_ok.mpr ⟨entry, hentry, hdenotes⟩⟩, he⟩
  obtain ⟨read, hread, hnames, hvalues⟩ := readGroups_of_denoting hgroups
  have hunknown : s.unknownGroups specs = [] := by
    refine List.filter_eq_nil_iff.mpr fun g hg => ?_
    obtain ⟨o, -, hfind, -⟩ := hgroups g hg
    simp [contains, hfind]
  have hreadDistinct : (read.map (·.1)).Nodup := hnames ▸ nodup_groupSpecs specs
  refine ⟨read, hread, hunknown, ?_⟩
  -- both have the same names, each of them once, so that it is enough that the read ones are given
  refine (List.perm_ext_iff_of_nodup hreadDistinct.of_map hdistinct.of_map).mpr fun e => ?_
  refine ⟨hvalues e, fun he => ?_⟩
  have hmem : e.1 ∈ read.map (·.1) := by
    rw [hnames, hnamed]
    exact List.mem_map_of_mem he
  obtain ⟨e', he', hname⟩ := List.mem_map.mp hmem
  rwa [← List.inj_on_of_nodup_map hdistinct (hvalues e' he') he hname]

end Settings
end Detour
