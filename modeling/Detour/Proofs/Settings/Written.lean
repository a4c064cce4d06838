import Detour.Proofs.Settings.Specs

/-!
# Settings written as specs

Specs give all the settings that they name the values that they denote, or change nothing
(`Settings.written_or_unchanged`), and all values of the types of a command line can be given so
(`Settings.specOf_written`). This is not so where choices that are the parts of one text are asked for
a value that is no text, and for a name that updates keep for themselves
(`Settings.parts_leave_specs_half_done`).
-/
namespace Detour.Settings

variable {R : Type} {l : Listener R} {s t : Settings} {r r' : R} {specs : List String}
  {values : List (String × Value)}

structure Assigned (values : List (String × Value)) (s t : Settings) : Prop where
  putOff : t.putOff = s.putOff
  declared : ∀ name, t.declared? name = s.declared? name
  given : ∀ e ∈ values, t.current? e.1 = some e.2
  others : ∀ name, name ∉ values.map (·.1) → t.current? name = s.current? name

theorem Assigned.of_perm {values' : List (String × Value)} (h : Assigned values s t)
    (hperm : values.Perm values') : Assigned values' s t :=
  ⟨h.putOff, h.declared, fun e he => h.given e (hperm.mem_iff.mpr he),
    fun name hname => h.others name (mt (hperm.map _).mem_iff.mp hname)⟩

/-- Values for distinct names that their settings take are the values that the settings have then. -/
theorem assigned_of_latest {table : List Setting} (hdistinct : (values.map (·.1)).Nodup)
    (htaken : ∀ e ∈ values, s.Takes e) (hlatest : Latest values s { s with table })
    (hdeclared : ∀ name, ({ s with table } : Settings).declared? name = s.declared? name) :
    Assigned values s { s with table } := by
  refine ⟨rfl, hdeclared, fun e he => ?_, fun name hname => ?_⟩
  · have hreverse : (values.reverse.map (·.1)).Nodup := by
      rw [List.map_reverse]
      exact List.nodup_reverse.mpr hdistinct
    have hlast : lastFor values e.1 = some e.2 :=
      lookup_of_mem hreverse (List.mem_reverse.mpr he)
    obtain ⟨o, -, ho, -⟩ := htaken e he
    obtain ⟨o, hfind, -⟩ := Option.map_eq_some_iff.mp ho
    rw [hlatest e.1, hlast, current?, hfind]
    rfl
  · have hlast : lastFor values name = none := by
      cases h : lastFor values name with
      | none => rfl
      | some v => exact absurd (List.mem_map_of_mem (mem_of_lastFor h)) hname
    rw [hlatest name, hlast]
    cases s.current? name <;> rfl

theorem setAll_of_fitting (hl : l.Orderly) (hfit : s.Fitting values) (r : R) :
    (∃ f r', setAll l values (s, r) = .error f (s, r')) ∨
      ∃ table r', setAll l values (s, r) = .ok () ({ s with table }, r') ∧
        assignAll values (s, r) = .ok () ({ s with table }, r) := by
  by_cases hempty : values = []
  · subst hempty
    exact .inr ⟨s.table, r, rfl, rfl⟩
  have hback : ∀ f table told, ∃ f' r', takeBack l (values.map (·.1)) true s.table f
      ({ s with table }, told) = .error f' (s, r') := by
    intro f table told
    obtain ⟨g, r', h⟩ := takeBack_spec hl (values.map (·.1)) f s table told
    exact ⟨_, r', h⟩
  obtain ⟨table, ha | ⟨f, ha⟩⟩ := assignAll_of_fitting hfit r
  · cases hc : l.changed table (values.map (·.1)) r with
    | ok u r' => exact .inr ⟨table, r', setAll_of_accepted hempty ha hc, ha⟩
    | error f told =>
      obtain ⟨f, rfl⟩ := Failure.isRefusal_iff.mp (hl.changed hc)
      rw [setAll_of_refused hempty ha hc]
      exact .inl (hback f table told)
  · rw [setAll_of_unchosen hempty ha]
    exact .inl (hback f table r)

/-- The values that specs denote can be compared with the choices for them. -/
def Judged (s : Settings) (specs : List String) : Prop :=
  ∀ values, s.Denoted specs values →
    ∀ e ∈ values, ∀ o, s.find? e.1 = some o → o.fits e.2 = true

/-- This is so wherever choices are listed one by one. -/
theorem judged_of_listed
    (h : ∀ name o whole, s.find? name = some o → o.choices ≠ some (.partsOf whole))
    (specs : List String) : s.Judged specs := by
  intro values hdenoted e he o hfind
  obtain ⟨o', entry, text, hfind', hentry, -, hdenotes⟩ := hdenoted.denotes e he
  obtain rfl : o = o' := Option.some.inj (hfind.symm.trans hfind')
  exact Setting.fits_of_listed (fun whole => h e.1 o whole hfind)
    (Setting.holds_of_ofText (Setting.ofText_eq_ok.mpr ⟨entry, hentry, hdenotes⟩))

/-- Specs set what they denote, or they fail and nothing is changed. -/
theorem written_or_unchanged (hl : l.Orderly) (hjudged : s.Judged specs) (r : R) :
    (∃ f r', setFromTexts l specs false (s, r) = .error f (s, r')) ∨
      ∃ values t r', setFromTexts l specs false (s, r) = .ok () (t, r') ∧
        s.Denoted specs values ∧ Assigned values s t := by
  rcases setFromTexts_cases l specs s r with ⟨f, hset⟩ | ⟨values, hread, hknown, hset⟩
  · exact .inl ⟨f, r, hset⟩
  have hdenoted := denoted_of_read hread hknown
  have hfit : s.Fitting values := by
    intro e he
    obtain ⟨o, -, -, hfind, -⟩ := hdenoted.denotes e he
    exact ⟨_, declared?_of_find? hfind, hjudged values hdenoted e he o hfind⟩
  rw [update_of_known hdenoted.contains] at hset
  rcases setAll_of_fitting hl hfit r with ⟨f, r', hall⟩ | ⟨table, r', hall, hassign⟩
  · exact .inl ⟨f, r', hset.trans hall⟩
  · exact .inr ⟨values, _, r', hset.trans hall, hdenoted, assigned_of_latest hdenoted.distinct
      (takes_of_assignAll hassign) (latest_of_assignAll hassign) (declared?_assignAll hassign)⟩

theorem takes_of_expressible {e : String × Value} (h : s.Expressible e) : s.Takes e := by
  obtain ⟨o, -, hfind, -, hv, hallowed⟩ := h.admitted
  exact ⟨_, _, declared?_of_find? hfind,
    (o.assign_value none e.2).trans (Setting.assign_of_allowed hv hallowed)⟩

/-- Specs for values, in any order, set exactly these, if whoever listens accepts them. -/
theorem specOf_written (hdistinct : (values.map (·.1)).Nodup)
    (hexpressible : ∀ e ∈ values, s.Expressible e) (hspecs : specs.Perm (values.map specOf))
    (l : Listener R) (r : R) :
    ∃ names t, names.Perm (values.map (·.1)) ∧ Assigned values s t ∧
      ∀ r', (if values = [] then r' = r else l.changed t.table names r = .ok () r') →
        setFromTexts l specs false (s, r) = .ok () (t, r') := by
  obtain ⟨read, hread, hknown, hperm⟩ := read_specOf hdistinct hexpressible hspecs
  have hdenoted := denoted_of_read hread hknown
  have htaken : ∀ e ∈ read, s.Takes e := fun e he =>
    takes_of_expressible (hexpressible e (hperm.mem_iff.mp he))
  have hplain : ∀ e ∈ read, e.1 ≠ "self" := fun e he =>
    (hexpressible e (hperm.mem_iff.mp he)).unreserved
  obtain ⟨table, hlatest, hdeclared, hset⟩ := setAll_of_taken htaken l r
  refine ⟨read.map (·.1), _, hperm.map _,
    (assigned_of_latest hdenoted.distinct htaken hlatest hdeclared).of_perm hperm, fun r' hr' => ?_⟩
  have hempty : read = [] ↔ values = [] :=
    ⟨fun h => (h ▸ hperm).nil_eq.symm, fun h => (h ▸ hperm).eq_nil⟩
  simp only [← hempty] at hr'
  have htexts := setFromTexts_of_known hread hknown l false r
  rw [updateByName_of_plain hplain] at htexts
  exact htexts.trans ((update_of_known hdenoted.contains l r).trans (hset r' hr'))

/-- Specs set what they denote or change nothing, and any values can be set by specs. -/
theorem specs_set_what_they_denote (hl : l.Orderly) (s : Settings) (r : R) :
    (∀ specs, s.Judged specs →
      (∃ f r', setFromTexts l specs false (s, r) = .error f (s, r')) ∨
        ∃ values t r', setFromTexts l specs false (s, r) = .ok () (t, r') ∧
          s.Denoted specs values ∧ Assigned values s t) ∧
    ∀ values specs, (values.map (·.1)).Nodup → (∀ e ∈ values, s.Expressible e) →
      specs.Perm (values.map specOf) →
      ∃ names t, names.Perm (values.map (·.1)) ∧ Assigned values s t ∧
        ∀ r', (if values = [] then r' = r else l.changed t.table names r = .ok () r') →
          setFromTexts l specs false (s, r) = .ok () (t, r') :=
  ⟨fun _ hjudged => written_or_unchanged hl hjudged r,
    fun _ _ hdistinct hexpressible hspecs => specOf_written hdistinct hexpressible hspecs l r⟩

def menu : Settings where
  table := [⟨"quiet", .bool, .bool false, "", none, none⟩,
    ⟨"level", .str, .str "info", "", some (.texts ["info", "debug"]), none⟩,
    ⟨"path", .optionalStr, .str "~", "", none, none⟩,
    ⟨"interval", .int, .int 300, "", none, none⟩,
    ⟨"limit", .optionalInt, .int 5, "", none, none⟩]
  putOff := []

theorem listed_menu (name : String) (o : Setting) (whole : String) (h : menu.find? name = some o) :
    o.choices ≠ some (.partsOf whole) := by
  have hmem : o ∈ menu.table := List.mem_of_find?_eq_some h
  simp only [menu, List.mem_cons, List.not_mem_nil, or_false] at hmem
  rcases hmem with rfl | rfl | rfl | rfl | rfl <;> simp

/-- Specs of which one is refused change nothing; specs for values of all types set these. -/
theorem menu_set_by_specs :
    (∃ f r', setFromTexts (wary "interval") ["quiet", "level=loud"] false (menu, []) =
        .error f (menu, r')) ∧
      ∃ t r', setFromTexts (wary "interval") ["interval=60", "path", "limit", "quiet=true"] false
          (menu, []) = .ok () (t, r') ∧ t.current? "interval" = some (.int 60) ∧
        t.current? "level" = menu.current? "level" := by
  obtain ⟨hall, hwritten⟩ := specs_set_what_they_denote (orderly_wary "interval") menu []
  constructor
  · have hgroups : groupSpecs ["quiet", "level=loud"] = [("quiet", []), ("level", ["loud"])] := by
      decide +kernel
    have hread : menu.readGroups (groupSpecs ["quiet", "level=loud"]) =
        .ok [("quiet", .bool true), ("level", .str "loud")] := by
      rw [hgroups]
      rfl
    have hknown : menu.unknownGroups ["quiet", "level=loud"] = [] := by
      rw [unknownGroups, hgroups]
      rfl
    have hrefused : updateByName (wary "interval") [("quiet", .bool true), ("level", .str "loud")]
        (menu, []) = .error (.setting (.notAChoice "level" (.str "loud") ["info", "debug"]))
          (menu, [["quiet", "level"]]) := rfl
    rcases hall _ (judged_of_listed listed_menu _) with h | ⟨-, t, r', hset, -, -⟩
    · exact h
    · rw [setFromTexts_of_known hread hknown, hrefused] at hset
      cases hset
  · let values := [("quiet", Value.bool true), ("path", .null), ("limit", .null),
      ("interval", .int 60)]
    have hshort : ∀ digits, 2 ≤ digits → 60 < Nat.pow 10 digits := fun _ h =>
      Nat.lt_of_lt_of_le (by decide : 60 < Nat.pow 10 2) (Nat.pow_le_pow_right (by decide) h)
    have hexpressible : ∀ e ∈ values, menu.Expressible e := by
      intro e he
      simp only [values, List.mem_cons, List.not_mem_nil, or_false] at he
      have hfree : ∀ {v : Value} (choices : Choices), none = some choices →
          choices.allows v = .ok true := fun _ h => by cases h
      rcases he with rfl | rfl | rfl | rfl
      · exact ⟨by decide, by decide, ⟨_, _, rfl, rfl, rfl, hfree⟩, fun _ hn => by cases hn⟩
      · exact ⟨by decide, by decide, ⟨_, _, rfl, rfl, rfl, hfree⟩, fun _ hn => by cases hn⟩
      · exact ⟨by decide, by decide, ⟨_, _, rfl, rfl, rfl, hfree⟩, fun _ hn => by cases hn⟩
      · refine ⟨by decide, by decide, ⟨_, _, rfl, rfl, rfl, hfree⟩, fun n hn => ?_⟩
        cases hn
        exact hshort digitLimit (by decide)
    have hrendered : values.map specOf = ["quiet=true", "path", "limit", "interval=60"] := by
      decide +kernel
    have hspecs : ["interval=60", "path", "limit", "quiet=true"].Perm (values.map specOf) := by
      rw [hrendered]
      decide
    obtain ⟨names, t, -, hassigned, hset⟩ := hwritten values _ (by decide) hexpressible hspecs
    have hsixty : t.current? "interval" = some (.int 60) :=
      hassigned.given ("interval", .int 60) (by simp [values])
    have haccepted : (wary "interval").changed t.table names [] = .ok () [names] := by
      have hfound : (t.table.find? (·.name = "interval")).map Setting.current = some (.int 60) :=
        hsixty
      simp [wary, hfound]
    exact ⟨t, [names], hset _ haccepted, hsixty, hassigned.others "level" (by decide)⟩

def onlySelf : Settings := ⟨[⟨"self", .str, .str "", "", none, none⟩], []⟩

/-- The parts of a text are no choices for a value that is no text: what is set before it stays set.
And there is a name that cannot be set. -/
theorem parts_leave_specs_half_done :
    (wary "count").Orderly ∧
      (∃ f t, setFromTexts (wary "count") ["count=5", "letter"] false (lettered, []) =
          .error f (t, []) ∧ lettered.current? "count" = some (.int 1) ∧
        t.current? "count" = some (.int 5)) ∧
      ∃ f, setFromTexts (wary "count") ["self=me"] false (onlySelf, []) = .error f (onlySelf, []) := by
  refine ⟨orderly_wary "count", ?_, ?_⟩
  · have hgroups : groupSpecs ["count=5", "letter"] = [("count", ["5"]), ("letter", [])] := by
      decide +kernel
    have hfive : Whole.readInt "5" = .ok 5 := by decide +kernel
    have hcount : (⟨"count", .int, .int 1, "", none, none⟩ : Setting).ofTexts ["5"] = .ok (.int 5) :=
      Setting.ofTexts_eq_ok.mpr ⟨some "5", rfl, Setting.ofText_eq_ok.mpr
        ⟨.whole false, rfl, .whole false _ (by decide) hfive⟩⟩
    have hfind : lettered.find? "count" = some ⟨"count", .int, .int 1, "", none, none⟩ := rfl
    have hread : lettered.readGroups (groupSpecs ["count=5", "letter"]) =
        .ok [("count", .int 5), ("letter", .null)] := by
      rw [hgroups]
      simp only [readGroups, hfind, hcount]
      rfl
    have hknown : lettered.unknownGroups ["count=5", "letter"] = [] := by
      rw [unknownGroups, hgroups]
      rfl
    rw [setFromTexts_of_known hread hknown]
    exact ⟨_, _, rfl, rfl, rfl⟩
  · have hgroups : groupSpecs ["self=me"] = [("self", ["me"])] := by decide +kernel
    have hread : onlySelf.readGroups (groupSpecs ["self=me"]) = .ok [("self", .str "me")] := by
      rw [hgroups]
      rfl
    have hknown : onlySelf.unknownGroups ["self=me"] = [] := by
      rw [unknownGroups, hgroups]
      rfl
    rw [setFromTexts_of_known hread hknown]
    exact ⟨_, rfl⟩

end Detour.Settings
