import Detour.Proofs.Config
import Detour.Proofs.Rule.Survival
import Detour.Proofs.Store

/-!
# How stores fail

Reading and setting a key of a file and reading the rules in it either succeed or end in a failure of
the store, which callers expect, for almost every path and content of a file
(`Store.regular_unless_spoilt`). The exceptions are a path with a null byte, a document with a scalar
that is ill-formed for its tag, one with a block whose first empty line is indented less than a line
after it (`Store.Spoilt`), and for setting a key also a whole number that is too long to be written.
-/
namespace Detour

namespace FileTree

variable {t : FileTree} {path : String}

theorem follow_ne_nulByte (t : FileTree) (start parts : List String) :
    t.follow start parts ≠ .error .nulByte := by
  induction parts generalizing start with
  | nil => simp [follow]
  | cons part rest ih =>
    unfold follow
    split
    · simp
    · simp
    · split_ifs
      · simp
      · exact ih _
      · exact ih _
      · exact ih _

theorem locate_eq_nulByte_iff : t.locate path = .error .nulByte ↔ '\x00' ∈ path.toList := by
  rw [locate_eq]
  split_ifs with hnul hempty hlong
  · simp [hnul]
  · simp [hnul]
  · simp [hnul]
  · simp [hnul, follow_ne_nulByte]
  · simp [hnul, follow_ne_nulByte]

theorem readText_eq_nulByte_iff :
    t.readText path = .error (.file .nulByte) ↔ '\x00' ∈ path.toList := by
  rw [← locate_eq_nulByte_iff (t := t), readText, read]
  cases t.locate path with
  | error f => cases f <;> simp [bind, Except.bind]
  | ok place =>
    simp only [bind, Except.bind, reduceCtorEq, iff_false]
    cases t.node? place with
    | none => simp [throw, throwThe, MonadExceptOf.throw]
    | some n =>
      cases n with
      | directory => simp [throw, throwThe, MonadExceptOf.throw]
      | file bytes =>
        dsimp only [pure, Except.pure]
        cases Text.Utf8.decode bytes <;> simp

end FileTree

namespace Store

open Yaml

variable {files : FileTree} {p : Path} {α β : Type}

def Regular (r : Except Failure α) : Prop := (∃ v, r = .ok v) ∨ ∃ f, r = .error (.store f)

theorem regular_ok (v : α) : Regular (.ok v) := .inl ⟨v, rfl⟩

theorem regular_store (f : StoreFault) : Regular (.error (.store f) : Except Failure α) :=
  .inr ⟨f, rfl⟩

theorem regular_map_iff {f : α → β} {r : Except Failure α} : Regular (r.map f) ↔ Regular r := by
  cases r <;> simp [Regular, Except.map]

section Codec

variable [Codec]

/-- What ends reading with another failure. -/
inductive Spoilt (files : FileTree) (path : String) : Prop
  | nulByte (h : '\x00' ∈ path.toList)
  /-- A scalar is ill-formed for its tag. -/
  | scalar {text family message : String} (htext : files.readText path = .ok text)
      (h : Codec.read text = .error (.scalar family message))
  /-- The first empty line of a block is indented, but less than a line after it. -/
  | indented {text : String} (htext : files.readText path = .ok text)
      (h : Codec.read text = .error .indentedBefore)

theorem spoilt_iff_of_text {path text : String} (htext : files.readText path = .ok text) :
    Spoilt files path ↔ (∃ family message, Codec.read text = .error (.scalar family message)) ∨
      Codec.read text = .error .indentedBefore := by
  constructor
  · rintro (hnul | ⟨htext', h⟩ | ⟨htext', h⟩)
    · rw [FileTree.readText_eq_nulByte_iff.mpr hnul] at htext
      cases htext
    · obtain rfl := Except.ok.inj (htext.symm.trans htext')
      exact .inl ⟨_, _, h⟩
    · obtain rfl := Except.ok.inj (htext.symm.trans htext')
      exact .inr h
  · rintro (⟨family, message, h⟩ | h)
    · exact .scalar htext h
    · exact .indented htext h

theorem spoilt_iff_of_unread {path : String} {f : TextFileFault}
    (htext : files.readText path = .error f) : Spoilt files path ↔ f = .file .nulByte := by
  constructor
  · rintro (hnul | ⟨htext', -⟩ | ⟨htext', -⟩)
    · exact Except.error.inj (htext.symm.trans (FileTree.readText_eq_nulByte_iff.mpr hnul))
    · cases htext.symm.trans htext'
    · cases htext.symm.trans htext'
  · rintro rfl
    exact .nulByte (FileTree.readText_eq_nulByte_iff.mp htext)

theorem regular_parse_iff (path text : String) :
    Regular (parse path text) ↔
      ¬ ((∃ family message, Codec.read text = .error (.scalar family message)) ∨
        Codec.read text = .error .indentedBefore) := by
  unfold parse
  cases Codec.read text with
  | error f => cases f <;> simp [Regular, faultOf]
  | ok x =>
    cases x with
    | plain v => cases v <;> simp [Regular]
    | _ => simp [Regular]

theorem regular_readShared_iff {path : String} :
    Regular (readShared files path) ↔ ¬ Spoilt files path := by
  cases htext : files.readText path with
  | ok text =>
    rw [spoilt_iff_of_text htext, ← regular_parse_iff path text, readShared, readText, htext]
    rfl
  | error f =>
    rw [spoilt_iff_of_unread htext, readShared, readText, htext]
    rcases f with f | f
    · cases f <;> simp [Regular, bind, Except.bind, pure, Except.pure]
    · simp [Regular, bind, Except.bind]

theorem regular_get_iff (key : String) (default : Value) :
    Regular ((file p).get files key default) ↔ ¬ Spoilt files p.text := by
  rw [Store.get, Store.entries, regular_map_iff, regular_map_iff, regular_readShared_iff]

/-- Whatever the file holds, it could be written out with this value under the key. -/
def Writes (files : FileTree) (path key : String) (value : Value) : Prop :=
  ∀ es, readShared files path = .ok es →
    entriesAreWritable (Value.insert (.str key) value (Shared.entryValues es)) = true

theorem regular_set_iff (key : String) (value : Value) :
    Regular ((file p).set files key value) ↔
      ¬ Spoilt files p.text ∧ Writes files p.text key value := by
  rw [← regular_readShared_iff]
  cases hread : readShared files p.text with
  | error f =>
    simp only [set, hread, bind, Except.bind, Writes, reduceCtorEq, false_implies, implies_true,
      and_true]
    cases f <;> simp [Regular]
  | ok es =>
    have hwrites : Writes files p.text key value ↔
        entriesAreWritable (Value.insert (.str key) value (Shared.entryValues es)) = true := by
      simp [Writes, hread]
    rw [set_file hread, hwrites]
    split_ifs with hnumbers
    · cases files.write p.text (Text.Utf8.encode (printWith es key value)) with
      | error f => simp [hnumbers, regular_ok, regular_store]
      | ok t => simp [hnumbers, regular_ok]
    · simp [hnumbers, Regular]

theorem regular_rules_iff {r : Rules.Request} {table : List Setting} {w : World} :
    Regular (r.rules table w) ↔ Regular (r.value w (.list [])) := by
  unfold Rules.Request.rules
  cases r.value w (.list []) with
  | error f => cases f <;> simp [Regular, bind, Except.bind]
  | ok v => cases v <;> simp [Regular, bind, Except.bind, pure, Except.pure, throw, throwThe,
      MonadExceptOf.throw]

theorem outcome_all (table : List Setting) (g : Scene World) :
    outcome (Rules.all table) g =
      ((Rules.Request.mk g.world.rulesPath (World.textIn table Rules.keySetting.name)).rules table
        g.world.countLookup).map (·.1) := by
  have hall : Rules.all table g =
      (Rules.Request.mk g.world.rulesPath (World.textIn table Rules.keySetting.name)).finish table
        { g with world := g.world.countLookup } := rfl
  rw [outcome, hall]
  cases hrules : (Rules.Request.mk g.world.rulesPath
      (World.textIn table Rules.keySetting.name)).rules table g.world.countLookup with
  | error f =>
    rw [Rules.Request.finish, get_bind, hrules]
    rfl
  | ok found =>
    obtain ⟨log, hfinish⟩ :=
      Rules.finish_of_rules (s := { g with world := g.world.countLookup }) hrules
    rw [hfinish]
    rfl

theorem regular_all_iff {table : List Setting} {g : Scene World}
    (hpath : g.world.rulesPath = some p) :
    Regular (outcome (Rules.all table) g) ↔ ¬ Spoilt g.world.files p.text := by
  rw [outcome_all, regular_map_iff, regular_rules_iff, hpath]
  exact regular_get_iff _ _

/-- A store in a file that any path is accepted for returns what is asked for or fails as stores do,
and so does reading the rules in it, exactly if it is not spoilt. Setting a key also wants numbers that
can be written. -/
theorem regular_unless_spoilt {homes : Path.Homes} {path : String} {s : Store}
    (haccepted : atPath homes path = .ok s) (files : FileTree) :
    ∃ p, s = file p ∧
      (∀ key default, Regular (s.get files key default) ↔ ¬ Spoilt files p.text) ∧
      (∀ key value, Regular (s.set files key value) ↔
        ¬ Spoilt files p.text ∧ Writes files p.text key value) ∧
      ∀ table (g : Scene World), g.world.rulesPath = some p → g.world.files = files →
        (Regular (outcome (Rules.all table) g) ↔ ¬ Spoilt files p.text) := by
  unfold atPath at haccepted
  cases hp : (Path.ofString path).expandUser? homes with
  | none => simp [hp] at haccepted
  | some p =>
    simp only [hp, Except.ok.injEq] at haccepted
    refine ⟨p, haccepted.symm, ?_, ?_, ?_⟩
    · exact haccepted ▸ regular_get_iff
    · exact haccepted ▸ regular_set_iff
    · rintro table g hpath rfl
      exact regular_all_iff hpath

end Codec

def worldWithRules : World :=
  { World.fresh (Config.oneFile Rules.sampleText) "" (.ofEntries []) (.fresh .recording none) with
    rulesPath := some Config.onePath }

/-- A file that holds rules is read and set, and the rules are found in it. -/
theorem rules_file_is_regular :
    ∃ p, atPath FileTree.empty.homes "c.yaml" = .ok (file p) ∧
      Regular ((file p).get (Config.oneFile Rules.sampleText) "a" .null) ∧
      Regular ((file p).set (Config.oneFile Rules.sampleText) "a" (.int 1)) ∧
      Regular (outcome (Rules.all Rules.sampleTable) ⟨0, worldWithRules, []⟩) := by
  have haccepted : atPath FileTree.empty.homes "c.yaml" = .ok (file Config.onePath) := by
    rw [atPath, Config.expandUser?_plain _ "c.yaml" (by simp)]
    rfl
  have htidy : '\r' ∉ Rules.sampleText.toList := by
    rw [← Rules.print_sample, printWith_eq]
    exact Codec.Lawful.tidy _
  have htext : (Config.oneFile Rules.sampleText).readText Config.onePath.text =
      .ok Rules.sampleText := Config.readText_oneFile htidy
  obtain ⟨label, es, hread, hes⟩ := Rules.entries_of_isSample Rules.isSample_read
  have hsound : ¬ Spoilt (Config.oneFile Rules.sampleText) Config.onePath.text := by
    rw [spoilt_iff_of_text htext, hread]
    simp
  have hwrites : Writes (Config.oneFile Rules.sampleText) Config.onePath.text "a" (.int 1) := by
    intro es' hes'
    obtain rfl := Except.ok.inj ((readShared_of_read htext hread).symm.trans hes')
    rw [hes]
    decide +kernel
  obtain ⟨p, hp, hget, hset, hrules⟩ :=
    regular_unless_spoilt haccepted (Config.oneFile Rules.sampleText)
  obtain rfl : Config.onePath = p := by
    cases hp
    rfl
  exact ⟨_, haccepted, (hget _ _).mpr hsound, (hset _ _).mpr ⟨hsound, hwrites⟩,
    (hrules _ _ rfl rfl).mpr hsound⟩

def faultIn : Except Yaml.Fault Shared → Option Yaml.Fault
  | .error f => some f
  | .ok _ => none

theorem eq_error_of_faultIn {x : Except Yaml.Fault Shared} {f : Yaml.Fault}
    (h : faultIn x = some f) : x = .error f := by
  cases x with
  | error g => exact congrArg _ (Option.some.inj h)
  | ok v => cases h

/-- A day that does not exist makes reading and setting any key fail, and not as stores fail. -/
theorem impossible_day_is_irregular :
    ∃ f, (∀ key default, (file Config.onePath).get (Config.oneFile "a: 2001-02-30\n") key default =
        .error f) ∧
      (∀ key value, (file Config.onePath).set (Config.oneFile "a: 2001-02-30\n") key value =
        .error f) ∧ ∀ g, f ≠ .store g := by
  have hday : Codec.read "a: 2001-02-30\n" =
      .error (.scalar "ValueError" "day is out of range for month") :=
    eq_error_of_faultIn (by decide +kernel)
  have htext : (Config.oneFile "a: 2001-02-30\n").readText Config.onePath.text =
      .ok "a: 2001-02-30\n" := Config.readText_oneFile (by decide)
  have hread : readShared (Config.oneFile "a: 2001-02-30\n") Config.onePath.text =
      .error (.foreign "ValueError" "day is out of range for month") := by
    simp only [readShared, readText, htext, parse, hday, bind, Except.bind, faultOf]
  refine ⟨.foreign "ValueError" "day is out of range for month", fun key default => ?_,
    fun key value => ?_, by simp⟩
  · simp only [Store.get, Store.entries, hread, Except.map]
  · simp only [Store.set, hread, bind, Except.bind]

end Store

end Detour
