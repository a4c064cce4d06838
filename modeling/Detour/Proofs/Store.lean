import Detour.Proofs.FileTree
import Detour.Proofs.Yaml.Codec
import Detour.Store

/-!
# Stores hold what is put into them

A value that is put into a store under a key is there afterwards, and every other entry of the mapping
is what it was (`Store.entries_set_memory`, `Store.entries_set_file`). A file holds it, whatever
documents are read and printed by, if the mapping that is written is one that reading undoes
(`Yaml.Shared.Survives`) and nothing is printed that line breaks could spoil (`Yaml.Codec.Lawful`).
-/
namespace Detour

namespace Value

theorem same_str (s t : String) : (str s).same (str t) = (s == t) := rfl

theorem field?_insert (key : String) (value : Value) (entries : List (Value × Value)) :
    field? key (insert (str key) value entries) = some value := by
  have hself : (str key).same (str key) = true := by rw [same_str, beq_self_eq_true]
  induction entries with
  | nil => simp [insert, field?, lookup?, hself]
  | cons e rest ih =>
    obtain ⟨k, v⟩ := e
    cases hk : k.same (str key) with
    | true => simp [insert, field?, lookup?, hk]
    | false =>
      simp only [field?, lookup?] at ih
      simp [insert, field?, lookup?, hk, ih]

end Value

namespace Yaml.Shared

theorem entryValues_putShared (key : Value) (value : Shared) (es : List (Shared × Shared)) :
    entryValues (Store.putShared key value es) = Value.insert key value.value (entryValues es) := by
  induction es with
  | nil => rfl
  | cons e rest ih =>
    obtain ⟨k, v⟩ := e
    cases hk : k.value.same key with
    | true => simp [Store.putShared, entryValues, Value.insert, hk]
    | false => simp [Store.putShared, entryValues, Value.insert, hk, ih]

mutual

theorem value_ofValue (next : Nat) (v : Value) : (ofValue next v).1.value = v := by
  cases v with
  | list xs => exact congrArg Value.list (values_ofValues (next + 1) xs)
  | tuple xs => exact congrArg Value.tuple (values_ofValues next xs)
  | map es => exact congrArg Value.map (entryValues_ofEntries (next + 1) es)
  | set xs => exact congrArg Value.set (values_ofValues (next + 1) xs)
  | _ => rfl
termination_by structural v

theorem values_ofValues (next : Nat) (xs : List Value) : values (ofValues next xs).1 = xs := by
  cases xs with
  | nil => rfl
  | cons x xs =>
    exact congr (congrArg List.cons (value_ofValue next x)) (values_ofValues _ xs)
termination_by structural xs

theorem entryValues_ofEntries (next : Nat) (es : List (Value × Value)) :
    entryValues (ofEntries next es).1 = es := by
  cases es with
  | nil => rfl
  | cons e es =>
    obtain ⟨k, v⟩ := e
    exact congr (congrArg List.cons (congr (congrArg Prod.mk (value_ofValue next k))
      (value_ofValue _ v))) (entryValues_ofEntries _ es)
termination_by structural es

end

/-- The mapping with these entries can be written, and is read back from the text that is written of
it, with other labels at most. -/
def Survives [Codec] (label : Nat) (es : List (Shared × Shared)) : Prop :=
  entriesAreWritable (entryValues es) = true ∧
    ∃ label' es', Codec.read (Codec.print (.map label es)) = .ok (.map label' es') ∧
      entryValues es' = entryValues es

end Yaml.Shared

namespace Store

open Yaml

def written (es : List (Shared × Shared)) (key : String) (value : Value) :
    Nat × List (Shared × Shared) :=
  let next := Shared.entryBound es + 1
  ((Shared.ofValue next value).2, putShared (.str key) (Shared.ofValue next value).1 es)

theorem entryValues_written (es : List (Shared × Shared)) (key : String) (value : Value) :
    Shared.entryValues (written es key value).2 =
      Value.insert (.str key) value (Shared.entryValues es) := by
  rw [written, Shared.entryValues_putShared, Shared.value_ofValue]

variable [Codec] {files : FileTree} {p : Path} {es : List (Shared × Shared)}

theorem readShared_of_read {path text : String} {label : Nat}
    (htext : files.readText path = .ok text) (hread : Codec.read text = .ok (.map label es)) :
    readShared files path = .ok es := by
  simp only [readShared, readText, htext, parse, hread, bind, Except.bind]

theorem get_of_entries {s : Store} {entries : Entries} (h : s.entries files = .ok entries)
    (key : String) (default : Value) :
    s.get files key default = .ok ((Value.field? key entries).getD default) := by
  rw [get, h]
  rfl

/-- A memory can always be written, and holds what is put into it. -/
theorem entries_set_memory (files : FileTree) (entries : Entries) (key : String) (value : Value) :
    ∃ c, (memory entries).set files key value = .ok c ∧
      c.store = .memory (Value.insert (.str key) value entries) := ⟨_, rfl, rfl⟩

theorem printWith_eq (es : List (Shared × Shared)) (key : String) (value : Value) :
    printWith es key value =
      Codec.print (.map (written es key value).1 (written es key value).2) := rfl

theorem set_file (hread : readShared files p.text = .ok es) (key : String) (value : Value) :
    (file p).set files key value =
      if entriesAreWritable (Value.insert (.str key) value (Shared.entryValues es)) then
        match files.write p.text (Text.Utf8.encode (printWith es key value)) with
        | .ok t => .ok ⟨file p, t, [.plain Level.debug s!"Wrote {Text.quoted key} to {p.text}"]⟩
        | .error f => .error (.store (.unwritable p.text (f.message p.text)))
      else .error (.foreign "ValueError" tooManyDigits) := by
  simp only [set, hread, checkNumbers, writeText, bind, Except.bind]
  split_ifs
  · dsimp only
    cases files.write p.text (Text.Utf8.encode (printWith es key value)) <;> rfl
  · rfl

/-- A file that holds a mapping and can be written holds what is put into it, provided that the
mapping is one that reading undoes. -/
theorem entries_set_file [Codec.Lawful] {key : String} {value : Value}
    (hread : readShared files p.text = .ok es) (hwritable : files.Writable p.text)
    (hback : Shared.Survives (written es key value).1 (written es key value).2) :
    ∃ c, (file p).set files key value = .ok c ∧ c.store = .file p ∧
      (file p).entries c.files =
        .ok (Value.insert (.str key) value (Shared.entryValues es)) := by
  have htidy : '\r' ∉ (printWith es key value).toList := Codec.Lawful.tidy _
  obtain ⟨files', hwrite, htext⟩ := FileTree.readText_write hwritable htidy
  obtain ⟨hnumbers, label, es', hparse, hvalues⟩ := hback
  rw [entryValues_written] at hnumbers
  have hset : ∃ notices, (file p).set files key value = .ok ⟨file p, files', notices⟩ := by
    rw [set_file hread, if_pos hnumbers, hwrite]
    exact ⟨_, rfl⟩
  have hshared : readShared files' p.text = .ok es' := readShared_of_read htext hparse
  obtain ⟨notices, hset⟩ := hset
  refine ⟨_, hset, rfl, ?_⟩
  rw [entries, hshared, ← entryValues_written, ← hvalues]
  rfl

end Store
end Detour
