import Detour.Proofs.Config
import Detour.Proofs.Store

/-!
# A store in a file acts as one in memory

Through any run of reading and writing by key, with the file rewritten by others in between, a store
in a file answers as a store in memory would that holds the mapping of the file at the moment
(`Store.file_acts_as_memory`). A file without a document, missing or empty or `null` alone, holds the
empty mapping. Where the file holds anything else, the store in memory that it is compared with is one
that can neither be read nor written.
-/
namespace Detour.Store

open Yaml

variable {files : FileTree} {p : Path}

def ofDocument : Except Yaml.Fault Shared → Store
  | .ok (.plain .null) => memory []
  | .ok (.map _ es) | .ok (.ordered _ es) => memory (Shared.entryValues es)
  | _ => closed

/-- The store in memory that a file stands for. -/
def content [Codec] (files : FileTree) (path : String) : Store :=
  match files.readText path with
  | .error (.file .notFound) => memory []
  | .error _ => closed
  | .ok text => ofDocument (Codec.read text)

theorem filter_insert (key : String) (value : Value) (entries : Entries) :
    (Value.insert (.str key) value entries).filter (fun e => !e.1.same (.str key)) =
      entries.filter (fun e => !e.1.same (.str key)) := by
  induction entries with
  | nil => simp [Value.insert, Value.same_str]
  | cons e rest ih =>
    obtain ⟨k, v⟩ := e
    cases hk : k.same (.str key) with
    | true => simp [Value.insert, hk]
    | false => simp [Value.insert, hk, ih]

section Codec

variable [Codec]

theorem content_eq (files : FileTree) (path : String) :
    content files path =
      match readShared files path with
      | .ok es => memory (Shared.entryValues es)
      | .error _ => closed := by
  unfold content readShared readText
  cases files.readText path with
  | error f =>
    rcases f with f | f
    · cases f <;> rfl
    · rfl
  | ok text =>
    simp only [bind, Except.bind, parse]
    cases Codec.read text with
    | error f => rfl
    | ok x =>
      cases x with
      | plain v => cases v <;> rfl
      | _ => rfl

theorem content_of_entries {entries : Entries} (h : (file p).entries files = .ok entries) :
    content files p.text = memory entries := by
  rw [content_eq]
  unfold Store.entries at h
  cases hread : readShared files p.text with
  | error f => simp [hread, Except.map] at h
  | ok es =>
    simp only [hread, Except.map, Except.ok.injEq] at h
    rw [← h]

theorem writable_of_set {es : List (Shared × Shared)} {key : String} {value : Value} {c : Changed}
    (hwritable : files.Writable p.text) (hread : readShared files p.text = .ok es)
    (h : (file p).set files key value = .ok c) : c.files.Writable p.text := by
  rw [set_file hread] at h
  split_ifs at h
  split at h
  · next t hwrite =>
    rw [← Except.ok.inj h]
    exact hwritable.of_write hwrite
  · cases h

inductive Action where
  | get (key : String) (default : Value)
  | set (key : String) (value : Value)
  /-- Somebody else changes the files. -/
  | rewrite (files : FileTree)

inductive Reply where
  | value (v : Value)
  | done
  | raised

/-- What a store answers, the store afterwards and the files. A store in memory is told what the file
at the path holds when it is rewritten. -/
def Action.perform (path : String) (a : Action) (x : Store × FileTree) : Reply × Store × FileTree :=
  match a with
  | .get key default =>
    match x.1.get x.2 key default with
    | .ok v => (.value v, x)
    | .error _ => (.raised, x)
  | .set key value =>
    match x.1.set x.2 key value with
    | .ok c => (.done, c.store, c.files)
    | .error _ => (.raised, x)
  | .rewrite files =>
    match x.1 with
    | file p => (.done, file p, files)
    | _ => (.done, content files path, files)

def performAll (path : String) : List Action → Store × FileTree → List Reply × Store × FileTree
  | [], x => ([], x)
  | a :: rest, x =>
    let (reply, y) := a.perform path x
    let (replies, z) := performAll path rest y
    (reply :: replies, z)

/-- The mapping that is written, if one is, is read back as it was. -/
def Action.ReadsBack (path : String) (files : FileTree) : Action → Prop
  | .set key value => ∀ es, readShared files path = .ok es →
      Shared.Survives (written es key value).1 (written es key value).2
  | _ => True

/-- Each mapping that is written on the way is read back as it was. -/
def ReadBack (p : Path) : List Action → FileTree → Prop
  | [], _ => True
  | a :: rest, files => a.ReadsBack p.text files ∧
      ReadBack p rest (a.perform p.text (file p, files)).2.2

theorem get_of_unread {f : Failure} (h : readShared files p.text = .error f) (key : String)
    (default : Value) :
    (Action.get key default).perform p.text (file p, files) = (.raised, file p, files) := by
  simp only [Action.perform, Store.get, Store.entries, h, Except.map]

theorem set_of_unread {f : Failure} (h : readShared files p.text = .error f) (key : String)
    (value : Value) :
    (Action.set key value).perform p.text (file p, files) = (.raised, file p, files) := by
  simp only [Action.perform, Store.set, h, bind, Except.bind]

theorem get_of_read {es : List (Shared × Shared)} (h : readShared files p.text = .ok es)
    (key : String) (default : Value) :
    (Action.get key default).perform p.text (file p, files) =
      (.value ((Value.field? key (Shared.entryValues es)).getD default), file p, files) := by
  simp only [Action.perform, Store.get, Store.entries, h, Except.map]

theorem set_of_read [Codec.Lawful] {es : List (Shared × Shared)} {key : String} {value : Value}
    (h : readShared files p.text = .ok es) (hwritable : files.Writable p.text)
    (hback : Action.ReadsBack p.text files (.set key value)) :
    ∃ t, (Action.set key value).perform p.text (file p, files) = (.done, file p, t) ∧
      t.Writable p.text ∧
      content t p.text = memory (Value.insert (.str key) value (Shared.entryValues es)) := by
  obtain ⟨c, hset, hstore, hentries⟩ := entries_set_file h hwritable (hback es h)
  refine ⟨c.files, ?_, writable_of_set hwritable h hset, content_of_entries hentries⟩
  simp only [Action.perform, hset, hstore]

/-- A store in a file that can be written, and a store that holds what the file holds. -/
structure Mirrors (p : Path) (x y : Store × FileTree) : Prop where
  store : x.1 = file p
  writable : x.2.Writable p.text
  content : y.1 = Store.content x.2 p.text

/-- Both stores answer alike, and mirror each other afterwards. -/
theorem Mirrors.perform [Codec.Lawful] {x y : Store × FileTree} (h : Mirrors p x y) (a : Action)
    (hrewrite : ∀ t, a = .rewrite t → t.Writable p.text) (hback : a.ReadsBack p.text x.2) :
    (a.perform p.text x).1 = (a.perform p.text y).1 ∧
      Mirrors p (a.perform p.text x).2 (a.perform p.text y).2 := by
  obtain ⟨s, files⟩ := x
  obtain ⟨t, others⟩ := y
  obtain ⟨rfl, hwritable, hcontent⟩ := h
  obtain rfl : t = Store.content files p.text := hcontent
  have hheld := content_eq files p.text
  cases a with
  | rewrite files' =>
    rw [content_eq]
    cases readShared files p.text with
    | error f => exact ⟨rfl, rfl, hrewrite files' rfl, rfl⟩
    | ok es => exact ⟨rfl, rfl, hrewrite files' rfl, rfl⟩
  | get key default =>
    cases hread : readShared files p.text with
    | error f =>
      rw [hread] at hheld
      rw [get_of_unread hread, hheld]
      exact ⟨rfl, rfl, hwritable, hheld.symm⟩
    | ok es =>
      rw [hread] at hheld
      rw [get_of_read hread, hheld]
      exact ⟨rfl, rfl, hwritable, hheld.symm⟩
  | set key value =>
    cases hread : readShared files p.text with
    | error f =>
      rw [hread] at hheld
      rw [set_of_unread hread, hheld]
      exact ⟨rfl, rfl, hwritable, hheld.symm⟩
    | ok es =>
      rw [hread] at hheld
      obtain ⟨files', hset, hwritable', hcontent'⟩ := set_of_read hread hwritable hback
      rw [hset, hheld]
      exact ⟨rfl, rfl, hwritable', hcontent'.symm⟩

theorem Mirrors.performAll [Codec.Lawful] {x y : Store × FileTree} (h : Mirrors p x y)
    (actions : List Action)
    (hrewrites : ∀ t, .rewrite t ∈ actions → t.Writable p.text) (hback : ReadBack p actions x.2) :
    (Store.performAll p.text actions x).1 = (Store.performAll p.text actions y).1 ∧
      Mirrors p (Store.performAll p.text actions x).2 (Store.performAll p.text actions y).2 := by
  induction actions generalizing x y with
  | nil => exact ⟨rfl, h⟩
  | cons a rest ih =>
    obtain ⟨hfirst, hlater⟩ := hback
    have hx : x = (file p, x.2) := Prod.ext h.store rfl
    obtain ⟨hreply, hmirrors⟩ := h.perform a (fun t ht => hrewrites t (by simp [ht])) hfirst
    rw [hx] at hmirrors hreply
    obtain ⟨hreplies, hend⟩ := ih hmirrors (fun t ht => hrewrites t (by simp [ht])) hlater
    rw [hx]
    refine ⟨?_, hend⟩
    simp only [Store.performAll]
    rw [hreply, hreplies]

/-- What may come next. Where the file holds a mapping, a key that is set gets its value and every
other entry stays in its place; where it holds anything else, setting and reading fail, and the file
stays as it is. -/
structure Orderly (p : Path) (files : FileTree) : Prop where
  sets : ∀ es key value, content files p.text = memory es →
    Action.ReadsBack p.text files (.set key value) → ∃ t es',
      (Action.set key value).perform p.text (file p, files) = (.done, file p, t) ∧
        content t p.text = memory es' ∧ Value.field? key es' = some value ∧
        es'.filter (fun e => !e.1.same (.str key)) = es.filter (fun e => !e.1.same (.str key))
  fails : content files p.text = closed → ∀ key,
    (∀ value, (Action.set key value).perform p.text (file p, files) = (.raised, file p, files)) ∧
      ∀ default, (Action.get key default).perform p.text (file p, files) = (.raised, file p, files)

theorem orderly [Codec.Lawful] (hwritable : files.Writable p.text) : Orderly p files := by
  have hheld := content_eq files p.text
  cases hread : readShared files p.text with
  | error f =>
    rw [hread] at hheld
    exact ⟨fun es key value hes _ => (nomatch hheld.symm.trans hes),
      fun _ key => ⟨set_of_unread hread key, get_of_unread hread key⟩⟩
  | ok es =>
    rw [hread] at hheld
    refine ⟨fun es' key value hes' hback => ?_, fun hclosed => nomatch hheld.symm.trans hclosed⟩
    obtain rfl : Shared.entryValues es = es' := by
      cases hheld.symm.trans hes'
      rfl
    obtain ⟨t, hset, -, hcontent⟩ := set_of_read hread hwritable hback
    exact ⟨t, _, hset, hcontent, Value.field?_insert _ _ _, filter_insert _ _ _⟩

/-- Through any actions, those of others included, a store in a file answers as a store in memory does
that is told of each rewriting. What that one holds in the end is what the file holds, and whatever
this is, the next key that is set changes its own entry alone or nothing. -/
theorem file_acts_as_memory [Codec.Lawful] (actions : List Action)
    (hwritable : files.Writable p.text)
    (hrewrites : ∀ t, .rewrite t ∈ actions → t.Writable p.text)
    (hback : ReadBack p actions files) :
    let x := performAll p.text actions (file p, files)
    let y := performAll p.text actions (content files p.text, files)
    x.1 = y.1 ∧ y.2.1 = content x.2.2 p.text ∧ x.2.1 = file p ∧ Orderly p x.2.2 := by
  have hstart : Mirrors p (file p, files) (content files p.text, files) := ⟨rfl, hwritable, rfl⟩
  obtain ⟨hreplies, hend⟩ := hstart.performAll actions hrewrites hback
  exact ⟨hreplies, hend.content, hend.store, orderly hend.writable⟩

end Codec

def sampleActions : List Action :=
  [.set "a" (.int 1), .get "a" .null, .get "b" (.str "none"), .rewrite (Config.oneFile "- a\n"),
    .set "a" (.int 2), .get "a" .null]

def isEntry (name : String) (n : Int) : Except Yaml.Fault Shared → Bool
  | .ok (.map _ [(.plain (.str k), .plain (.int m))]) => k == name && m == n
  | _ => false

theorem survives_of_isEntry {label : Nat} {es : List (Shared × Shared)} {name : String} {n : Int}
    (hread : isEntry name n (Codec.read (Codec.print (.map label es))) = true)
    (hes : Shared.entryValues es = [(.str name, .int n)])
    (hwritable : entriesAreWritable [(.str name, .int n)] = true) : Shared.Survives label es := by
  unfold isEntry at hread
  split at hread
  case h_1 label' k m hparse =>
    simp only [Bool.and_eq_true, beq_iff_eq] at hread
    obtain ⟨rfl, rfl⟩ := hread
    exact ⟨by rw [hes]; exact hwritable, label', _, hparse, hes.symm⟩
  case h_2 => cases hread

theorem survives_a : Shared.Survives (written [] "a" (.int 1)).1 (written [] "a" (.int 1)).2 := by
  have hprint : printWith [] "a" (.int 1) = "a: 1\n" := by decide +kernel
  have hread : isEntry "a" 1 (Codec.read "a: 1\n") = true := by decide +kernel
  rw [← hprint, printWith_eq] at hread
  refine survives_of_isEntry hread ?_ (by decide +kernel)
  rw [entryValues_written]
  rfl

theorem content_list : content (Config.oneFile "- a\n") "c.yaml" = closed := by
  have hname : ∀ s : Store, s.className = "Store" → s = closed := by
    intro s hs
    cases s with
    | closed => rfl
    | _ => simp [className] at hs
  rw [content, Config.readText_oneFile (by decide)]
  exact hname (ofDocument (Codec.read "- a\n")) (by decide +kernel)

theorem content_empty : content FileTree.empty "c.yaml" = memory [] := by
  rw [content, FileTree.readText, FileTree.read, Config.locate_oneFile]
  rfl

/-- The number is found again, and from the moment that the file holds no mapping both attempts fail. -/
theorem sample_acts_as_memory :
    (performAll "c.yaml" sampleActions (file Config.onePath, FileTree.empty)).1 =
      [.done, .value (.int 1), .value (.str "none"), .done, .raised, .raised] := by
  have hnew : ∀ es, readShared FileTree.empty "c.yaml" = .ok es → es = [] := by
    intro es hes
    rw [readShared, readText, FileTree.readText, FileTree.read, Config.locate_oneFile] at hes
    exact (Except.ok.inj hes).symm
  have hunread : ∀ es, readShared (Config.oneFile "- a\n") "c.yaml" ≠ .ok es := by
    intro es hes
    have hheld := content_eq (Config.oneFile "- a\n") "c.yaml"
    rw [hes, content_list] at hheld
    cases hheld
  have hback : ReadBack Config.onePath sampleActions FileTree.empty :=
    ⟨fun es hes => hnew es hes ▸ survives_a, trivial, trivial, trivial,
      fun es hes => absurd hes (hunread es), trivial, trivial⟩
  have hwritable : (Config.oneFile "- a\n").Writable "c.yaml" :=
    ⟨_, FileTree.locate_put Config.locate_oneFile (by decide), by decide, by decide⟩
  have hrewrites : ∀ t, .rewrite t ∈ sampleActions → t.Writable "c.yaml" := by
    simpa [sampleActions] using hwritable
  have hacts := file_acts_as_memory (p := Config.onePath) sampleActions
    ⟨_, Config.locate_oneFile, by decide, by decide⟩ hrewrites hback
  refine hacts.1.trans ?_
  have hstart : content FileTree.empty Config.onePath.text = memory [] := content_empty
  have hlist : content (Config.oneFile "- a\n") Config.onePath.text = closed := content_list
  simp only [hstart, sampleActions, performAll, Action.perform, hlist]
  rfl

def isNull : Except Yaml.Fault Shared → Bool
  | .ok (.plain .null) => true
  | _ => false

theorem eq_of_isNull {x : Except Yaml.Fault Shared} (h : isNull x = true) :
    x = .ok (.plain .null) := by
  unfold isNull at h
  split at h
  · rfl
  · cases h

/-- A file that holds `null` is neither missing nor empty nor does it hold a mapping, and reading a key
in it gives the default. -/
theorem null_acts_as_empty :
    (Config.oneFile "null\n").readText "c.yaml" = .ok "null\n" ∧
      Codec.read "null\n" = .ok (.plain .null) ∧
      (file Config.onePath).get (Config.oneFile "null\n") "a" (.str "d") = .ok (.str "d") := by
  have htext : (Config.oneFile "null\n").readText "c.yaml" = .ok "null\n" :=
    Config.readText_oneFile (by decide)
  have hread : Codec.read "null\n" = .ok (.plain .null) := eq_of_isNull (by decide +kernel)
  have hentries : (file Config.onePath).entries (Config.oneFile "null\n") = .ok [] := by
    have hpath : Config.onePath.text = "c.yaml" := by decide
    simp only [Store.entries, readShared, readText, hpath, htext, parse, hread, bind, Except.bind]
    rfl
  exact ⟨htext, hread, get_of_entries hentries "a" (.str "d")⟩

end Detour.Store
