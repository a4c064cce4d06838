import Detour.Yaml.Content
import Mathlib.Data.List.Nodup

/-!
# The keys of a mapping that is read

No text is the key of two entries of a mapping (`distinct_readShared`). Entries are added while other
parts of the document are still being filled; but a scalar, once it is made, stays as it is, so that
a key keeps the text that it stands for (`Contents.Grows`).
-/
namespace Detour

def Value.text? : Value → Option String
  | .str s => some s
  | _ => none

theorem Value.text?_eq_some {v : Value} {s : String} : v.text? = some s ↔ v = .str s := by
  cases v <;> simp [text?]

/-- The keys of a mapping that are texts. -/
def Value.textKeys (entries : List (Value × Value)) : List String :=
  entries.filterMap fun e => e.1.text?

namespace Yaml

def Cell.leaf? : Cell → Option Value
  | .scalar v | .stamp v => some v
  | _ => none

def Cell.isAbsent : Cell → Bool
  | .absent => true
  | _ => false

namespace Contents

variable {c d e : Contents} {α β : Type}

/-- The cell has been made, or there is none of that number. -/
def Made (c : Contents) (id : Nat) : Prop := c.cells.size ≤ id ∨ (c.cell id).isAbsent = false

/-- The cell holds a collection, or there is none of that number. -/
def Holds (c : Contents) (id : Nat) : Prop :=
  c.cells.size ≤ id ∨ (c.cell id).isAbsent = false ∧ (c.cell id).leaf? = none

/-- What is made stays made, and stays the same if it is no collection. -/
structure Grows (c d : Contents) : Prop where
  size : d.cells.size = c.cells.size
  made : ∀ id, (c.cell id).isAbsent = false →
    (d.cell id).isAbsent = false ∧ (d.cell id).leaf? = (c.cell id).leaf?

theorem Grows.refl (c : Contents) : Grows c c := ⟨rfl, fun _ h => ⟨h, rfl⟩⟩

theorem Grows.trans (hcd : Grows c d) (hde : Grows d e) : Grows c e := by
  refine ⟨hde.size.trans hcd.size, fun id h => ?_⟩
  obtain ⟨hd, hleaf⟩ := hcd.made id h
  obtain ⟨he, hleaf'⟩ := hde.made id hd
  exact ⟨he, hleaf'.trans hleaf⟩

theorem Grows.of_made (h : Grows c d) {id : Nat} (hid : c.Made id) : d.Made id :=
  hid.imp (fun hle => h.size ▸ hle) fun hmade => (h.made id hmade).1

theorem Grows.of_holds (h : Grows c d) {id : Nat} (hid : c.Holds id) : d.Holds id :=
  hid.imp (fun hle => h.size ▸ hle) fun ⟨hmade, hleaf⟩ =>
    ⟨(h.made id hmade).1, (h.made id hmade).2.trans hleaf⟩

theorem cell_of_le {id : Nat} (h : c.cells.size ≤ id) : c.cell id = .absent := by
  simp [cell, Array.getD, Nat.not_lt.mpr h]

/-- What the reference stands for has been made; by itself it is a value only where nothing is made.
-/
def Settled (c : Contents) : Ref → Prop
  | .value v => v = .null
  | .object id => c.Made id
  | .tuple _ => True

def text? (c : Contents) : Ref → Option String
  | .value v => v.text?
  | .object id => (c.cell id).leaf?.bind Value.text?
  | .tuple _ => none

theorem Grows.settled (h : Grows c d) {r : Ref} (hr : c.Settled r) : d.Settled r := by
  cases r with
  | object id => exact h.of_made hr
  | value | tuple => exact hr

theorem Grows.text?_eq (h : Grows c d) {r : Ref} (hr : c.Settled r) : d.text? r = c.text? r := by
  cases r with
  | value | tuple => rfl
  | object id =>
    rcases hr with hle | hmade
    · rw [text?, text?, cell_of_le hle, cell_of_le (h.size ▸ hle)]
    · rw [text?, text?, (h.made id hmade).2]

theorem value_shared {fuel : Nat} {trail : List Nat} {r : Ref} :
    (shared c (fuel + 1) trail r).value.text? = none ∨
      (shared c (fuel + 1) trail r).value.text? = c.text? r := by
  cases r with
  | value v => exact .inr rfl
  | tuple xs => exact .inl rfl
  | object id =>
    rw [shared]
    split
    · exact .inl rfl
    · right
      dsimp only
      rw [text?]
      cases c.cell id <;> rfl

theorem toValue_of_text? {r : Ref} {s : String} (h : c.text? r = some s) :
    c.toValue r = .str s := by
  have hreach : c.reach = (2 * c.cells.size + 1) + 1 := rfl
  rw [toValue, toShared, hreach]
  cases r with
  | value v => exact Value.text?_eq_some.mp h
  | tuple xs => cases h
  | object id =>
    rw [text?] at h
    cases hcell : c.cell id with
    | scalar v | stamp v =>
      rw [hcell] at h
      obtain rfl := Value.text?_eq_some.mp (show v.text? = some s from h)
      simp [shared, hcell, Shared.value]
    | _ =>
      rw [hcell] at h
      cases h

/-- All keys have been made, and no two are the same text. -/
def Distinct (c : Contents) (entries : List (Ref × Ref)) : Prop :=
  (∀ e ∈ entries, c.Settled e.1) ∧ (entries.filterMap fun e => c.text? e.1).Nodup

theorem distinct_nil (c : Contents) : c.Distinct [] := ⟨by simp, List.nodup_nil⟩

theorem Grows.distinct (h : Grows c d) {entries : List (Ref × Ref)} (hc : c.Distinct entries) :
    d.Distinct entries := by
  have hsame : (entries.filterMap fun e => d.text? e.1) = entries.filterMap fun e => c.text? e.1 :=
    List.filterMap_congr fun e he => h.text?_eq (hc.1 e he)
  exact ⟨fun e he => h.settled (hc.1 e he), hsame ▸ hc.2⟩

/-- Either the keys stay, or a new one is put behind them. -/
theorem keys_insertEntry (c : Contents) (key value : Ref) (entries : List (Ref × Ref)) :
    (insertEntry c key value entries).map (·.1) = entries.map (·.1) ∨
      (insertEntry c key value entries).map (·.1) = entries.map (·.1) ++ [key] ∧
        ∀ e ∈ entries, (c.toValue e.1).same (c.toValue key) = false := by
  induction entries with
  | nil => exact .inr ⟨rfl, by simp⟩
  | cons e rest ih =>
    obtain ⟨k, v⟩ := e
    cases hk : (c.toValue k).same (c.toValue key) with
    | true => exact .inl (by simp [insertEntry, hk])
    | false =>
      simp only [insertEntry, hk, Bool.false_eq_true, if_false, List.map_cons, List.cons_append]
      refine ih.imp (fun h => by rw [h]) fun ⟨h, hother⟩ => ⟨by rw [h], ?_⟩
      exact List.forall_mem_cons.mpr ⟨hk, hother⟩

theorem Distinct.insertEntry {entries : List (Ref × Ref)} (h : c.Distinct entries) {key : Ref}
    (hkey : c.Settled key) (value : Ref) : c.Distinct (insertEntry c key value entries) := by
  have hkeys : ∀ es : List (Ref × Ref), (es.filterMap fun e => c.text? e.1) =
      (es.map (·.1)).filterMap c.text? := fun es => by rw [List.filterMap_map]; rfl
  have hsettled : ∀ es : List (Ref × Ref), (∀ e ∈ es, c.Settled e.1) ↔
      ∀ k ∈ es.map (·.1), c.Settled k := fun es => by simp
  unfold Distinct at h ⊢
  rw [hkeys, hsettled] at h ⊢
  rcases keys_insertEntry c key value entries with hsame | ⟨hmore, hother⟩
  · rwa [hsame]
  rw [hmore, List.filterMap_append, List.nodup_append]
  refine ⟨fun k hk => ?_, h.2, ?_, ?_⟩
  · rcases List.mem_append.mp hk with hk | hk
    · exact h.1 k hk
    · exact List.mem_singleton.mp hk ▸ hkey
  · cases hs : c.text? key <;> simp [hs]
  · intro s hs s' hs'
    rintro rfl
    obtain ⟨k, hk, htext⟩ := List.mem_filterMap.mp hs
    obtain ⟨e, he, rfl⟩ := List.mem_map.mp hk
    obtain ⟨k', hk', htext'⟩ := List.mem_filterMap.mp hs'
    obtain rfl := List.mem_singleton.mp hk'
    have hsame := hother e he
    rw [toValue_of_text? htext, toValue_of_text? htext'] at hsame
    simp [Value.same] at hsame

/-- The keys of a mapping are distinct, and what is no collection is no mapping. -/
def Fits (c : Contents) : Cell → Prop
  | .map entries | .ordered entries => c.Distinct entries
  | .scalar v | .stamp v => ∀ entries, v ≠ .map entries
  | .absent | .list _ | .set _ => True

theorem Grows.fits (h : Grows c d) {cell : Cell} (hc : c.Fits cell) : d.Fits cell := by
  cases cell with
  | map entries | ordered entries => exact h.distinct hc
  | scalar v | stamp v => exact hc
  | absent | list | set => trivial

/-- All mappings have distinct keys, and what waits to be filled is a collection. -/
structure Sound (c : Contents) : Prop where
  cells : ∀ id, c.Fits (c.cell id)
  pending : ∀ n ∈ c.pending, c.Holds n.id

def withCell (c : Contents) (id : Nat) (cell : Cell) : Contents :=
  { c with cells := c.cells.setIfInBounds id cell }

theorem cell_withCell (c : Contents) (id other : Nat) (cell : Cell) :
    (c.withCell id cell).cell other =
      if other = id ∧ id < c.cells.size then cell else c.cell other := by
  simp only [withCell, Contents.cell, Array.getD_eq_getD_getElem?, Array.getElem?_setIfInBounds]
  by_cases hid : id = other
  · subst hid
    by_cases hlt : id < c.cells.size <;> simp [hlt]
  · simp [hid, Ne.symm hid]

/-- A cell may be filled that is absent or a collection. -/
theorem grows_withCell {id : Nat} {cell : Cell} (hcell : cell.isAbsent = false)
    (h : (c.cell id).isAbsent = true ∨ c.Holds id ∧ cell.leaf? = none) :
    Grows c (c.withCell id cell) := by
  refine ⟨by simp [withCell], fun other hmade => ?_⟩
  rw [cell_withCell]
  split
  · rename_i hsame
    obtain ⟨rfl, hlt⟩ := hsame
    rcases h with habsent | ⟨hle | ⟨-, hnone⟩, hleaf⟩
    · rw [hmade] at habsent
      cases habsent
    · omega
    · exact ⟨hcell, hleaf.trans hnone.symm⟩
  · exact ⟨hmade, rfl⟩

theorem Sound.withCell {id : Nat} {cell : Cell} (hc : c.Sound)
    (hgrows : Grows c (c.withCell id cell)) (hfits : c.Fits cell) : (c.withCell id cell).Sound := by
  refine ⟨fun other => hgrows.fits ?_, fun n hn => hgrows.of_holds (hc.pending n hn)⟩
  rw [cell_withCell]
  split
  · exact hfits
  · exact hc.cells other

/-- The contents are only looked at. -/
def Reads (p : Fill α) (good : α → Prop) : Prop :=
  ∀ c a d, p.run c = .ok (a, d) → d = c ∧ good a

section Reads

variable {p : Fill α} {good : α → Prop} {good' : β → Prop}

theorem run_bind_eq_ok {k : α → Fill β} {x : β × Contents} (h : (p >>= k).run c = .ok x) :
    ∃ a d, p.run c = .ok (a, d) ∧ (k a).run d = .ok x := by
  rw [StateT.run_bind] at h
  cases hp : p.run c with
  | error f =>
    rw [hp] at h
    cases h
  | ok y =>
    rw [hp] at h
    exact ⟨y.1, y.2, rfl, h⟩

theorem reads_pure {a : α} (h : good a) : Reads (pure a) good := by
  intro c b d hrun
  cases hrun
  exact ⟨rfl, h⟩

theorem reads_throw (f : Fault) : Reads (throw f : Fill α) good := fun c a d h => by cases h

theorem Reads.bind_of {k : α → Fill β} (hp : Reads p good) (hk : ∀ a, good a → Reads (k a) good') :
    Reads (p >>= k) good' := by
  intro c b d h
  obtain ⟨a, c', hfirst, hrest⟩ := run_bind_eq_ok h
  obtain ⟨rfl, ha⟩ := hp c a c' hfirst
  exact hk a ha c' b d hrest

theorem Reads.bind {k : α → Fill β} (hp : Reads p good) (hk : ∀ a, Reads (k a) good') :
    Reads (p >>= k) good' :=
  hp.bind_of fun a _ => hk a

theorem reads_get {k : Contents → Fill α} (hk : ∀ c, Reads (k c) good) : Reads (get >>= k) good :=
  fun c a d h => hk c c a d h

/-- Nothing is said of what is returned. -/
abbrev Looks (p : Fill α) : Prop := Reads p fun _ => True

theorem looks_pure (a : α) : Looks (pure a) := reads_pure trivial

theorem looks_mapM {f : α → Fill β} (h : ∀ a, Looks (f a)) (xs : List α) : Looks (xs.mapM f) := by
  induction xs with
  | nil => exact looks_pure []
  | cons x xs ih =>
    rw [List.mapM_cons]
    exact (h x).bind fun _ => ih.bind fun _ => looks_pure _

theorem looks_foldlM {f : β → α → Fill β} (h : ∀ b a, Looks (f b a)) (b : β) (xs : List α) :
    Looks (xs.foldlM f b) := by
  induction xs generalizing b with
  | nil => exact looks_pure b
  | cons x xs ih =>
    rw [List.foldlM_cons]
    exact (h b x).bind fun _ => ih _

theorem Reads.check {b : Prop} [Decidable b] {fail : Fill α} {q : Fill β} (hf : Looks fail)
    (hq : Reads q good') : Reads (if b then fail >>= fun _ => q else q) good' := by
  split
  · exact hf.bind fun _ => hq
  · exact hq

end Reads

theorem looks_bad (family message : String) : Looks (bad family message : Fill α) := reads_throw _

theorem looks_isOld : Looks isOld := reads_get fun _ => looks_pure _

theorem looks_wholeIn (base : Nat) (cs : List Char) : Looks (wholeIn base cs) := by
  unfold wholeIn
  split
  · exact looks_pure _
  · exact looks_bad _ _

theorem looks_decimal (cs : List Char) : Looks (decimal cs) := by
  unfold decimal
  split
  · exact looks_pure _
  · exact looks_bad _ _
  · exact looks_bad _ _

theorem looks_int (text : String) : Looks (int text) := by
  unfold int
  dsimp only
  generalize splitSign _ = signed
  obtain ⟨negative, body⟩ := signed
  refine .check (looks_bad _ _) ?_
  refine looks_isOld.bind fun old => ?_
  dsimp only
  split
  · exact looks_pure _
  · exact (looks_wholeIn _ _).bind fun _ => looks_pure _
  · exact (looks_wholeIn _ _).bind fun _ => looks_pure _
  · exact (looks_wholeIn _ _).bind fun _ => looks_pure _
  · split
    · exact (looks_bad _ _).bind fun _ => looks_pure _
    · exact (looks_decimal _).bind fun _ => looks_pure _
  · split
    · exact (looks_wholeIn _ _).bind fun _ => looks_pure _
    split
    · exact (looks_mapM looks_decimal _).bind fun _ => looks_pure _
    · exact (looks_decimal _).bind fun _ => looks_pure _

theorem looks_real (cs : List Char) : Looks (real cs) := by
  unfold real
  split
  · exact looks_pure _
  · exact looks_bad _ _

theorem looks_float (text : String) : Looks (float text) := by
  unfold float
  dsimp only
  generalize splitSign _ = signed
  obtain ⟨negative, body⟩ := signed
  refine .check (looks_bad _ _) ?_
  dsimp only
  split
  · exact looks_pure _
  split
  · exact looks_pure _
  refine looks_isOld.bind fun old => ?_
  split
  · exact (looks_mapM looks_real _).bind fun _ => looks_pure _
  · exact (looks_real _).bind fun _ => looks_pure _

theorem looks_bool (text : String) : Looks (bool text) := by
  unfold bool
  dsimp only
  split
  · exact looks_pure _
  split
  · exact looks_pure _
  · exact looks_bad _ _

theorem looks_binary (start : Mark) (text : String) : Looks (binary start text) := by
  unfold binary
  split
  · exact reads_throw _
  · split
    · exact looks_pure _
    · exact reads_throw _

theorem reads_timestamp (start : Mark) (text : String) :
    Reads (timestamp start text) fun v => ∀ entries, v ≠ .map entries := by
  unfold timestamp
  split
  · exact reads_throw _
  · split
    · rename_i v hv
      refine reads_pure fun entries hmap => ?_
      subst hmap
      unfold Stamp.value at hv
      split at hv
      · split at hv <;> cases hv
      · split at hv
        · cases hv
        · split at hv <;> cases hv
    · exact reads_throw _

theorem looks_textOf (fuel : Nat) (n : Node) : Looks (textOf fuel n) := by
  induction fuel generalizing n with
  | zero =>
    cases n with
    | scalar => exact looks_pure _
    | sequence | mapping => exact reads_throw _
  | succ fuel ih =>
    cases n with
    | scalar => exact looks_pure _
    | sequence => exact reads_throw _
    | mapping id tag entries start =>
      unfold textOf
      split
      · exact ih _
      · exact reads_throw _

/-- The cell of a node that is no collection holds a value, and no mapping. -/
theorem reads_scalarCell (n : Node) : Reads (scalarCell n) fun cell =>
    cell.isAbsent = false ∧ ∀ c : Contents, c.Fits cell := by
  have hleaf : ∀ v : Value, (∀ entries, v ≠ .map entries) →
      Reads (pure (.scalar v)) fun cell => cell.isAbsent = false ∧ ∀ c : Contents, c.Fits cell :=
    fun v hv => reads_pure ⟨rfl, fun _ => hv⟩
  refine reads_get fun c => ?_
  have htext := looks_textOf c.reach n
  dsimp only
  split
  · exact htext.bind fun _ => hleaf _ (by simp)
  split
  · exact htext.bind fun _ => (looks_bool _).bind fun _ => hleaf _ (by simp)
  split
  · exact htext.bind fun _ => (looks_int _).bind fun _ => hleaf _ (by simp)
  split
  · exact htext.bind fun _ => (looks_float _).bind fun _ => hleaf _ (by simp)
  split
  · exact htext.bind fun _ => (looks_binary _ _).bind fun _ => hleaf _ (by simp)
  split
  · split
    · exact (reads_timestamp _ _).bind_of fun v hv => reads_pure ⟨rfl, fun _ => hv⟩
    · exact reads_throw _
  split
  · exact htext.bind fun _ => hleaf _ (by simp)
  · exact reads_throw _

theorem looks_mergeSource {f : List (Node × Node) → Fill Merged} (h : ∀ es, Looks (f es))
    (v : Node) : Looks (mergeSource f v) := by
  cases v with
  | scalar => exact reads_throw _
  | mapping id tag entries start => exact (h entries).bind fun _ => looks_pure _
  | sequence id tag items start =>
    refine Reads.bind (looks_mapM (fun n => ?_) items) fun _ => looks_pure _
    cases n with
    | mapping id tag entries start =>
      change Looks (Merged.all <$> f entries)
      rw [map_eq_pure_bind]
      exact (h entries).bind fun _ => looks_pure _
    | scalar | sequence => exact reads_throw _

theorem looks_merged (fuel : Nat) (entries : List (Node × Node)) : Looks (merged fuel entries) := by
  induction fuel generalizing entries with
  | zero => exact looks_pure _
  | succ fuel ih =>
    refine looks_foldlM (fun m e => ?_) _ _
    dsimp only
    split
    · exact .check (reads_throw _) ((looks_mergeSource ih e.2).bind fun _ => looks_pure _)
    · exact looks_pure _

theorem looks_entriesOf (n : Node) : Looks (entriesOf n) := by
  cases n with
  | mapping => exact reads_get fun c => looks_merged _ _
  | scalar | sequence => exact reads_throw _

theorem looks_ensureComparable (r : Ref) : Looks (ensureComparable r) := by
  refine reads_get fun c => ?_
  split
  · exact looks_bad _ _
  · exact looks_pure _

theorem looks_itemsOf (n : Node) (refused : String → Problem) : Looks (itemsOf n refused) := by
  cases n with
  | sequence => exact looks_pure _
  | scalar | mapping => exact reads_throw _

/-- A key for use is what was made for it, or a tuple. -/
theorem reads_keyOf (start : Mark) (r : Ref) :
    Reads (keyOf start r) fun k => k = r ∨ ∃ items, k = .tuple items := by
  cases r with
  | value | tuple => exact reads_pure (.inl rfl)
  | object id =>
    refine reads_get fun c => ?_
    split
    · exact reads_pure (.inr ⟨_, rfl⟩)
    · exact reads_throw _
    · exact reads_throw _
    · exact reads_throw _
    · exact reads_pure (.inl rfl)

/-- A run on sound contents leaves sound contents that have grown. -/
def Keeps (p : Fill α) (c : Contents) (P : α → Contents → Prop) : Prop :=
  ∀ a d, p.run c = .ok (a, d) → d.Sound ∧ Grows c d ∧ P a d

section Keeps

variable {p : Fill α} {P : α → Contents → Prop} {Q : β → Contents → Prop}

theorem keeps_pure (hc : c.Sound) {a : α} (h : P a c) : Keeps (pure a) c P := by
  intro b d hrun
  cases hrun
  exact ⟨hc, .refl c, h⟩

theorem keeps_throw (f : Fault) : Keeps (throw f : Fill α) c P := fun a d h => by cases h

theorem Keeps.bind {k : α → Fill β} (hp : Keeps p c P)
    (hk : ∀ a d, d.Sound → Grows c d → P a d → Keeps (k a) d Q) :
    Keeps (p >>= k) c Q := by
  intro b e h
  obtain ⟨a, d, hfirst, hrest⟩ := run_bind_eq_ok h
  obtain ⟨hd, hgrows, ha⟩ := hp a d hfirst
  obtain ⟨he, hgrows', hb⟩ := hk a d hd hgrows ha b e hrest
  exact ⟨he, hgrows.trans hgrows', hb⟩

/-- Contents that are only looked at are the same afterwards. -/
theorem Reads.keeps {good : α → Prop} {k : α → Fill β} (hp : Reads p good)
    (hk : ∀ a, good a → Keeps (k a) c Q) : Keeps (p >>= k) c Q := by
  intro b e h
  obtain ⟨a, d, hfirst, hrest⟩ := run_bind_eq_ok h
  obtain ⟨rfl, ha⟩ := hp c a d hfirst
  exact hk a ha b e hrest

theorem keeps_get {k : Contents → Fill α} (hk : Keeps (k c) c P) : Keeps (get >>= k) c P := hk

theorem Keeps.imp {P₁ : α → Contents → Prop} (h : Keeps p c P₁)
    (himp : ∀ a d, P₁ a d → P a d) : Keeps p c P := by
  intro a d hrun
  obtain ⟨hd, hgrows, ha⟩ := h a d hrun
  exact ⟨hd, hgrows, himp a d ha⟩

theorem Keeps.map {f : α → β} (h : Keeps p c P) (hf : ∀ a d, P a d → Q (f a) d) :
    Keeps (f <$> p) c Q := by
  rw [map_eq_pure_bind]
  exact h.bind fun a d hd _ ha => keeps_pure hd (hf a d ha)

theorem keeps_put {id : Nat} {cell : Cell} (hc : c.Sound) (hcell : cell.isAbsent = false)
    (hfits : c.Fits cell) (h : (c.cell id).isAbsent = true ∨ c.Holds id ∧ cell.leaf? = none) :
    Keeps (put id cell) c fun _ d => d = c.withCell id cell := by
  intro a d hrun
  obtain rfl : c.withCell id cell = d := congrArg Prod.snd (Except.ok.inj hrun)
  have hgrows := grows_withCell hcell h
  exact ⟨hc.withCell hgrows hfits, hgrows, rfl⟩

theorem keeps_mapM {f : α → Fill β} {good : β → Contents → Prop}
    (h : ∀ c, c.Sound → ∀ a, Keeps (f a) c good) (hc : c.Sound) (xs : List α) :
    Keeps (xs.mapM f) c fun _ _ => True := by
  induction xs generalizing c with
  | nil => exact keeps_pure hc trivial
  | cons x xs ih =>
    rw [List.mapM_cons]
    exact (h c hc x).bind fun _ d hd _ _ => (ih hd).bind fun _ e he _ _ => keeps_pure he trivial

/-- What every step keeps as it goes on with what is done, the whole keeps. -/
theorem keeps_foldlM {f : β → α → Fill β} (h : ∀ c b, c.Sound → Q b c → ∀ a, Keeps (f b a) c Q)
    (hc : c.Sound) {b : β} (hb : Q b c) (xs : List α) : Keeps (xs.foldlM f b) c Q := by
  induction xs generalizing c b with
  | nil => exact keeps_pure hc hb
  | cons x xs ih =>
    rw [List.foldlM_cons]
    exact (h c b hc hb x).bind fun _ d hd _ hq => ih hd hq

end Keeps

/-- Whatever node it makes, the contents stay sound, and the reference stands for something made. -/
def Makes (mk : Bool → Node → Fill Ref) : Prop :=
  ∀ c, c.Sound → ∀ deep n, Keeps (mk deep n) c fun r d => d.Settled r

section Fill

variable {mk : Bool → Node → Fill Ref} {deep : Bool}

theorem keeps_addEntries (hmk : Makes mk) (hc : c.Sound) (checks : Bool)
    (entries : List (Node × Node)) {done : List (Ref × Ref)} (hdone : c.Distinct done) :
    Keeps (addEntries mk deep checks entries done) c fun es d => d.Distinct es := by
  refine keeps_foldlM (fun c done hc hdone e => ?_) hc hdone entries
  dsimp only
  refine (hmk c hc true e.1).bind fun r d hd hgrows hr => ?_
  refine (reads_keyOf _ r).keeps fun key hkey => ?_
  refine (hmk d hd deep e.2).bind fun value e' he' hgrows' _ => ?_
  refine (looks_ensureComparable key).keeps fun _ _ => keeps_get ?_
  have hsettled : e'.Settled key := by
    rcases hkey with rfl | ⟨items, rfl⟩
    · exact hgrows'.settled hr
    · trivial
  have hinsert := (hgrows'.distinct (hgrows.distinct hdone)).insertEntry hsettled value
  split
  · exact keeps_throw _
  · exact keeps_pure he' hinsert

theorem keeps_makeEntries (hmk : Makes mk) (hc : c.Sound) (n : Node) :
    Keeps (makeEntries mk deep n) c fun es d => d.Distinct es := by
  refine (looks_entriesOf n).keeps fun m _ => ?_
  split
  · exact keeps_addEntries hmk hc true m.own (distinct_nil c)
  refine (keeps_addEntries hmk hc false m.merge (distinct_nil c)).bind fun first d hd _ hfirst => ?_
  refine (keeps_addEntries hmk hd false m.all (distinct_nil d)).bind
    fun second e he hgrows hsecond => ?_
  refine keeps_get (keeps_pure he ?_)
  have hfold : ∀ es : List (Ref × Ref), (∀ x ∈ es, e.Settled x.1) → ∀ done, e.Distinct done →
      e.Distinct (es.foldl (fun es x => insertEntry e x.1 x.2 es) done) := by
    intro es hes
    induction es with
    | nil => exact fun done hdone => hdone
    | cons x rest ih =>
      intro done hdone
      exact ih (fun y hy => hes y (by simp [hy])) _ (hdone.insertEntry (hes x (by simp)) x.2)
  exact hfold second hsecond.1 first (hgrows.distinct hfirst)

theorem keeps_makePair (hmk : Makes mk) (hc : c.Sound) (n : Node) :
    Keeps (makePair mk deep n) c fun e d => d.Settled e.1 := by
  unfold makePair
  split
  · exact (hmk c hc deep _).bind fun key d hd _ hkey => (hmk d hd deep _).bind
      fun value e he hgrows _ => keeps_pure he (hgrows.settled hkey)
  · exact keeps_throw _
  · exact keeps_throw _

theorem keeps_makeOrdered (hmk : Makes mk) (hc : c.Sound) (items : List Node) :
    Keeps (makeOrdered mk deep items) c fun es d => d.Distinct es := by
  refine keeps_foldlM (fun c done hc hdone n => ?_) hc (distinct_nil c) items
  refine (keeps_makePair hmk hc n).bind fun e d hd hgrows he => ?_
  refine (looks_ensureComparable _).keeps fun _ _ => keeps_get ?_
  have hinsert := (hgrows.distinct hdone).insertEntry he e.2
  dsimp only
  split
  · exact (looks_bad _ _).keeps fun _ _ => keeps_pure hd hinsert
  · exact keeps_pure hd hinsert

theorem keeps_fill (hmk : Makes mk) (hc : c.Sound) (form : Form) {n : Node} (hn : c.Holds n.id) :
    Keeps (fill mk deep form n) c fun _ _ => True := by
  have hput : ∀ {d cell}, d.Sound → Grows c d → cell.isAbsent = false → cell.leaf? = none →
      d.Fits cell → Keeps (put n.id cell) d fun _ _ => True := fun hd hgrows hcell hleaf hfits =>
    (keeps_put hd hcell hfits (.inr ⟨hgrows.of_holds hn, hleaf⟩)).imp fun _ _ _ => trivial
  unfold fill
  dsimp only
  cases form with
  | list =>
    refine (looks_itemsOf n _).keeps fun items _ => ?_
    refine ((keeps_mapM (fun d hd m => hmk d hd deep m) hc items).map (f := Cell.list)
      (Q := fun cell _ => ∃ xs, cell = .list xs) fun xs d _ => ⟨xs, rfl⟩).bind ?_
    rintro cell d hd hgrows ⟨xs, rfl⟩
    exact hput hd hgrows rfl rfl trivial
  | map =>
    refine ((keeps_makeEntries hmk hc n).map (f := Cell.map)
      (Q := fun cell d => ∃ es, cell = .map es ∧ d.Distinct es) fun es d hes =>
        ⟨es, rfl, hes⟩).bind ?_
    rintro cell d hd hgrows ⟨es, rfl, hes⟩
    exact hput hd hgrows rfl rfl hes
  | set =>
    refine ((keeps_makeEntries hmk hc n).map (f := fun es => Cell.set (es.map (·.1)))
      (Q := fun cell _ => ∃ xs, cell = .set xs) fun es d _ => ⟨_, rfl⟩).bind ?_
    rintro cell d hd hgrows ⟨xs, rfl⟩
    exact hput hd hgrows rfl rfl trivial
  | ordered =>
    refine (looks_itemsOf n _).keeps fun items _ => ?_
    refine ((keeps_makeOrdered hmk hc items).map (f := Cell.ordered)
      (Q := fun cell d => ∃ es, cell = .ordered es ∧ d.Distinct es) fun es d hes =>
        ⟨es, rfl, hes⟩).bind ?_
    rintro cell d hd hgrows ⟨es, rfl, hes⟩
    exact hput hd hgrows rfl rfl hes
  | pairs =>
    refine (looks_itemsOf n _).keeps fun items _ => ?_
    exact (keeps_mapM (fun d hd m => keeps_makePair hmk hd m) hc items).bind fun es d hd hgrows _ =>
      hput hd hgrows rfl rfl trivial

end Fill

theorem isAbsent_empty (form : Form) : form.empty.isAbsent = false := by cases form <;> rfl

theorem leaf?_empty (form : Form) : form.empty.leaf? = none := by cases form <;> rfl

theorem fits_empty (c : Contents) (form : Form) : c.Fits form.empty := by
  cases form with
  | map | ordered => exact distinct_nil c
  | _ => trivial

theorem withCell_self (c : Contents) (id : Nat) (cell : Cell) :
    (c.withCell id cell).cells.size ≤ id ∨ (c.withCell id cell).cell id = cell := by
  by_cases h : id < c.cells.size
  · exact .inr (by rw [cell_withCell, if_pos ⟨rfl, h⟩])
  · exact .inl (by simpa [withCell] using Nat.not_lt.mp h)

theorem made_withCell (c : Contents) (id : Nat) {cell : Cell} (hcell : cell.isAbsent = false) :
    (c.withCell id cell).Made id :=
  (withCell_self c id cell).imp_right fun h => by rw [h, hcell]

/-- A collection that has been put, though it is empty, is held from then on. -/
theorem holds_withCell (c : Contents) (id : Nat) {cell : Cell} (hcell : cell.isAbsent = false)
    (hleaf : cell.leaf? = none) : (c.withCell id cell).Holds id :=
  (withCell_self c id cell).imp_right fun h => by rw [h]; exact ⟨hcell, hleaf⟩

/-- What waits to be filled does not matter to what is made. -/
theorem grows_withPending (c : Contents) (pending : List Node) : Grows c { c with pending } :=
  ⟨rfl, fun _ h => ⟨h, rfl⟩⟩

theorem Sound.withPending (hc : c.Sound) {pending : List Node} (h : ∀ n ∈ pending, c.Holds n.id) :
    ({ c with pending } : Contents).Sound :=
  ⟨fun id => (grows_withPending c pending).fits (hc.cells id), h⟩

theorem keeps_modifyPending (hc : c.Sound) {f : List Node → List Node}
    (h : ∀ n ∈ f c.pending, c.Holds n.id) :
    Keeps (modify fun c => { c with pending := f c.pending }) c fun _ _ => True := by
  intro a d hrun
  obtain rfl : { c with pending := f c.pending } = d := congrArg Prod.snd (Except.ok.inj hrun)
  exact ⟨hc.withPending h, grows_withPending c _, trivial⟩

/-- Whatever nodes are made, keys are distinct. -/
theorem makes_make (fuel : Nat) : Makes (make fuel) := by
  induction fuel with
  | zero => exact fun c hc deep n => keeps_pure hc rfl
  | succ fuel ih =>
    intro c hc deep n
    unfold make
    refine keeps_get ?_
    dsimp only
    cases hcell : c.cell n.id with
    | absent =>
      have habsent : (c.cell n.id).isAbsent = true := by rw [hcell]; rfl
      dsimp only
      split
      · rename_i form _
        -- The collection is there, though empty, before its parts are made: they may refer to it.
        refine (keeps_put hc (isAbsent_empty form) (fits_empty c form) (.inl habsent)).bind ?_
        rintro - d hd - rfl
        have hholds := holds_withCell c n.id (isAbsent_empty form) (leaf?_empty form)
        have hmade := made_withCell c n.id (isAbsent_empty form)
        split
        · refine (keeps_fill (fun c hc d m => ih c hc (deep || d) m) hd form hholds).bind ?_
          exact fun _ e he hgrows _ => keeps_pure he (hgrows.of_made hmade)
        · refine (keeps_modifyPending (f := (· ++ [n])) hd fun m hm => ?_).bind ?_
          · rcases List.mem_append.mp hm with hm | hm
            · exact hd.pending m hm
            · exact List.mem_singleton.mp hm ▸ hholds
          · exact fun _ e he hgrows _ => keeps_pure he (hgrows.of_made hmade)
      · refine (reads_scalarCell n).keeps fun cell ⟨hpresent, hfits⟩ => ?_
        refine (keeps_put hc hpresent (hfits c) (.inl habsent)).bind ?_
        rintro - d hd - rfl
        exact keeps_pure hd (made_withCell c n.id hpresent)
    | _ => exact keeps_pure hc (.inr (by rw [hcell]; rfl))

theorem keeps_fillAll (hc : c.Sound) (fuel : Nat) : Keeps (fillAll fuel) c fun _ _ => True := by
  induction fuel generalizing c with
  | zero => exact keeps_pure hc trivial
  | succ fuel ih =>
    unfold fillAll
    refine keeps_get ?_
    split
    · exact keeps_pure hc trivial
    · rename_i n rest hpending
      have hwait : ∀ m ∈ n :: rest, c.Holds m.id := hpending ▸ hc.pending
      refine (keeps_modifyPending (f := fun _ => rest) hc fun m hm =>
        hwait m (by simp [hm])).bind ?_
      refine fun _ d hd hgrows _ => keeps_get ?_
      dsimp only
      split
      · exact (keeps_fill (makes_make _) hd _ (hgrows.of_holds (hwait n (by simp)))).bind
          fun _ e he _ _ => ih he
      · exact ih hd

end Contents

open Contents

theorem sound_start (count : Nat) (version : Option (Nat × Nat)) :
    (⟨Array.replicate count .absent, [], version⟩ : Contents).Sound := by
  refine ⟨fun id => ?_, by simp⟩
  have habsent : (⟨Array.replicate count .absent, [], version⟩ : Contents).cell id = .absent := by
    simp [Contents.cell, Array.getD]
  rw [habsent]
  trivial

theorem entryValues_eq (entries : List (Shared × Shared)) :
    Shared.entryValues entries = entries.map fun e => (e.1.value, e.2.value) := by
  induction entries with
  | nil => rfl
  | cons e rest ih => rw [Shared.entryValues, ih, List.map_cons]

theorem filterMap_sublist {α β : Type} {f g : α → Option β} (h : ∀ a, f a = none ∨ f a = g a)
    (xs : List α) : (xs.filterMap f).Sublist (xs.filterMap g) := by
  induction xs with
  | nil => exact .slnil
  | cons x xs ih =>
    rcases h x with hx | hx
    · rw [List.filterMap_cons_none hx]
      cases hg : g x with
      | none => rwa [List.filterMap_cons_none hg]
      | some b => rw [List.filterMap_cons_some hg]; exact ih.cons b
    · cases hg : g x with
      | none => rwa [List.filterMap_cons_none (hx.trans hg), List.filterMap_cons_none hg]
      | some b =>
        rw [List.filterMap_cons_some (hx.trans hg), List.filterMap_cons_some hg]
        exact ih.cons_cons b

/-- No text is the key of two entries. -/
theorem distinct_toValue {c : Contents} (hc : c.Sound) {r : Ref} (hr : c.Settled r)
    {entries : List (Value × Value)} (h : c.toValue r = .map entries) :
    (Value.textKeys entries).Nodup := by
  have hreach : c.reach = (2 * c.cells.size + 1) + 1 := rfl
  have hkeys : ∀ es : List (Ref × Ref), c.Distinct es → ∀ trail,
      (Value.textKeys (Shared.entryValues (es.map fun e =>
        (shared c (2 * c.cells.size + 1) trail e.1,
          shared c (2 * c.cells.size + 1) trail e.2)))).Nodup := by
    intro es hes trail
    rw [entryValues_eq, List.map_map, Value.textKeys, List.filterMap_map]
    exact hes.2.sublist (filterMap_sublist (fun e => value_shared) es)
  rw [toValue, toShared, hreach] at h
  cases r with
  | value v =>
    obtain rfl : v = .null := hr
    cases h
  | tuple xs => cases h
  | object id =>
    have hfits := hc.cells id
    rw [shared] at h
    cases hcell : c.cell id with
    | map es | ordered es =>
      rw [hcell] at hfits
      simp only [List.contains_nil, Bool.false_eq_true, if_false, hcell, Shared.value,
        Value.map.injEq] at h
      exact h ▸ hkeys es hfits [id]
    | scalar v | stamp v =>
      rw [hcell] at hfits
      simp only [List.contains_nil, Bool.false_eq_true, if_false, hcell, Shared.value] at h
      exact absurd h (hfits entries)
    | absent | list | set => simp [hcell, Shared.value] at h

theorem distinct_readShared {text : String} {x : Shared} {entries : List (Value × Value)}
    (h : readShared text = .ok x) (hvalue : x.value = .map entries) :
    (Value.textKeys entries).Nodup := by
  unfold readShared at h
  cases hnode : Node.ofText text.toList with
  | error f =>
    rw [hnode] at h
    cases h
  | ok y =>
    obtain ⟨root, count, version⟩ := y
    rw [hnode] at h
    cases root with
    | none =>
      cases h
      cases hvalue
    | some root =>
      have hkeeps := (makes_make (2 * count + 2) _ (sound_start count version) false root).bind
        fun r c hc _ hr => (keeps_fillAll hc (count + 1)).bind
          fun _ d hd hgrows _ => keeps_pure (P := fun r d => d.Settled r) hd (hgrows.settled hr)
      dsimp only [bind, Except.bind] at h
      split at h
      · cases h
      · rename_i made hrun
        obtain ⟨hsound, -, hsettled⟩ := hkeeps made.1 made.2 hrun
        cases h
        exact distinct_toValue hsound hsettled hvalue

end Yaml
end Detour
