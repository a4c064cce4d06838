import Detour.Yaml.Printer
import Mathlib.Data.List.Basic
import Mathlib.Data.String.Basic

/-!
# Written documents have no carriage returns

A text that holds a carriage return is written in double quotes, where it is escaped, and a line is
ended by a line feed. So a document that is written has no carriage return in it, and reads the same
when its line breaks are unified (`Shared.tidy_print`). What a pen writes is tidy if it adds none
(`Pen.Tidy`), and this passes from the parts of a writer to the whole.
-/
namespace Detour.Yaml

namespace Pen

/-- No carriage return is added to the text. -/
def Tidy {α : Type} (w : Write α) : Prop :=
  ∀ p : Pen, '\r' ∉ p.text.toList → '\r' ∉ (w p).2.text.toList

section Parts

variable {α β : Type}

theorem tidy_pure (a : α) : Tidy (pure a) := fun _ hp => hp

theorem tidy_get_bind {k : Pen → Write α} (hk : ∀ p, '\r' ∉ p.text.toList → Tidy (k p)) :
    Tidy (get >>= k) := fun p hp => hk p hp p hp

theorem tidy_set {p : Pen} (hp : '\r' ∉ p.text.toList) : Tidy (set p) := fun _ _ => hp

theorem tidy_modify {f : Pen → Pen} (hf : ∀ p, (f p).text = p.text) : Tidy (modify f) := by
  intro p hp
  have hsame : ((modify f : Write Unit) p).2.text = p.text := hf p
  rwa [hsame]

theorem Tidy.bind {w : Write α} {k : α → Write β} (hw : Tidy w) (hk : ∀ a, Tidy (k a)) :
    Tidy (w >>= k) := fun p hp => hk (w p).1 (w p).2 (hw p hp)

theorem tidy_ite {c : Prop} [Decidable c] {w v : Write α} (hw : c → Tidy w) (hv : ¬ c → Tidy v) :
    Tidy (if c then w else v) := by
  by_cases h : c
  · rw [if_pos h]
    exact hw h
  · rw [if_neg h]
    exact hv h

theorem tidy_when {c : Prop} [Decidable c] {w : Write Unit} {k : Unit → Write β} (hw : c → Tidy w)
    (hk : ∀ u, Tidy (k u)) : Tidy (if c then w >>= k else k ()) :=
  tidy_ite (fun h => (hw h).bind hk) fun _ => hk ()

theorem tidy_forM {w : α → Write Unit} {xs : List α} (hw : ∀ x ∈ xs, Tidy (w x)) :
    Tidy (xs.forM w) := by
  induction xs with
  | nil => exact tidy_pure ()
  | cons x xs ih =>
    have hrest : Tidy (xs.forM w) := ih fun y hy => hw y (List.mem_cons_of_mem x hy)
    exact (hw x List.mem_cons_self).bind fun _ => hrest

end Parts

variable {s : String} {cs : List Char}

theorem tidy_put (hs : '\r' ∉ s.toList) : Tidy (put s) := by
  intro p hp
  have hadded : (put s p).2.text = p.text ++ s := rfl
  rw [hadded, String.toList_append, List.mem_append]
  exact not_or.mpr ⟨hp, hs⟩

theorem tidy_putChars (hcs : '\r' ∉ cs) : Tidy (putChars cs) :=
  tidy_put (by rwa [String.toList_ofList])

theorem tidy_putSpaces (n : Nat) : Tidy (putChars (List.replicate n ' ')) :=
  tidy_putChars fun h => absurd (List.eq_of_mem_replicate h) (by decide)

theorem tidy_mark (separated blankAfter leads : Bool) (hs : '\r' ∉ s.toList) :
    Tidy (mark s separated blankAfter leads) := by
  refine tidy_get_bind fun p _ => Tidy.bind (tidy_put ?_) fun _ => tidy_modify fun _ => rfl
  split_ifs
  · exact hs
  · rw [String.toList_append, List.mem_append]
    exact not_or.mpr ⟨by decide, hs⟩

theorem tidy_lineBreak (hs : '\r' ∉ s.toList) : Tidy (lineBreak s) := by
  intro p hp
  have hadded : (lineBreak s p).2.text = p.text ++ s := rfl
  rw [hadded, String.toList_append, List.mem_append]
  exact not_or.mpr ⟨hp, hs⟩

theorem tidy_newLine : Tidy (lineBreak "\n") := tidy_lineBreak (by decide)

theorem tidy_inText : Tidy inText := tidy_modify fun _ => rfl

theorem tidy_indentTo (column : Nat) : Tidy (indentTo column) := by
  refine tidy_get_bind fun p hp => ?_
  have hspaces : ∀ u : Unit, Tidy (do
      let p ← get
      if p.column < column then
        put (String.ofList (List.replicate (column - p.column) ' '))
        modify fun p => { p with afterBlank := true }) := fun _ =>
    tidy_get_bind fun q _ => tidy_ite
      (fun _ => (tidy_putSpaces _).bind fun _ => tidy_modify fun _ => rfl) fun _ => tidy_pure ()
  refine tidy_ite (fun _ => ?_) fun _ => hspaces ()
  refine tidy_ite (fun _ => Tidy.bind ?_ hspaces) fun _ => tidy_newLine.bind hspaces
  exact tidy_set hp

def pieceChars : Piece → List Char
  | .word w => w
  | .spaces _ => []
  | .breaks b => b

theorem eq_of_mem_pieceOf {a c : Char} (h : c ∈ pieceChars (pieceOf a)) : c = a := by
  unfold pieceOf at h
  split_ifs at h
  · exact absurd h List.not_mem_nil
  · exact List.mem_singleton.mp h
  · exact List.mem_singleton.mp h

/-- The pieces of a text have only characters of it. -/
theorem flatMap_piecesOf_subset (cs : List Char) : (piecesOf cs).flatMap pieceChars ⊆ cs := by
  induction cs with
  | nil => exact List.Subset.refl []
  | cons a as ih =>
    intro c hc
    simp only [piecesOf] at hc
    -- a character either begins a piece or lengthens the one behind it
    split at hc
    case h_1 w rest _ has =>
      rw [has] at ih
      have hsplit : c = a ∨ c ∈ (Piece.word w :: rest).flatMap pieceChars := by
        simpa [pieceChars, or_assoc] using hc
      exact List.mem_cons.mpr (hsplit.imp_right fun h => ih h)
    case h_2 n rest _ has =>
      rw [has] at ih
      exact List.mem_cons_of_mem a (ih hc)
    case h_3 b rest _ has =>
      rw [has] at ih
      have hsplit : c = a ∨ c ∈ (Piece.breaks b :: rest).flatMap pieceChars := by
        simpa [pieceChars, or_assoc] using hc
      exact List.mem_cons.mpr (hsplit.imp_right fun h => ih h)
    case h_4 =>
      rw [List.flatMap_cons, List.mem_append] at hc
      exact List.mem_cons.mpr (hc.imp eq_of_mem_pieceOf fun h => ih h)

theorem tidy_piece (hcs : '\r' ∉ cs) {p : Piece} (hp : p ∈ piecesOf cs) : '\r' ∉ pieceChars p :=
  fun h => hcs (flatMap_piecesOf_subset cs (List.mem_flatMap.mpr ⟨p, hp, h⟩))

theorem tidy_writePlain (indent : Nat) (split : Bool) (hcs : '\r' ∉ cs) :
    Tidy (writePlain indent split cs) := by
  unfold writePlain
  refine tidy_ite (fun _ => tidy_pure ()) fun _ => tidy_get_bind fun p _ => ?_
  refine tidy_when (fun _ => tidy_put (by decide)) fun _ => tidy_inText.bind fun _ =>
    tidy_forM fun piece hpiece => ?_
  have htidy := tidy_piece hcs hpiece
  cases piece with
  | word w =>
    exact tidy_get_bind fun q _ =>
      tidy_when (fun _ => tidy_indentTo indent) fun _ => tidy_putChars htidy
  | spaces n =>
    exact tidy_get_bind fun q _ =>
      tidy_ite (fun _ => (tidy_indentTo indent).bind fun _ => tidy_inText) fun _ => tidy_putSpaces n
  | breaks b => exact tidy_putChars htidy

theorem tidy_writeBreaks (indent : Nat) (hcs : '\r' ∉ cs) : Tidy (writeBreaks indent cs) := by
  unfold writeBreaks
  refine tidy_when (fun _ => tidy_newLine) fun _ => Tidy.bind (tidy_forM fun c hc => ?_) fun _ =>
    tidy_indentTo indent
  refine tidy_lineBreak ?_
  have hother : c ≠ '\r' := fun h => hcs (h ▸ hc)
  simpa using hother.symm

theorem tidy_doubledQuotes (hcs : '\r' ∉ cs) : '\r' ∉ doubledQuotes cs := by
  unfold doubledQuotes
  rw [List.mem_flatMap]
  rintro ⟨c, hc, hmem⟩
  split_ifs at hmem with hquote
  · revert hmem
    decide
  · exact hcs (List.mem_singleton.mp hmem ▸ hc)

theorem tidy_writeSinglePieces (indent : Nat) (split first : Bool) {pieces : List Piece}
    (h : ∀ p ∈ pieces, '\r' ∉ pieceChars p) :
    Tidy (writeSinglePieces indent split first pieces) := by
  induction pieces generalizing first with
  | nil => exact tidy_pure ()
  | cons p rest ih =>
    have hp := h p List.mem_cons_self
    have hrest : Tidy (writeSinglePieces indent split false rest) :=
      ih false fun q hq => h q (List.mem_cons_of_mem p hq)
    cases p with
    | word w => exact (tidy_putChars (tidy_doubledQuotes hp)).bind fun _ => hrest
    | spaces n =>
      refine tidy_get_bind fun q _ => ?_
      exact tidy_ite (fun _ => (tidy_indentTo indent).bind fun _ => hrest) fun _ =>
        (tidy_putSpaces n).bind fun _ => hrest
    | breaks b => exact (tidy_writeBreaks indent hp).bind fun _ => hrest

theorem tidy_writeSingle (indent : Nat) (split : Bool) (hcs : '\r' ∉ cs) :
    Tidy (writeSingle indent split cs) := by
  refine (tidy_mark true false false (by decide)).bind fun _ => Tidy.bind ?_ fun _ =>
    tidy_mark false false false (by decide)
  exact tidy_writeSinglePieces indent split true fun p hp => tidy_piece hcs hp

theorem tidy_writeLiteral (indent : Nat) (hcs : '\r' ∉ cs) : Tidy (writeLiteral indent cs) := by
  refine (tidy_mark true false false (by decide)).bind fun _ => tidy_newLine.bind fun _ =>
    tidy_forM fun piece hpiece => ?_
  have htidy := tidy_piece hcs hpiece
  cases piece with
  | word w => exact (tidy_indentTo indent).bind fun _ => tidy_putChars htidy
  | spaces n => exact tidy_putSpaces n
  | breaks b => exact tidy_forM fun _ _ => tidy_newLine

theorem tidy_hexDigits (width n : Nat) : '\r' ∉ upperHex width n := by
  unfold upperHex
  induction width generalizing n with
  | zero => exact List.not_mem_nil
  | succ width ih =>
    have hdigit : ∀ d < 16, (Text.hexDigit d).toUpper ≠ '\r' := by decide
    have hlast := hdigit (n % 16) (Nat.mod_lt n (by decide))
    rw [Text.hexDigits, List.map_append, List.mem_append]
    refine not_or.mpr ⟨ih (n / 16), ?_⟩
    simpa using hlast.symm

theorem tidy_escapeText (c : Char) : '\r' ∉ escapeText c := by
  unfold escapeText
  split
  case h_1 e he =>
    unfold escapeLetter? at he
    split at he
    all_goals cases he
    all_goals decide
  case h_2 =>
    dsimp only
    split_ifs
    all_goals simp [tidy_hexDigits]

/-- The characters from `start` to `place` can be written as they are. -/
def Unescaped (text : Array Char) (start place : Nat) : Prop :=
  ∀ i c, start ≤ i → i < place → text[i]? = some c → isEscaped c = false

section Double

variable {text : Array Char} {start place : Nat}

theorem Unescaped.tidy (h : Unescaped text start place) :
    '\r' ∉ (text.toList.drop start).take (place - start) := by
  intro hmem
  obtain ⟨i, hi, hget⟩ := List.mem_iff_getElem.mp hmem
  rw [List.length_take, List.length_drop] at hi
  rw [List.getElem_take, List.getElem_drop] at hget
  have hplain := h (start + i) '\r' (by omega) (by omega)
    (by rw [← hget, Array.getElem_toList, Array.getElem?_eq_getElem])
  exact absurd hplain (by decide)

theorem unescaped_of_le (h : place ≤ start) : Unescaped text start place := fun i _ hi hi' _ => by
  omega

theorem Unescaped.mono {start' : Nat} (h : Unescaped text start place) (hle : start ≤ start') :
    Unescaped text start' place := fun i c hi => h i c (hle.trans hi)

/-- Behind a character that has been escaped, or need not be. -/
theorem Unescaped.step (h : Unescaped text start place) :
    Unescaped text (if text[place]?.all isEscaped then
      (if text[place]?.isSome then place + 1 else max start place) else start) (place + 1) := by
  intro i c hi hlt hget
  rcases Nat.lt_succ_iff_lt_or_eq.mp hlt with hbefore | rfl
  · refine h i c ?_ hbefore hget
    split_ifs at hi <;> omega
  · rw [hget] at hi
    cases hc : isEscaped c with
    | false => rfl
    | true => simp [hc] at hi

/-- The text up to a character, the character if it has to be escaped, and what follows. -/
theorem tidy_flush {c : Prop} [Decidable c] {w : Write Unit} {o : Option Char}
    {v : Char → Write Unit} {k : Unit → Write Unit} (hw : Tidy w) (hv : ∀ a, Tidy (v a))
    (hk : ∀ u, Tidy (k u)) :
    Tidy (if c then w >>= fun _ => (match o with | some a => v a >>= k | none => k ()) else k ()) := by
  refine tidy_ite (fun _ => hw.bind fun _ => ?_) fun _ => hk ()
  cases o with
  | none => exact hk ()
  | some a => exact (hv a).bind hk

theorem tidy_writeDoubleFrom (indent : Nat) (split : Bool) (text : Array Char) (fuel : Nat)
    {start place : Nat} (h : Unescaped text start place) :
    Tidy (writeDoubleFrom indent split text fuel start place) := by
  induction fuel generalizing start place with
  | zero => exact tidy_pure ()
  | succ fuel ih =>
    refine tidy_flush (tidy_putChars h.tidy) (fun a => tidy_putChars (tidy_escapeText a)) fun _ => ?_
    have hnext := h.step
    have hpending : '\r' ∉ (if text[place]?.all isEscaped then []
        else (text.toList.drop start).take (place - start)) := by
      split_ifs
      · exact List.not_mem_nil
      · exact h.tidy
    dsimp only
    generalize (if text[place]?.all isEscaped then
      (if text[place]?.isSome then place + 1 else max start place) else start) = next at *
    generalize (if text[place]?.all isEscaped then []
      else (text.toList.drop start).take (place - start)) = pending at *
    refine tidy_get_bind fun p _ => tidy_ite (fun _ => ?_) fun _ =>
      tidy_ite (fun _ => ih hnext) fun _ => tidy_pure ()
    -- the line ends here, and what is left of the text begins the next one
    have hrest : Unescaped text (max next place) (place + 1) := hnext.mono (Nat.le_max_left _ _)
    have hend : '\r' ∉ pending ++ if breaksFreely text place then [] else ['\\'] := by
      rw [List.mem_append]
      refine not_or.mpr ⟨hpending, ?_⟩
      split_ifs <;> decide
    refine (tidy_putChars hend).bind fun _ => (tidy_indentTo indent).bind fun _ =>
      tidy_inText.bind fun _ => tidy_ite (fun _ => ?_) fun _ => ih hrest
    refine tidy_ite (fun _ => ih (hrest.mono (Nat.le_succ _))) fun _ => ?_
    exact (tidy_put (by decide)).bind fun _ => ih hrest

end Double

theorem tidy_writeDouble (indent : Nat) (split : Bool) (cs : List Char) :
    Tidy (writeDouble indent split cs) := by
  refine (tidy_mark true false false (by decide)).bind fun _ => Tidy.bind ?_ fun _ =>
    tidy_mark false false false (by decide)
  exact tidy_writeDoubleFrom indent split _ _ (unescaped_of_le (Nat.le_refl 0))

/-- A text that need not stand in double quotes has no carriage return. -/
theorem tidy_of_spelling {l : Leaf} {isKey : Bool} (h : l.spelling isKey ≠ .double) :
    '\r' ∉ l.text.toList := by
  intro hmem
  have hne : l.text.toList.isEmpty = false := by
    cases hl : l.text.toList with
    | nil => simp [hl] at hmem
    | cons c cs => rfl
  have hspecial : l.text.toList.any needsEscape = true :=
    List.any_eq_true.mpr ⟨'\r', hmem, by decide⟩
  simp [Leaf.spelling, allowance, hne, hspecial] at h

theorem tidy_shortTag {tag : String} (h : '\r' ∉ tag.toList) : '\r' ∉ (shortTag tag).toList := by
  unfold shortTag
  dsimp only
  split_ifs
  · simp only [String.toList_append, String.toList_ofList, List.mem_append]
    exact not_or.mpr ⟨by decide, fun hmem => h (List.mem_of_mem_drop hmem)⟩
  · exact h

theorem tidy_leafTag (v : Value) : '\r' ∉ (Leaf.ofValue v).tag.toList := by
  cases v <;> dsimp only [Leaf.ofValue] <;> decide

theorem tidy_writeLeaf (s : Spot) (anchored : Bool) {l : Leaf} (hl : '\r' ∉ l.tag.toList) :
    Tidy (writeLeaf s anchored l) := by
  unfold writeLeaf
  generalize hleaf : (if s.isKey && l.tag = Tag.null then { l with text := "null" } else l) = leaf
  have htag : '\r' ∉ leaf.tag.toList := by
    rw [← hleaf]
    split_ifs <;> exact hl
  refine tidy_when (fun _ => tidy_mark true false false (tidy_shortTag htag)) fun _ =>
    tidy_when (fun _ => tidy_indentTo _) fun _ => ?_
  dsimp only
  have hplain (h : leaf.spelling s.isKey ≠ .double) : '\r' ∉ leaf.text.toList :=
    tidy_of_spelling h
  cases hspelling : leaf.spelling s.isKey with
  | plain => exact tidy_writePlain _ _ (hplain (by simp [hspelling]))
  | single => exact tidy_writeSingle _ _ (hplain (by simp [hspelling]))
  | double => exact tidy_writeDouble _ _ _
  | literal => exact tidy_writeLiteral _ (hplain (by simp [hspelling]))

theorem tidy_anchorText (n : Nat) : '\r' ∉ (anchorText n).toList := by
  have hdigits : '\r' ∉ Nat.toDigits 10 n := fun h =>
    absurd (Nat.isDigit_of_mem_toDigits (by decide) (by decide) h) (by decide)
  rw [anchorText, String.toList_append, Text.padded, String.toList_ofList]
  simp [hdigits]

theorem tidy_writeName (again : List Nat) (label : Option Nat) : Tidy (writeName again label) := by
  cases label with
  | none => exact tidy_pure false
  | some l =>
    have hname : '\r' ∉ (anchorText (again.idxOf l + 1)).toList := tidy_anchorText _
    refine tidy_ite (fun _ => tidy_pure false) fun _ => tidy_get_bind fun p _ => ?_
    refine tidy_ite (fun _ => Tidy.bind (tidy_mark true false false ?_) fun _ => tidy_pure true)
      fun _ => (tidy_modify fun _ => rfl).bind fun _ =>
        Tidy.bind (tidy_mark true false false ?_) fun _ => tidy_pure false
    · simpa [String.toList_append] using hname
    · simpa [String.toList_append] using hname

theorem tidy_writeTag (s : Spot) {tag : String} (h : '\r' ∉ tag.toList) : Tidy (writeTag s tag) :=
  (tidy_mark true false false (tidy_shortTag h)).bind fun _ =>
    tidy_ite (fun _ => tidy_modify fun _ => rfl) fun _ => tidy_pure ()

theorem tidy_emptyBrackets {opening closing : String} (ho : '\r' ∉ opening.toList)
    (hc : '\r' ∉ closing.toList) : Tidy (emptyBrackets opening closing) :=
  (tidy_mark true true false ho).bind fun _ => tidy_mark false false false hc

theorem tidy_itemsColumn (s : Spot) : Tidy (itemsColumn s) :=
  tidy_get_bind fun _ _ => tidy_ite (fun _ => tidy_pure _) fun _ => tidy_pure _

/-- A node is written unless its name stands for it. -/
theorem tidy_named (again : List Nat) (label : Option Nat) {w : Write Unit} (hw : Tidy w) :
    Tidy (do if !(← writeName again label) then w) :=
  (tidy_writeName again label).bind fun _ => tidy_ite (fun _ => hw) fun _ => tidy_pure ()

theorem tidy_colon {k : Unit → Write Unit} (hk : ∀ u, Tidy (k u)) :
    Tidy (mark ":" false false false >>= k) :=
  (tidy_mark false false false (by decide)).bind hk

theorem tidy_longKey (column : Nat) {w : Write Unit} {k : Unit → Write Unit} (hw : Tidy w)
    (hk : ∀ u, Tidy (k u)) : Tidy (do
      mark "?" true false true
      w
      indentTo column
      mark ":" true false true >>= k) :=
  (tidy_mark true false true (by decide)).bind fun _ => hw.bind fun _ =>
    (tidy_indentTo column).bind fun _ => (tidy_mark true false true (by decide)).bind hk

theorem tidy_addBlank : Tidy (modify fun p => { p with text := p.text ++ " " }) := by
  intro p hp
  have hadded : ((modify fun p => { p with text := p.text ++ " " } : Write Unit) p).2.text =
      p.text ++ " " := rfl
  rw [hadded, String.toList_append, List.mem_append]
  exact not_or.mpr ⟨hp, by decide⟩

mutual

theorem tidy_writeNode (again : List Nat) (s : Spot) (x : Shared) : Tidy (writeNode again s x) := by
  cases x with
  | plain v => exact tidy_writeLeaf s false (tidy_leafTag v)
  | stamp l v => exact tidy_named again _ (tidy_writeLeaf s _ (tidy_leafTag v))
  | list l xs =>
    refine tidy_named again _ (tidy_ite (fun _ => tidy_emptyBrackets (by decide) (by decide)) fun _ =>
      (tidy_itemsColumn s).bind fun column => tidy_writeItems again column xs)
  | tuple xs =>
    refine tidy_ite (fun _ => tidy_emptyBrackets (by decide) (by decide)) fun _ =>
      (tidy_itemsColumn s).bind fun column => tidy_writeItems again column xs
  | map l es =>
    refine tidy_named again _ (tidy_ite (fun _ => tidy_emptyBrackets (by decide) (by decide)) fun _ =>
      tidy_writeEntries again _ es)
  | ordered l es =>
    refine tidy_named again _ ((tidy_writeTag s (by decide)).bind fun _ =>
      tidy_ite (fun _ => tidy_emptyBrackets (by decide) (by decide)) fun _ =>
        (tidy_itemsColumn s).bind fun column => tidy_writePairs again column es)
  | set l xs =>
    refine tidy_named again _ ((tidy_writeTag s (by decide)).bind fun _ =>
      tidy_ite (fun _ => tidy_emptyBrackets (by decide) (by decide)) fun _ =>
        tidy_writeMembers again _ xs)
termination_by structural x

theorem tidy_writeItems (again : List Nat) (column : Nat) (xs : List Shared) :
    Tidy (writeItems again column xs) := by
  cases xs with
  | nil => exact tidy_pure ()
  | cons x xs =>
    exact (tidy_indentTo column).bind fun _ => (tidy_mark true false true (by decide)).bind fun _ =>
      (tidy_writeNode again _ x).bind fun _ => tidy_writeItems again column xs
termination_by structural xs

theorem tidy_writeEntries (again : List Nat) (column : Nat) (es : List (Shared × Shared)) :
    Tidy (writeEntries again column es) := by
  cases es with
  | nil => exact tidy_pure ()
  | cons e es =>
    obtain ⟨k, v⟩ := e
    have hkey : ∀ s, Tidy (writeNode again s k) := fun s => tidy_writeNode again s k
    have hrest : ∀ _ : Unit, Tidy (do
        writeNode again ⟨some column, false, true, false⟩ v
        writeEntries again column es) := fun _ =>
      (tidy_writeNode again _ v).bind fun _ => tidy_writeEntries again column es
    refine (tidy_indentTo column).bind fun _ => tidy_get_bind fun p _ => ?_
    refine tidy_ite (fun _ => (hkey _).bind fun _ => ?_) fun _ => tidy_longKey column (hkey _) hrest
    exact tidy_when (fun _ => tidy_addBlank) fun _ => tidy_colon hrest
termination_by structural es

theorem tidy_writePairs (again : List Nat) (column : Nat) (es : List (Shared × Shared)) :
    Tidy (writePairs again column es) := by
  cases es with
  | nil => exact tidy_pure ()
  | cons e es =>
    obtain ⟨k, v⟩ := e
    have hkey : ∀ s, Tidy (writeNode again s k) := fun s => tidy_writeNode again s k
    have hrest : ∀ _ : Unit, Tidy (do
        writeNode again ⟨some (column + 2), false, true, false⟩ v
        writePairs again column es) := fun _ =>
      (tidy_writeNode again _ v).bind fun _ => tidy_writePairs again column es
    refine (tidy_indentTo column).bind fun _ => (tidy_mark true false true (by decide)).bind fun _ =>
      (tidy_indentTo (column + 2)).bind fun _ => tidy_get_bind fun p _ => ?_
    exact tidy_ite (fun _ => (hkey _).bind fun _ => tidy_colon hrest) fun _ =>
      tidy_longKey (column + 2) (hkey _) hrest
termination_by structural es

theorem tidy_writeMembers (again : List Nat) (column : Nat) (xs : List Shared) :
    Tidy (writeMembers again column xs) := by
  cases xs with
  | nil => exact tidy_pure ()
  | cons x xs =>
    have hkey : ∀ s, Tidy (writeNode again s x) := fun s => tidy_writeNode again s x
    have hrest : ∀ _ : Unit, Tidy (writeMembers again column xs) := fun _ =>
      tidy_writeMembers again column xs
    refine (tidy_indentTo column).bind fun _ => tidy_get_bind fun p _ => ?_
    exact tidy_ite (fun _ => (hkey _).bind fun _ => tidy_colon hrest) fun _ =>
      tidy_longKey column (hkey _) hrest
termination_by structural xs

end

end Pen

/-- A document that is written has no carriage return. -/
theorem Shared.tidy_print (x : Shared) : '\r' ∉ x.print.toList := by
  have hbody := (Pen.tidy_writeNode (Shared.occurrences ⟨[], []⟩ x).again
    ⟨none, false, false, false⟩ x).bind fun _ => Pen.tidy_indentTo 0
  exact hbody .blank List.not_mem_nil

end Detour.Yaml
