import Detour.FileTree
import Mathlib.Data.String.Basic

/-!
# The parts of a path

A path as a text is split at its slashes, character by character (`Path.splitOn_slash`). What it
denotes (`Path.ofString_eq`) and where it leads (`FileTree.locate_eq`) can be read off its characters.
-/
namespace Detour

namespace Path

open String

/-- Of a text, `l` has been split and `m` read since then. -/
theorem splitOnAux_slash (l m r : List Char) (acc : List String) :
    splitOnAux (ofList (l ++ m ++ r)) "/" ⟨utf8Len l⟩ ⟨utf8Len (l ++ m)⟩ 0 acc =
      acc.reverse ++ (List.splitOnPPrepend (· == '/') r m.reverse).map ofList := by
  have hsep : Pos.Raw.get "/" 0 = '/' := by decide
  have hone : Pos.Raw.next "/" 0 = ⟨1⟩ := by decide
  have hend : Pos.Raw.atEnd "/" ⟨1⟩ = true := by decide
  induction r generalizing l m acc with
  | nil =>
    have hat := (atEnd_of_valid (l ++ m) []).mpr rfl
    have hpart := extract_of_valid l m []
    rw [← utf8Len_append] at hpart
    rw [splitOnAux, if_pos hat, hpart]
    simp
  | cons c rest ih =>
    have hnot : ¬ Pos.Raw.atEnd (ofList (l ++ m ++ c :: rest)) ⟨utf8Len (l ++ m)⟩ = true :=
      mt (atEnd_of_valid (l ++ m) (c :: rest)).mp (List.cons_ne_nil c rest)
    have hget : Pos.Raw.get (ofList (l ++ m ++ c :: rest)) ⟨utf8Len (l ++ m)⟩ = c :=
      get_of_valid (l ++ m) (c :: rest)
    have hnext : Pos.Raw.next (ofList (l ++ m ++ c :: rest)) ⟨utf8Len (l ++ m)⟩ =
        ⟨utf8Len (l ++ m ++ [c])⟩ := by
      rw [next_of_valid, utf8Len_append (l ++ m)]
      simp
    have hsame : l ++ m ++ c :: rest = l ++ m ++ [c] ++ rest := by simp
    have hstay : (⟨utf8Len (l ++ m)⟩ : Pos.Raw).unoffsetBy 0 = ⟨utf8Len (l ++ m)⟩ := rfl
    rw [splitOnAux, if_neg hnot, hget, hsep, hnext, hstay, hnext, hone]
    simp only [hend, if_true]
    cases hc : c == '/' with
    | true =>
      obtain rfl := beq_iff_eq.mp hc
      have hback : (⟨utf8Len (l ++ m ++ ['/'])⟩ : Pos.Raw).unoffsetBy ⟨1⟩ = ⟨utf8Len (l ++ m)⟩ := by
        rw [utf8Len_append (l ++ m)]
        rfl
      have hpart := extract_of_valid l m ('/' :: rest)
      rw [← utf8Len_append] at hpart
      have hrest := ih (l ++ m ++ ['/']) [] (ofList m :: acc)
      rw [List.append_nil, ← hsame] at hrest
      rw [if_pos rfl, hback, hpart, hrest]
      simp [List.splitOnPPrepend_cons_eq_if]
    | false =>
      have hrest := ih l (m ++ [c]) acc
      rw [← List.append_assoc, ← hsame] at hrest
      rw [if_neg Bool.false_ne_true, hrest]
      simp [List.splitOnPPrepend_cons_eq_if, hc]

theorem splitOn_slash (s : String) :
    s.splitOn "/" = (List.splitOnP (· == '/') s.toList).map ofList := by
  have h := splitOnAux_slash [] [] s.toList []
  simpa [splitOn] using h

theorem ofString_eq (s : String) : ofString s = ⟨rootOf s,
    ((List.splitOnP (· == '/') s.toList).map ofList).filter fun p => p != "" && p != "."⟩ := by
  rw [ofString, splitOn_slash]

end Path

theorem FileTree.locate_eq (t : FileTree) (path : String) : t.locate path =
    if '\x00' ∈ path.toList then .error .nulByte
    else if path = "" then .error .notFound
    else if longestPath < path.utf8ByteSize then .error .nameTooLong
    else t.follow (if path.toList.head? = some '/' then [] else Path.workingDirectory.parts)
      ((List.splitOnP (· == '/') path.toList).map String.ofList) := by
  rw [locate, Path.splitOn_slash, String.contains_char_eq]
  simp only [decide_eq_true_eq]

end Detour
