import Detour.FileTree
import Detour.Proofs.Text.Utf8

/-!
# Files read back what is written

A path is followed through directories only, so that writing the file at its end does not change where
it leads (`FileTree.locate_put`). A file can be written where the path leads to no directory inside one
(`FileTree.Writable`), and holds what was written from then on.
-/
namespace Detour

namespace FileTree

variable {t t' : FileTree} {path : String} {place : List String}

theorem node?_put (t : FileTree) (place other : List String) (n : FileNode) :
    (t.put place n).node? other = if other = place then some n else t.node? other := by
  unfold put node?
  by_cases h : other = place
  · subst h
    simp
  · have hkept : ((t.nodes.filter (·.1 != place)).find? (·.1 = other)) =
        t.nodes.find? (·.1 = other) := by
      rw [List.find?_filter]
      refine congrFun (congrArg _ (funext fun e => ?_)) _
      by_cases he : e.1 = other
      · simp [he, h]
      · simp [he]
    simp [Ne.symm h, h, hkept]

/-- No path leads through a file, so none leads elsewhere because it is written. -/
theorem follow_put {start : List String} {parts : List String} {content : List UInt8}
    (h : t.follow start parts = .ok place) (hfile : t.node? place ≠ some .directory) :
    (t.put place (.file content)).follow start parts = .ok place := by
  induction parts generalizing start with
  | nil => exact h
  | cons part rest ih =>
    cases hnode : t.node? start with
    | none => simp [follow, hnode] at h
    | some n =>
      cases n with
      | file c => simp [follow, hnode] at h
      | directory =>
        have hother : start ≠ place := fun heq => hfile (heq ▸ hnode)
        have hkept : (t.put place (.file content)).node? start = some .directory := by
          rw [node?_put, if_neg hother, hnode]
        simp only [follow, hnode] at h
        simp only [follow, hkept]
        split_ifs at h ⊢ with hlong hup hstay
        · exact ih h
        · exact ih h
        · exact ih h

theorem locate_put {content : List UInt8} (h : t.locate path = .ok place)
    (hfile : t.node? place ≠ some .directory) :
    (t.put place (.file content)).locate path = .ok place := by
  unfold locate at h ⊢
  split_ifs at h ⊢ with hnul hempty hlong hroot
  · exact follow_put h hfile
  · exact follow_put h hfile

/-- The path leads to a file, or to nothing yet, inside a directory. -/
def Writable (t : FileTree) (path : String) : Prop :=
  ∃ place, t.locate path = .ok place ∧ t.node? place ≠ some .directory ∧
    t.node? place.dropLast = some .directory

theorem write_of_writable (h : t.Writable path) (content : List UInt8) :
    ∃ place, t.write path content = .ok (t.put place (.file content)) ∧
      t.locate path = .ok place ∧ t.node? place ≠ some .directory := by
  obtain ⟨place, hplace, hfile, habove⟩ := h
  refine ⟨place, ?_, hplace, hfile⟩
  rw [write, hplace]
  dsimp only [bind, Except.bind]
  rw [habove]
  cases hnode : t.node? place with
  | none => rfl
  | some n =>
    cases n with
    | directory => exact absurd hnode hfile
    | file c => rfl

/-- What has been written can be written again. -/
theorem Writable.of_write {content : List UInt8} (h : t.Writable path)
    (hwrite : t.write path content = .ok t') : t'.Writable path := by
  obtain ⟨place, hput, hplace, hfile⟩ := write_of_writable h content
  obtain ⟨place', hplace', -, habove⟩ := h
  obtain rfl := Except.ok.inj (hplace.symm.trans hplace')
  obtain rfl := Except.ok.inj (hput.symm.trans hwrite)
  have hother : place.dropLast ≠ place := fun heq => hfile (heq ▸ habove)
  refine ⟨place, locate_put hplace hfile, ?_, ?_⟩
  · rw [node?_put, if_pos rfl]
    nofun
  · rw [node?_put, if_neg hother, habove]

theorem read_write (h : t.Writable path) (content : List UInt8) :
    ∃ t', t.write path content = .ok t' ∧ t'.read path = .ok content := by
  obtain ⟨place, hwrite, hplace, hfile⟩ := write_of_writable h content
  refine ⟨_, hwrite, ?_⟩
  rw [read, locate_put hplace hfile]
  dsimp only [bind, Except.bind]
  rw [node?_put, if_pos rfl]
  rfl

end FileTree

theorem unifyBreaks_of_not_mem {cs : List Char} (h : '\r' ∉ cs) : unifyBreaks cs = cs := by
  fun_induction unifyBreaks cs with
  | case1 cs ih => simp at h
  | case2 cs hnot ih => simp at h
  | case3 c cs hnot hnot' ih => rw [ih fun hmem => h (List.mem_cons_of_mem c hmem)]
  | case4 => rfl

theorem FileTree.readText_write {t : FileTree} {path text : String} (h : t.Writable path)
    (hbreaks : '\r' ∉ text.toList) :
    ∃ t', t.write path (Text.Utf8.encode text) = .ok t' ∧ t'.readText path = .ok text := by
  obtain ⟨t', hwrite, hread⟩ := read_write h (Text.Utf8.encode text)
  refine ⟨t', hwrite, ?_⟩
  rw [readText, hread]
  dsimp only
  rw [Text.Utf8.decode_encode]
  dsimp only
  rw [unifyBreaks_of_not_mem hbreaks, String.ofList_toList]

end Detour
