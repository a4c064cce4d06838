import Detour.Text.Utf8
import Mathlib.Data.List.Basic

/-!
# Texts survive their encoding

The bytes of a text are read back as the text (`Utf8.decode_encode`). A character takes one to four
bytes, whose payloads put its code point together again (`Utf8.first_utf8EncodeChar`).
-/
namespace Detour.Text.Utf8

theorem toList_loop (bs : ByteArray) (i : Nat) (acc : List UInt8) :
    ByteArray.toList.loop bs i acc = acc.reverse ++ bs.data.toList.drop i := by
  fun_induction ByteArray.toList.loop bs i acc with
  | case1 i acc hlt ih =>
    have hi : i < bs.data.toList.length := hlt
    rw [ih, List.drop_eq_getElem_cons hi]
    simp [ByteArray.get!, hlt]
  | case2 i acc hle =>
    have hi : bs.data.toList.length ≤ i := Nat.le_of_not_lt hle
    rw [List.drop_eq_nil_of_le hi, List.append_nil]

theorem encode_eq_flatMap (s : String) : encode s = s.toList.flatMap String.utf8EncodeChar := by
  have hbytes : s.toUTF8 = (s.toList.flatMap String.utf8EncodeChar).toByteArray :=
    (String.utf8Encode_toList (b := s)).symm
  rw [encode, hbytes, ByteArray.toList, toList_loop, List.toList_data_toByteArray]
  rfl

theorem toNat_ofNat_of_lt {n : Nat} (h : n < 256) : (UInt8.ofNat n).toNat = n := by
  simp [Nat.mod_eq_of_lt h]

/-- Code points are below the end of the last plane, and the surrogates are none. -/
theorem toNat_val_bounds (c : Char) :
    c.val.toNat < 0x110000 ∧ ¬ (0xD800 ≤ c.val.toNat ∧ c.val.toNat < 0xE000) := by
  have hvalid := c.valid
  simp only [UInt32.isValidChar, Nat.isValidChar] at hvalid
  omega

section Tail

variable {v : Nat}

theorem tailOf?_of_two (h : 127 < v) (h' : v ≤ 2047) :
    tailOf? (v / 64 % 32 + 192) = some (0x80, 0xBF, 1) := by
  have hlow : ¬ v / 64 % 32 + 192 < 0xC2 := by omega
  have hhigh : v / 64 % 32 + 192 < 0xE0 := by omega
  rw [tailOf?, if_neg hlow, if_pos hhigh]

theorem tailOf?_of_three (h : 2047 < v) (h' : v ≤ 65535) (hs : ¬ (0xD800 ≤ v ∧ v < 0xE000)) :
    ∃ low high, tailOf? (v / 4096 % 16 + 224) = some (low, high, 2) ∧
      low ≤ v / 64 % 64 + 128 ∧ v / 64 % 64 + 128 ≤ high := by
  unfold tailOf?
  split_ifs
  all_goals first
    | omega
    | exact ⟨_, _, rfl, by omega, by omega⟩

theorem tailOf?_of_four (h : 65535 < v) (h' : v < 0x110000) :
    ∃ low high, tailOf? (v / 262144 % 8 + 240) = some (low, high, 3) ∧
      low ≤ v / 4096 % 64 + 128 ∧ v / 4096 % 64 + 128 ≤ high := by
  unfold tailOf?
  split_ifs
  all_goals first
    | omega
    | exact ⟨_, _, rfl, by omega, by omega⟩

theorem tail_cons {low high n taken acc b : Nat} {bs : List UInt8} (h : low ≤ b) (h' : b ≤ high)
    (hb : b < 256) :
    tail low high (n + 1) taken acc (UInt8.ofNat b :: bs) =
      tail 0x80 0xBF n (taken + 1) (64 * acc + b % 64) bs := by
  simp [tail, toNat_ofNat_of_lt hb, h, h']

theorem first_of_tail {position b low high n code : Nat} {bs : List UInt8} (h : 0x80 ≤ b)
    (hb : b < 256) (hrange : tailOf? b = some (low, high, n))
    (htail : tail low high n 1 (payload b n) bs = .ok code) :
    first position (UInt8.ofNat b) bs = .ok (Char.ofNat code, n + 1) := by
  have hlarge : ¬ b < 0x80 := by omega
  rw [first, toNat_ofNat_of_lt hb, if_neg hlarge, hrange]
  dsimp only
  rw [htail]

end Tail

/-- A character is read back from its bytes, whatever follows them. -/
theorem first_utf8EncodeChar (position : Nat) (c : Char) :
    ∃ b bs, String.utf8EncodeChar c = b :: bs ∧
      ∀ rest, first position b (bs ++ rest) = .ok (c, bs.length + 1) := by
  obtain ⟨hbound, hsurrogate⟩ := toNat_val_bounds c
  have hback : Char.ofNat c.val.toNat = c := Char.ofNat_toNat c
  unfold String.utf8EncodeChar
  generalize c.val.toNat = v at *
  by_cases h1 : v ≤ 127
  · refine ⟨UInt8.ofNat v, [], by simp [h1], fun rest => ?_⟩
    have hsmall : v < 0x80 := by omega
    rw [first, toNat_ofNat_of_lt (by omega), if_pos hsmall, hback]
    rfl
  by_cases h2 : v ≤ 2047
  · refine ⟨UInt8.ofNat (v / 64 % 32 + 192), [UInt8.ofNat (v % 64 + 128)], by simp [h1, h2],
      fun rest => ?_⟩
    have hcode : 64 * payload (v / 64 % 32 + 192) 1 + (v % 64 + 128) % 64 = v := by
      simp only [payload]
      omega
    have hrange := tailOf?_of_two (by omega) h2
    refine (first_of_tail (by omega) (by omega) hrange ?_).trans (by rw [hback]; rfl)
    rw [List.cons_append, tail_cons (by omega) (by omega) (by omega), hcode]
    rfl
  by_cases h3 : v ≤ 65535
  · refine ⟨UInt8.ofNat (v / 4096 % 16 + 224),
      [UInt8.ofNat (v / 64 % 64 + 128), UInt8.ofNat (v % 64 + 128)], by simp [h1, h2, h3],
      fun rest => ?_⟩
    obtain ⟨low, high, hrange, hlow, hhigh⟩ := tailOf?_of_three (by omega) h3 hsurrogate
    have hcode : 64 * (64 * payload (v / 4096 % 16 + 224) 2 + (v / 64 % 64 + 128) % 64) +
        (v % 64 + 128) % 64 = v := by
      simp only [payload]
      omega
    refine (first_of_tail (by omega) (by omega) hrange ?_).trans (by rw [hback]; rfl)
    rw [List.cons_append, tail_cons hlow hhigh (by omega), List.cons_append,
      tail_cons (by omega) (by omega) (by omega), hcode]
    rfl
  · refine ⟨UInt8.ofNat (v / 262144 % 8 + 240), [UInt8.ofNat (v / 4096 % 64 + 128),
      UInt8.ofNat (v / 64 % 64 + 128), UInt8.ofNat (v % 64 + 128)], by simp [h1, h2, h3],
      fun rest => ?_⟩
    obtain ⟨low, high, hrange, hlow, hhigh⟩ := tailOf?_of_four (by omega) hbound
    have hcode : 64 * (64 * (64 * payload (v / 262144 % 8 + 240) 3 + (v / 4096 % 64 + 128) % 64) +
        (v / 64 % 64 + 128) % 64) + (v % 64 + 128) % 64 = v := by
      simp only [payload]
      omega
    refine (first_of_tail (by omega) (by omega) hrange ?_).trans (by rw [hback]; rfl)
    rw [List.cons_append, tail_cons hlow hhigh (by omega), List.cons_append,
      tail_cons (by omega) (by omega) (by omega), List.cons_append,
      tail_cons (by omega) (by omega) (by omega), hcode]
    rfl

theorem read_flatMap (cs : List Char) (position fuel : Nat) (acc : List Char)
    (hfuel : (cs.flatMap String.utf8EncodeChar).length ≤ fuel) :
    read position acc fuel (cs.flatMap String.utf8EncodeChar) = (cs.reverse ++ acc, none) := by
  induction cs generalizing position fuel acc with
  | nil => cases fuel <;> rfl
  | cons c cs ih =>
    obtain ⟨b, bs, hbytes, hfirst⟩ := first_utf8EncodeChar position c
    rw [List.flatMap_cons, hbytes, List.cons_append] at hfuel ⊢
    cases fuel with
    | zero => simp at hfuel
    | succ fuel =>
      have hrest : (cs.flatMap String.utf8EncodeChar).length ≤ fuel := by
        simp only [List.length_cons, List.length_append] at hfuel
        omega
      simp only [read, hfirst, Nat.add_sub_cancel, List.drop_left, ih _ _ _ hrest]
      simp

/-- A text is read back from its bytes. -/
theorem decode_encode (s : String) : decode (encode s) = .ok s.toList := by
  rw [encode_eq_flatMap, decode, read_flatMap _ _ _ _ (Nat.le_refl _), List.append_nil]
  exact congrArg Except.ok s.toList.reverse_reverse

end Detour.Text.Utf8
