import Detour.Guard
import Mathlib.Algebra.Order.Ring.Rat
import Mathlib.Data.List.Basic
import Mathlib.Tactic.Linarith

/-!
# Entries of the loop guard

What each operation of the guard does to the entry of a tab. Main statements: a record replaces
the entry of its own tab and no other, a question drops at most an expired entry of its own tab,
and a sweep keeps exactly the entries that have not expired. The guard never holds two entries of
one tab.
-/
namespace Detour

theorem Id.same_iff {a b : Id} : a.same b = true ↔ a.toInt = b.toInt := by simp [Id.same]

@[simp] theorem Id.same_refl (a : Id) : a.same a = true := by simp [Id.same]

theorem Id.same_comm (a b : Id) : a.same b = b.same a := by simp [Id.same, eq_comm]

theorem Id.same_congr {a b : Id} (h : a.same b = true) (c : Id) : a.same c = b.same c := by
  simp only [Id.same_iff] at h
  simp [Id.same, h]

namespace Guard

variable {g : Guard} {tab other : Id} {e : GuardEntry} {now : Rat}

theorem hasExpired_iff : g.hasExpired now e = true ↔ (g.cooldown : Rat) ≤ now - e.recordedAt := by
  simp [hasExpired]

theorem entryOf?_congr (h : tab.same other = true) : g.entryOf? tab = g.entryOf? other := by
  have : ∀ k : Id, k.same tab = k.same other := fun k => by
    rw [Id.same_comm, Id.same_congr h, Id.same_comm]
  simp [entryOf?, this]

theorem find?_putEntry_same (h : tab.same other = true) (es : List (Id × GuardEntry)) :
    ((putEntry tab e es).find? (·.1.same other)).map (·.2) = some e := by
  induction es with
  | nil => simp [putEntry, h]
  | cons p rest ih =>
    obtain ⟨k, old⟩ := p
    by_cases hk : k.same tab
    · have hko : k.same other = true := by rw [Id.same_congr hk, h]
      simp [putEntry, hk, hko]
    · have hko : k.same other = false := by
        rw [Id.same_comm, ← Id.same_congr h, Id.same_comm]
        simpa using hk
      simp [putEntry, hk, hko, ih]

theorem find?_putEntry_other (h : tab.same other = false) (es : List (Id × GuardEntry)) :
    ((putEntry tab e es).find? (·.1.same other)).map (·.2) =
      (es.find? (·.1.same other)).map (·.2) := by
  induction es with
  | nil => simp [putEntry, h]
  | cons p rest ih =>
    obtain ⟨k, old⟩ := p
    by_cases hk : k.same tab
    · have hko : k.same other = false := by rw [Id.same_congr hk, h]
      simp [putEntry, hk, hko]
    · by_cases hko : k.same other <;> simp [putEntry, hk, hko, ih]

theorem entryOf?_record_same (g : Guard) (now : Rat) (url : String) (h : tab.same other = true) :
    (g.record now tab url).entryOf? other = some ⟨tab, url, now⟩ :=
  find?_putEntry_same h g.entries

theorem entryOf?_record_other (g : Guard) (now : Rat) (url : String) (h : tab.same other = false) :
    (g.record now tab url).entryOf? other = g.entryOf? other :=
  find?_putEntry_other h g.entries

theorem entryOf?_clear_same (g : Guard) (h : tab.same other = true) :
    (g.clear tab).entryOf? other = none := by
  simp only [entryOf?, clear, Option.map_eq_none_iff, List.find?_eq_none, List.mem_filter]
  rintro ⟨k, v⟩ ⟨-, hk⟩
  rw [Id.same_comm, ← Id.same_congr h, Id.same_comm]
  simpa using hk

theorem entryOf?_clear_other (g : Guard) (h : tab.same other = false) :
    (g.clear tab).entryOf? other = g.entryOf? other := by
  have hk : ∀ k : Id, k.same other = true → (!k.same tab) = true := by
    intro k hk
    rw [Id.same_congr hk, Id.same_comm, h, Bool.not_false]
  simp only [entryOf?, clear, List.find?_filter]
  congr 2
  funext p
  by_cases hp : p.1.same other
  · simp [hp, hk p.1 hp]
  · simp [hp]

theorem cooldown_isSuppressed (g : Guard) (now : Rat) (tab : Id) :
    (g.isSuppressed now tab).2.cooldown = g.cooldown := by
  unfold isSuppressed
  split
  · rfl
  · split <;> rfl

/-- A tab is suppressed while its entry is younger than the cooldown. -/
theorem isSuppressed_eq_true_iff :
    (g.isSuppressed now tab).1 = true ↔
      ∃ e, g.entryOf? tab = some e ∧ now - e.recordedAt < g.cooldown := by
  unfold isSuppressed
  cases h : g.entryOf? tab with
  | none => simp
  | some e =>
    cases he : g.hasExpired now e with
    | true => simpa [he] using hasExpired_iff.mp he
    | false => simpa [he] using mt hasExpired_iff.mpr (by simp [he])

theorem isSuppressed_eq_false_iff :
    (g.isSuppressed now tab).1 = false ↔
      ∀ e, g.entryOf? tab = some e → (g.cooldown : Rat) ≤ now - e.recordedAt := by
  rw [← Bool.not_eq_true, isSuppressed_eq_true_iff]
  simp only [not_exists, not_and, not_lt]

theorem isSuppressed_of_true (h : (g.isSuppressed now tab).1 = true) :
    (g.isSuppressed now tab).2 = g := by
  revert h
  unfold isSuppressed
  split
  · simp
  · split <;> simp

/-- Asking about a tab that is not suppressed drops the entry that it may have. -/
theorem isSuppressed_of_false (h : (g.isSuppressed now tab).1 = false) :
    (g.isSuppressed now tab).2 = g ∧ g.entryOf? tab = none ∨
      (g.isSuppressed now tab).2 = g.clear tab ∧ ∃ e, g.entryOf? tab = some e := by
  revert h
  unfold isSuppressed
  cases he : g.entryOf? tab with
  | none => simp
  | some e => by_cases hx : g.hasExpired now e <;> simp [hx]

theorem isSuppressed_of_none (h : g.entryOf? tab = none) (now : Rat) :
    g.isSuppressed now tab = (false, g) := by
  simp [isSuppressed, h]

/-- A tab that is not suppressed has no entry afterwards. -/
theorem entryOf?_isSuppressed_of_false (h : (g.isSuppressed now tab).1 = false) :
    (g.isSuppressed now tab).2.entryOf? tab = none := by
  rcases isSuppressed_of_false h with ⟨hg, hnone⟩ | ⟨hg, -⟩
  · rw [hg, hnone]
  · rw [hg]
    exact entryOf?_clear_same g (Id.same_refl tab)

theorem entryOf?_isSuppressed_other (g : Guard) (now : Rat) (h : tab.same other = false) :
    (g.isSuppressed now tab).2.entryOf? other = g.entryOf? other := by
  cases hs : (g.isSuppressed now tab).1 with
  | true => rw [isSuppressed_of_true hs]
  | false =>
    rcases isSuppressed_of_false hs with ⟨hg, -⟩ | ⟨hg, -⟩
    · rw [hg]
    · rw [hg]
      exact entryOf?_clear_other g h

theorem entries_sweep (g : Guard) (now : Rat) :
    (g.sweep now).2.entries = g.entries.filter fun p => !g.hasExpired now p.2 := by
  simp [sweep, List.partition_eq_filter_filter, Function.comp_def]

theorem entryOf?_sweep_of_fresh (h : g.entryOf? tab = some e) (he : g.hasExpired now e = false) :
    (g.sweep now).2.entryOf? tab = some e := by
  obtain ⟨⟨k, v⟩, hp, rfl⟩ := Option.map_eq_some_iff.mp h
  obtain ⟨hk, before, later, hes, hbefore⟩ := List.find?_eq_some_iff_append.mp hp
  simp only [entryOf?, entries_sweep, List.find?_filter, hes]
  rw [List.find?_append, List.find?_eq_none.mpr]
  · simp [he, hk]
  · intro p hp
    have := hbefore p hp
    simp_all

theorem entryOf?_sweep_of_none (h : g.entryOf? tab = none) : (g.sweep now).2.entryOf? tab = none := by
  simp only [entryOf?, Option.map_eq_none_iff, List.find?_eq_none] at h
  simp only [entryOf?, entries_sweep, Option.map_eq_none_iff, List.find?_eq_none]
  intro p hp
  exact h p (List.mem_of_mem_filter hp)

/-- Every tab has one entry at most, and every entry stands under an id of its tab. -/
structure Keyed (g : Guard) : Prop where
  distinct : g.entries.Pairwise fun p q => p.1.same q.1 = false
  owned : ∀ p ∈ g.entries, p.1.same p.2.tab = true

theorem Keyed.of_filter {g' : Guard} (h : g.Keyed) {p : Id × GuardEntry → Bool}
    (hg : g'.entries = g.entries.filter p) : g'.Keyed := by
  constructor
  · rw [hg]
    exact h.distinct.filter p
  · rw [hg]
    exact fun q hq => h.owned q (List.mem_of_mem_filter hq)

theorem Keyed.clear (h : g.Keyed) (tab : Id) : (g.clear tab).Keyed := h.of_filter rfl

theorem Keyed.sweep (h : g.Keyed) (now : Rat) : (g.sweep now).2.Keyed :=
  h.of_filter (entries_sweep g now)

theorem Keyed.reset (g : Guard) : g.reset.Keyed := ⟨.nil, by simp [Guard.reset]⟩

theorem mem_putEntry {p : Id × GuardEntry} {es : List (Id × GuardEntry)}
    (h : p ∈ putEntry tab e es) : p ∈ es ∨ p.2 = e ∧ p.1.same tab = true := by
  induction es with
  | nil => simp_all [putEntry]
  | cons q rest ih =>
    obtain ⟨k, old⟩ := q
    by_cases hk : k.same tab <;> simp only [putEntry, hk] at h <;> simp_all
    · rcases h with rfl | h <;> simp_all
    · rcases h with rfl | h
      · simp
      · rcases ih h with h | h <;> simp [h]

theorem distinct_putEntry {es : List (Id × GuardEntry)}
    (h : es.Pairwise fun p q => p.1.same q.1 = false) :
    (putEntry tab e es).Pairwise fun p q => p.1.same q.1 = false := by
  induction es with
  | nil => simp [putEntry]
  | cons q rest ih =>
    obtain ⟨k, old⟩ := q
    obtain ⟨hq, hrest⟩ := List.pairwise_cons.mp h
    by_cases hk : k.same tab
    · simpa [putEntry, hk] using ⟨fun a b hab => hq (a, b) hab, hrest⟩
    · simp only [putEntry, hk, Bool.false_eq_true, if_false]
      refine List.pairwise_cons.mpr ⟨fun p hp => ?_, ih hrest⟩
      rcases mem_putEntry hp with hp | ⟨-, hp⟩
      · exact hq p hp
      · rw [Id.same_comm, Id.same_congr hp, Id.same_comm]
        simpa using hk

theorem Keyed.record (h : g.Keyed) (now : Rat) (tab : Id) (url : String) :
    (g.record now tab url).Keyed := by
  refine ⟨distinct_putEntry h.distinct, fun p hp => ?_⟩
  rcases mem_putEntry hp with hp | ⟨hp, hk⟩
  · exact h.owned p hp
  · simpa [hp] using hk

theorem Keyed.isSuppressed (h : g.Keyed) (now : Rat) (tab : Id) :
    (g.isSuppressed now tab).2.Keyed := by
  unfold Guard.isSuppressed
  split
  · exact h
  · split
    · exact h.clear tab
    · exact h

/-- Where every tab has one entry, the entry of a tab is the one that is held under its id. -/
theorem Keyed.mem_iff (h : g.Keyed) :
    g.entryOf? tab = some e ↔ ∃ k, k.same tab = true ∧ (k, e) ∈ g.entries := by
  constructor
  · intro he
    obtain ⟨⟨k, v⟩, hp, rfl⟩ := Option.map_eq_some_iff.mp he
    exact ⟨k, by simpa using List.find?_some hp, List.mem_of_find?_eq_some hp⟩
  · rintro ⟨k, hk, hmem⟩
    obtain ⟨before, later, hes⟩ := List.append_of_mem hmem
    have hd := h.distinct
    rw [hes, List.pairwise_append] at hd
    have hbefore : ∀ p ∈ before, p.1.same tab = false := by
      intro p hp
      have := hd.2.2 p hp (k, e) (by simp)
      rwa [Id.same_comm, Id.same_congr hk, Id.same_comm] at this
    simp only [entryOf?, hes, List.find?_append]
    rw [List.find?_eq_none.mpr (by simpa using hbefore)]
    simp [hk]

theorem Keyed.entryOf?_sweep_of_expired (hg : g.Keyed) (h : g.entryOf? tab = some e)
    (he : g.hasExpired now e = true) : (g.sweep now).2.entryOf? tab = none := by
  by_contra hne
  obtain ⟨e', he'⟩ := Option.ne_none_iff_exists'.mp hne
  obtain ⟨k, hk, hmem⟩ := (hg.sweep now).mem_iff.mp he'
  rw [entries_sweep, List.mem_filter] at hmem
  have : g.entryOf? tab = some e' := hg.mem_iff.mpr ⟨k, hk, hmem.1⟩
  simp_all

/-- At some time the one guard may become the other by dropping entries that have expired. -/
structure Fades (now : Rat) (g g' : Guard) : Prop where
  cooldown : g'.cooldown = g.cooldown
  keyed : g.Keyed → g'.Keyed
  kept : g.Keyed → ∀ tab, g'.entryOf? tab = g.entryOf? tab ∨
    g'.entryOf? tab = none ∧ ∃ e, g.entryOf? tab = some e ∧ g.hasExpired now e = true

theorem Fades.rfl : Fades now g g := ⟨Eq.refl _, id, fun _ _ => .inl (Eq.refl _)⟩

theorem Fades.trans {g' g'' : Guard} (h : Fades now g g') (h' : Fades now g' g'') :
    Fades now g g'' := by
  refine ⟨h'.cooldown.trans h.cooldown, fun hg => h'.keyed (h.keyed hg), fun hg tab => ?_⟩
  have hexp : ∀ e, g'.hasExpired now e = g.hasExpired now e := by
    intro e
    simp [hasExpired, h.cooldown]
  rcases h.kept hg tab with hk | ⟨hk, hx⟩ <;>
    rcases h'.kept (h.keyed hg) tab with hk' | ⟨hk', e, he, hx'⟩
  · exact .inl (hk'.trans hk)
  · exact .inr ⟨hk', e, hk ▸ he, by rw [← hexp, hx']⟩
  · exact .inr ⟨hk'.trans hk, hx⟩
  · exact .inr ⟨hk', hx⟩

theorem fades_clear (h : g.entryOf? tab = some e) (he : g.hasExpired now e = true) :
    Fades now g (g.clear tab) := by
  refine ⟨Eq.refl _, fun hg => hg.clear tab, fun _ other => ?_⟩
  cases hs : tab.same other with
  | false => exact .inl (entryOf?_clear_other g hs)
  | true =>
    refine .inr ⟨entryOf?_clear_same g hs, e, ?_, he⟩
    rw [← h, entryOf?_congr hs]

theorem fades_isSuppressed (g : Guard) (now : Rat) (tab : Id) :
    Fades now g (g.isSuppressed now tab).2 := by
  unfold isSuppressed
  cases h : g.entryOf? tab with
  | none => exact .rfl
  | some e =>
    cases he : g.hasExpired now e with
    | false => simpa [he] using Fades.rfl
    | true => simpa [he] using fades_clear h he

theorem fades_sweep (g : Guard) (now : Rat) : Fades now g (g.sweep now).2 := by
  refine ⟨Eq.refl _, fun hg => hg.sweep now, fun hg tab => ?_⟩
  cases h : g.entryOf? tab with
  | none => exact .inl (entryOf?_sweep_of_none h)
  | some e =>
    cases he : g.hasExpired now e with
    | false => exact .inl (entryOf?_sweep_of_fresh h he)
    | true => exact .inr ⟨hg.entryOf?_sweep_of_expired h he, e, Eq.refl _, he⟩

end Guard
end Detour
