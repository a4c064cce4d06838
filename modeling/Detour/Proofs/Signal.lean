import Detour.Signal
import Mathlib.Data.List.Basic

/-!
# Sends

A send calls the receivers in their order. Where they do nothing themselves it reaches all of them
(`Signal.send_of_quiet`), and otherwise it ends with the first that fails (`Signal.send_of_failing`).
-/
namespace Detour.Signal

variable {α : Type} {b : Behaviour α} {a : α} {s : State α}

theorem State.isAlive_of_owned {r : Receiver} (h : r ∈ s.owned) (kept : List Receiver) :
    s.isAlive kept r = true := by
  simp [isAlive, h]

theorem State.prune_of_owned (h : ∀ r ∈ s.connected, r ∈ s.owned) (kept : List Receiver) :
    s.prune kept = s := by
  have hall : s.connected.filter (s.isAlive kept) = s.connected :=
    List.filter_eq_self.mpr fun r hr => isAlive_of_owned (h r hr) kept
  rw [prune, hall]

def State.called (s : State α) (rs : List Receiver) (a : α) : State α :=
  { s with calls := (rs.map (·, a)).reverse ++ s.calls }

theorem react_nil {fuel : Nat} (h : 0 < fuel) (kept : List Receiver) (s : State α) :
    react b kept fuel [] s = (.finished, s) := by
  cases fuel with
  | zero => cases h
  | succ fuel => simp only [react]

theorem react_fail (fuel : Nat) (kept : List Receiver) (s : State α) :
    react b kept fuel [.fail] s = (.failed, s) := by
  cases fuel <;> simp only [react]

theorem deliver_cons {r : Receiver} (howned : r ∈ s.owned) (fuel : Nat) (last : Option Receiver)
    (rest : List Receiver) :
    deliver b a [] (fuel + 1) last (r :: rest) s =
      match react b [r] fuel (b (s.called [r] a).calls r a) (s.called [r] a) with
      | (.finished, s) => deliver b a [] fuel (some r) rest s
      | failed => failed := by
  have halive := State.isAlive_of_owned howned (last.toList ++ [])
  simp only [deliver, halive, if_true]
  rfl

theorem deliver_of_quiet {rs : List Receiver} (howned : ∀ r ∈ rs, r ∈ s.owned)
    (hquiet : ∀ r ∈ rs, ∀ calls, b calls r a = []) (fuel : Nat) (last : Option Receiver)
    (rest : List Receiver) :
    ∃ last', deliver b a [] (fuel + 1 + rs.length) last (rs ++ rest) s =
      deliver b a [] (fuel + 1) last' rest (s.called rs a) := by
  -- each receiver takes one step, after which it is the one called last
  induction rs generalizing s last with
  | nil => exact ⟨last, rfl⟩
  | cons r rs ih =>
    obtain ⟨last', h⟩ := ih (s := s.called [r] a) (fun r' hr' => howned r' (by simp [hr']))
      (fun r' hr' => hquiet r' (by simp [hr'])) (some r)
    have hcalled : (s.called [r] a).called rs a = s.called (r :: rs) a := by
      simp [State.called]
    refine ⟨last', ?_⟩
    rw [← hcalled, ← h, List.length_cons, List.cons_append, ← Nat.add_assoc,
      deliver_cons (howned r (by simp)), hquiet r (by simp), react_nil (by omega)]

theorem send_of_quiet (howned : ∀ r ∈ s.connected, r ∈ s.owned)
    (hquiet : ∀ r ∈ s.connected, ∀ calls, b calls r a = []) :
    send b (s.connected.length + 1) a s = (.finished, s.called s.connected a) := by
  obtain ⟨last, h⟩ := deliver_of_quiet howned hquiet 0 none []
  have hprune : (s.called s.connected a).prune (last.toList ++ []) = s.called s.connected a :=
    State.prune_of_owned (s := s.called s.connected a) howned _
  rw [List.append_nil, Nat.add_comm] at h
  rw [send, h, deliver, hprune]

/-- A send that a receiver breaks off reaches those up to it. -/
theorem send_of_failing {before later : List Receiver} {r : Receiver}
    (hconnected : s.connected = before ++ r :: later) (howned : ∀ r ∈ s.connected, r ∈ s.owned)
    (hquiet : ∀ r ∈ before, ∀ calls, b calls r a = []) (hfails : ∀ calls, b calls r a = [.fail]) :
    send b (s.connected.length + 1) a s = (.failed, s.called (before ++ [r]) a) := by
  have hbefore : ∀ r' ∈ before, r' ∈ s.owned := fun r' hr' => howned r' (by simp [hconnected, hr'])
  obtain ⟨last, h⟩ := deliver_of_quiet hbefore hquiet (later.length + 1) none (r :: later)
  have hfuel : (before ++ r :: later).length + 1 = later.length + 1 + 1 + before.length := by
    simp only [List.length_append, List.length_cons]
    omega
  have hr : r ∈ (s.called before a).owned := howned r (by simp [hconnected])
  have hcalled : (s.called before a).called [r] a = s.called (before ++ [r]) a := by
    simp [State.called]
  rw [send, hconnected, hfuel, h, deliver_cons hr, hfails, react_fail, hcalled]

end Detour.Signal
