import Detour.Signal
import Mathlib.Order.Filter.AtTopBot.Basic

/-!
# The runs of a send

`Signal.Runs` says how a send goes on and how it ends, without fuel, and lists what is connected,
disconnected and dropped meanwhile. A run is what the send answers once its fuel is enough
(`Signal.Runs.eventually`), and a send whose answer settles has a run (`Signal.Ends.run`): one that
has none calls more and more receivers the more fuel it gets (`Signal.calls_of_endless`).
-/
namespace Detour.Signal

open Filter

variable {α : Type}

inductive Edit where
  | connect (r : Receiver)
  | disconnect (r : Receiver)
  | drop (r : Receiver)
  deriving Repr, DecidableEq

def Edit.connections : Edit → List Receiver → List Receiver
  | .connect r, rs => rs ++ [r]
  | .disconnect r, rs => rs.filter (· != r)
  | .drop _, rs => rs

def Edit.owners : Edit → List Receiver → List Receiver
  | .drop r, rs => rs.filter (· != r)
  | _, rs => rs

def connectionsAfter (edits : List Edit) (rs : List Receiver) : List Receiver :=
  edits.foldl (fun rs edit => edit.connections rs) rs

def ownersAfter (edits : List Edit) (rs : List Receiver) : List Receiver :=
  edits.foldl (fun rs edit => edit.owners rs) rs

def State.note (s : State α) (r : Receiver) (a : α) : State α := { s with calls := (r, a) :: s.calls }

inductive Task (α : Type) where
  /-- Of a send: the turns of these receivers, where `last` was called last. -/
  | turns (a : α) (last : Option Receiver) (rest : List Receiver)
  /-- Of a receiver that is being called. -/
  | reactions (rest : List (Reaction α))

def Task.held : Task α → List Receiver
  | .turns _ last _ => last.toList
  | .reactions _ => []

def Task.exec (b : Behaviour α) (kept : List Receiver) : Task α → Nat → State α → Ending × State α
  | .turns a last rest, fuel, s => deliver b a kept fuel last rest s
  | .reactions rest, fuel, s => react b kept fuel rest s

/-- A task leads from the one state to the other by these edits and ends so; `held` is what a send
holds on to until then. -/
inductive Runs (b : Behaviour α) :
    List Receiver → Task α → State α → List Edit → List Receiver → Ending → State α → Prop where
  | ended {kept a last s} :
    Runs b kept (.turns a last []) s [] last.toList .finished (s.prune (last.toList ++ kept))
  | passed {kept a last r rest s edits held e t} (hdead : s.isAlive (last.toList ++ kept) r = false)
      (hrest : Runs b kept (.turns a none rest) s edits held e t) :
    Runs b kept (.turns a last (r :: rest)) s edits held e t
  | called {kept a last r rest s u first later held held' e t}
      (halive : s.isAlive (last.toList ++ kept) r = true)
      (hcall : Runs b (r :: kept) (.reactions (b (s.note r a).calls r a)) (s.note r a) first held'
        .finished u)
      (hrest : Runs b kept (.turns a (some r) rest) u later held e t) :
    Runs b kept (.turns a last (r :: rest)) s (first ++ later) held e t
  | broken {kept a last r rest s edits held t} (halive : s.isAlive (last.toList ++ kept) r = true)
      (hcall : Runs b (r :: kept) (.reactions (b (s.note r a).calls r a)) (s.note r a) edits held
        .failed t) :
    Runs b kept (.turns a last (r :: rest)) s edits [r] .failed t
  | done {kept s} : Runs b kept (.reactions []) s [] [] .finished s
  | failed {kept rest s} : Runs b kept (.reactions (.fail :: rest)) s [] [] .failed s
  | connect {kept r rest s edits held e t}
      (hrest : Runs b kept (.reactions rest) (s.connect r) edits held e t) :
    Runs b kept (.reactions (.connect r :: rest)) s (.connect r :: edits) held e t
  | disconnect {kept r rest s edits held e t}
      (hrest : Runs b kept (.reactions rest) (s.disconnect r) edits held e t) :
    Runs b kept (.reactions (.disconnect r :: rest)) s (.disconnect r :: edits) held e t
  | drop {kept r rest s edits held e t}
      (hrest : Runs b kept (.reactions rest) (s.drop r) edits held e t) :
    Runs b kept (.reactions (.drop r :: rest)) s (.drop r :: edits) held e t
  | sent {kept a rest s u first later held held' e t}
      (hsend : Runs b kept (.turns a none s.connected) s first held' .finished u)
      (hrest : Runs b kept (.reactions rest) u later held e t) :
    Runs b kept (.reactions (.send a :: rest)) s (first ++ later) held e t
  | sentInVain {kept a rest s edits held t}
      (hsend : Runs b kept (.turns a none s.connected) s edits held .failed t) :
    Runs b kept (.reactions (.send a :: rest)) s edits [] .failed t
  | attempted {kept a rest s u first later held held' e e' t}
      (hsend : Runs b kept (.turns a none s.connected) s first held' e' u)
      (hrest : Runs b kept (.reactions rest) u later held e t) :
    Runs b kept (.reactions (.attempt a :: rest)) s (first ++ later) held e t

/-- Whatever fuel beyond some amount it is given, a send ends so. -/
def Ends (b : Behaviour α) (kept : List Receiver) (a : α) (s : State α) (e : Ending)
    (t : State α) : Prop :=
  ∀ᶠ fuel in atTop, deliver b a kept fuel none s.connected s = (e, t)

variable {b : Behaviour α} {kept : List Receiver} {a : α} {s t u : State α}

theorem eventually_of_succ {P : Nat → Prop} (h : ∀ᶠ fuel in atTop, P (fuel + 1)) :
    ∀ᶠ fuel in atTop, P fuel := by
  rwa [← map_add_atTop_eq_nat 1, eventually_map]

theorem Ends.of_add {e : Ending} (n : Nat)
    (h : ∀ fuel, deliver b a kept (fuel + n) none s.connected s = (e, t)) : Ends b kept a s e t := by
  refine eventually_atTop.mpr ⟨n, fun fuel hfuel => ?_⟩
  obtain ⟨k, rfl⟩ := Nat.exists_eq_add_of_le' hfuel
  exact h k

theorem deliver_of_dead {last : Option Receiver} {r : Receiver}
    (hdead : s.isAlive (last.toList ++ kept) r = false) (fuel : Nat) (rest : List Receiver) :
    deliver b a kept (fuel + 1) last (r :: rest) s = deliver b a kept fuel none rest s := by
  simp only [deliver, hdead, Bool.false_eq_true, if_false]

theorem deliver_of_alive {last : Option Receiver} {r : Receiver}
    (halive : s.isAlive (last.toList ++ kept) r = true) (fuel : Nat) (rest : List Receiver) :
    deliver b a kept (fuel + 1) last (r :: rest) s =
      match react b (r :: kept) fuel (b (s.note r a).calls r a) (s.note r a) with
      | (.finished, s) => deliver b a kept fuel (some r) rest s
      | failed => failed := by
  simp only [deliver, halive, if_true]
  rfl

theorem Runs.eventually {task : Task α} {edits : List Edit} {held : List Receiver} {e : Ending}
    (h : Runs b kept task s edits held e t) : ∀ᶠ fuel in atTop, task.exec b kept fuel s = (e, t) := by
  induction h with
  | ended => exact eventually_of_succ (.of_forall fun fuel => rfl)
  | passed hdead hrest ih =>
    refine eventually_of_succ (ih.mono fun fuel h => ?_)
    rw [Task.exec, deliver_of_dead hdead]
    exact h
  | called halive hcall hrest ihcall ihrest =>
    refine eventually_of_succ ((ihcall.and ihrest).mono fun fuel ⟨hcall, hrest⟩ => ?_)
    rw [Task.exec] at hcall
    rw [Task.exec, deliver_of_alive halive, hcall]
    exact hrest
  | broken halive hcall ih =>
    refine eventually_of_succ (ih.mono fun fuel h => ?_)
    rw [Task.exec] at h
    rw [Task.exec, deliver_of_alive halive, h]
  | done => exact eventually_of_succ (.of_forall fun fuel => rfl)
  | failed => exact eventually_of_succ (.of_forall fun fuel => rfl)
  | connect hrest ih | disconnect hrest ih | drop hrest ih =>
    exact eventually_of_succ (ih.mono fun fuel h => h)
  | sent hsend hrest ihsend ihrest =>
    refine eventually_of_succ ((ihsend.and ihrest).mono fun fuel ⟨hsend, hrest⟩ => ?_)
    rw [Task.exec] at hsend
    rw [Task.exec, react, hsend]
    exact hrest
  | sentInVain hsend ih =>
    refine eventually_of_succ (ih.mono fun fuel h => ?_)
    rw [Task.exec] at h
    rw [Task.exec, react, h]
  | attempted hsend hrest ihsend ihrest =>
    refine eventually_of_succ ((ihsend.and ihrest).mono fun fuel ⟨hsend, hrest⟩ => ?_)
    rw [Task.exec] at hsend
    rw [Task.exec, react, hsend]
    exact hrest

/-- Calls are never forgotten, with whatever fuel. -/
theorem calls_le_exec (fuel : Nat) : ∀ (kept : List Receiver) (task : Task α) (s : State α),
    s.calls.length ≤ (task.exec b kept fuel s).2.calls.length := by
  induction fuel with
  | zero => intro kept task s; cases task <;> exact le_rfl
  | succ fuel ih =>
    intro kept task s
    cases task with
    | turns a last rest =>
      cases rest with
      | nil => exact le_rfl
      | cons r rest =>
        cases halive : s.isAlive (last.toList ++ kept) r with
        | false =>
          rw [Task.exec, deliver_of_dead halive]
          exact ih kept (.turns a none rest) s
        | true =>
          have hcall := ih (r :: kept) (.reactions (b (s.note r a).calls r a)) (s.note r a)
          have hnote : s.calls.length ≤ (s.note r a).calls.length := Nat.le_succ _
          rw [Task.exec] at hcall
          rw [Task.exec, deliver_of_alive halive]
          split
          · next u hu =>
            rw [hu] at hcall
            exact (hnote.trans hcall).trans (ih kept (.turns a (some r) rest) u)
          · exact hnote.trans hcall
    | reactions rest =>
      match rest with
      | [] | .fail :: _ => exact le_rfl
      | .connect r :: rest => exact ih kept (.reactions rest) (s.connect r)
      | .disconnect r :: rest => exact ih kept (.reactions rest) (s.disconnect r)
      | .drop r :: rest => exact ih kept (.reactions rest) (s.drop r)
      | .send a :: rest =>
        have hsend := ih kept (.turns a none s.connected) s
        rw [Task.exec] at hsend
        rw [Task.exec, react]
        split
        · next u hu =>
          rw [hu] at hsend
          exact hsend.trans (ih kept (.reactions rest) u)
        · exact hsend
      | .attempt a :: rest =>
        exact (ih kept (.turns a none s.connected) s).trans (ih kept (.reactions rest) _)

/-- The calls of a run are noted on top of those before it. -/
theorem Runs.calls_suffix {task : Task α} {edits : List Edit} {held : List Receiver} {e : Ending}
    (h : Runs b kept task s edits held e t) : s.calls <:+ t.calls := by
  induction h with
  | ended | done | failed => exact List.suffix_rfl
  | passed _ _ ih | connect _ ih | disconnect _ ih | drop _ ih | sentInVain _ ih => exact ih
  | called _ _ _ ihcall ihrest => exact ((List.suffix_cons _ _).trans ihcall).trans ihrest
  | broken _ _ ih => exact (List.suffix_cons _ _).trans ih
  | sent _ _ ihsend ihrest | attempted _ _ ihsend ihrest => exact ihsend.trans ihrest

/-- No run leads anywhere. -/
def Endless (b : Behaviour α) (kept : List Receiver) (task : Task α) (s : State α) : Prop :=
  ∀ edits held e t, ¬ Runs b kept task s edits held e t

def Calls (b : Behaviour α) (kept : List Receiver) (task : Task α) (s : State α) (n : Nat) : Prop :=
  ∀ᶠ fuel in atTop, s.calls.length + n ≤ (task.exec b kept fuel s).2.calls.length

theorem exists_run_of_not_endless {task : Task α} (h : ¬ Endless b kept task s) :
    ∃ edits held e t, Runs b kept task s edits held e t := by
  simpa only [Endless, not_forall, not_not] using h

/-- An endless send calls one receiver more than what is endless in it. -/
theorem calls_of_endless_turns {n : Nat}
    (hreactions : ∀ kept (rest : List (Reaction α)) s, Endless b kept (.reactions rest) s →
      Calls b kept (.reactions rest) s n)
    {last : Option Receiver} {rest : List Receiver} (h : Endless b kept (.turns a last rest) s) :
    Calls b kept (.turns a last rest) s (n + 1) := by
  induction rest generalizing last s with
  | nil => exact absurd .ended (h _ _ _ _)
  | cons r rest ih =>
    cases halive : s.isAlive (last.toList ++ kept) r with
    | false =>
      have hrest : Endless b kept (.turns a none rest) s :=
        fun _ _ _ _ hrun => h _ _ _ _ (.passed halive hrun)
      refine eventually_of_succ ((ih hrest).mono fun fuel hcalls => ?_)
      rw [Task.exec, deliver_of_dead halive]
      exact hcalls
    | true =>
      have hnote : (s.note r a).calls.length = s.calls.length + 1 := rfl
      by_cases hcall : Endless b (r :: kept) (.reactions (b (s.note r a).calls r a)) (s.note r a)
      · refine eventually_of_succ ((hreactions _ _ _ hcall).mono fun fuel hcalls => ?_)
        rw [Task.exec] at hcalls
        rw [Task.exec, deliver_of_alive halive]
        split
        · next u hu =>
          rw [hu] at hcalls
          have hlater : u.calls.length ≤ (deliver b a kept fuel (some r) rest u).2.calls.length :=
            calls_le_exec fuel kept (.turns a (some r) rest) u
          dsimp only at hcalls
          omega
        · omega
      · obtain ⟨edits, held, e, u, hrun⟩ := exists_run_of_not_endless hcall
        cases e with
        | failed => exact absurd (.broken halive hrun) (h _ _ _ _)
        | finished =>
          have hrest : Endless b kept (.turns a (some r) rest) u :=
            fun _ _ _ _ hlater => h _ _ _ _ (.called halive hrun hlater)
          have hcalled := hrun.calls_suffix.length_le
          refine eventually_of_succ ((hrun.eventually.and (ih hrest)).mono
            fun fuel ⟨hends, hcalls⟩ => ?_)
          simp only [Task.exec] at hends hcalls
          rw [Task.exec, deliver_of_alive halive, hends]
          dsimp only
          omega

/-- What is endless in a receiver is a send that it starts. -/
theorem calls_of_endless_reactions {n : Nat}
    (hturns : ∀ kept a last rest s, Endless b kept (.turns a last rest) s →
      Calls b kept (.turns a last rest) s n)
    {rest : List (Reaction α)} (h : Endless b kept (.reactions rest) s) :
    Calls b kept (.reactions rest) s n := by
  induction rest generalizing s with
  | nil => exact absurd .done (h _ _ _ _)
  | cons reaction rest ih =>
    cases reaction with
    | fail => exact absurd .failed (h _ _ _ _)
    | connect r =>
      have hrest : Endless b kept (.reactions rest) (s.connect r) :=
        fun _ _ _ _ hrun => h _ _ _ _ (.connect hrun)
      exact eventually_of_succ (ih hrest)
    | disconnect r =>
      have hrest : Endless b kept (.reactions rest) (s.disconnect r) :=
        fun _ _ _ _ hrun => h _ _ _ _ (.disconnect hrun)
      exact eventually_of_succ (ih hrest)
    | drop r =>
      have hrest : Endless b kept (.reactions rest) (s.drop r) :=
        fun _ _ _ _ hrun => h _ _ _ _ (.drop hrun)
      exact eventually_of_succ (ih hrest)
    | send a =>
      by_cases hsend : Endless b kept (.turns a none s.connected) s
      · refine eventually_of_succ ((hturns _ _ _ _ _ hsend).mono fun fuel hcalls => ?_)
        simp only [Task.exec] at hcalls
        rw [Task.exec, react]
        split
        · next u hu =>
          rw [hu] at hcalls
          exact hcalls.trans (calls_le_exec fuel kept (.reactions rest) u)
        · exact hcalls
      · obtain ⟨edits, held, e, u, hrun⟩ := exists_run_of_not_endless hsend
        cases e with
        | failed => exact absurd (.sentInVain hrun) (h _ _ _ _)
        | finished =>
          have hrest : Endless b kept (.reactions rest) u :=
            fun _ _ _ _ hlater => h _ _ _ _ (.sent hrun hlater)
          have hsent := hrun.calls_suffix.length_le
          refine eventually_of_succ ((hrun.eventually.and (ih hrest)).mono
            fun fuel ⟨hends, hcalls⟩ => ?_)
          simp only [Task.exec] at hends hcalls
          rw [Task.exec, react, hends]
          dsimp only
          omega
    | attempt a =>
      by_cases hsend : Endless b kept (.turns a none s.connected) s
      · refine eventually_of_succ ((hturns _ _ _ _ _ hsend).mono fun fuel hcalls => ?_)
        exact hcalls.trans (calls_le_exec fuel kept (.reactions rest) _)
      · obtain ⟨edits, held, e, u, hrun⟩ := exists_run_of_not_endless hsend
        have hrest : Endless b kept (.reactions rest) u :=
          fun _ _ _ _ hlater => h _ _ _ _ (.attempted hrun hlater)
        have hsent := hrun.calls_suffix.length_le
        refine eventually_of_succ ((hrun.eventually.and (ih hrest)).mono
          fun fuel ⟨hends, hcalls⟩ => ?_)
        simp only [Task.exec] at hends hcalls
        rw [Task.exec, react, hends]
        dsimp only
        omega

/-- What is endless calls as many receivers as one likes. -/
theorem calls_of_endless (n : Nat) : ∀ kept (task : Task α) s, Endless b kept task s →
    Calls b kept task s n := by
  induction n with
  | zero => exact fun kept task s _ => .of_forall fun fuel => calls_le_exec fuel kept task s
  | succ n ih =>
    have hturns : ∀ kept a last rest s, Endless b kept (.turns a last rest) s →
        Calls b kept (.turns a last rest) s (n + 1) :=
      fun _ _ _ _ _ => calls_of_endless_turns fun kept rest => ih kept (.reactions rest)
    intro kept task s h
    cases task with
    | turns a last rest => exact hturns kept a last rest s h
    | reactions rest => exact calls_of_endless_reactions hturns h

/-- A send whose answer settles has a run. -/
theorem Ends.run {e : Ending} (h : Ends b kept a s e t) :
    ∃ edits held, Runs b kept (.turns a none s.connected) s edits held e t := by
  by_cases hendless : Endless b kept (.turns a none s.connected) s
  · -- it would make more calls than there are in the end
    obtain ⟨fuel, hends, hcalls⟩ :=
      (h.and (calls_of_endless (t.calls.length + 1) _ _ _ hendless)).exists
    simp only [Task.exec, hends] at hcalls
    omega
  · obtain ⟨edits, held, e', t', hrun⟩ := exists_run_of_not_endless hendless
    obtain ⟨fuel, hends, hrunends⟩ := (h.and hrun.eventually).exists
    rw [Task.exec, hends] at hrunends
    cases hrunends
    exact ⟨edits, held, hrun⟩

end Detour.Signal
