import Detour.Proofs.Engine.Turn

/-!
# Commands follow redirects

Every redirect that is recorded becomes one command, in the order of the records. What carries this
along a course is the balance of the ledger: the redirects recorded are the commands given and
behind them those that wait (`Course.Balanced`).
-/
namespace Detour.Course

variable {c : Course}

/-- The redirects recorded are the commands given, followed by those that wait. -/
def Balanced (c : Course) : Prop := c.world.recorded = c.world.issued ++ c.world.pending

/-- What a move does to the ledger. -/
theorem ledger_step (hc : c.Sound) (m : Move) :
    (c.step m).world.recorded = c.world.recorded ∧ (c.step m).world.issued = c.world.issued ∧
        (c.step m).world.pending = c.world.pending ∨
      (∃ x, (c.step m).world.recorded = c.world.recorded ++ [x] ∧
        (c.step m).world.issued = c.world.issued ∧
        (c.step m).world.pending = c.world.pending ++ [x]) ∨
      ∃ x, (c.step m).world.recorded = c.world.recorded ∧
        (c.step m).world.issued = c.world.issued ++ [x] ∧
        c.world.pending = x :: (c.step m).world.pending := by
  cases (step_turn hc m).2 with
  | keeps clock ledger guard =>
    have hrecorded : (c.step m).world.recorded = c.world.recorded := by
      have hsame : (c.step m).world.redirects = c.world.redirects := ledger.redirects
      rw [World.recorded, hsame, World.recorded]
    exact .inl ⟨hrecorded, ledger.issued, ledger.pending⟩
  | records e clock now free world =>
    have hworld : (c.step m).world = _ := world
    refine .inr (.inl ⟨(e.tab, e.url), ?_, ?_, ?_⟩)
    · rw [hworld]
      simp [World.recorded, World.withRedirect, Course.world]
    · rw [hworld]
      rfl
    · rw [hworld]
      exact World.pending_spawn hc.tidy e.tab e.url
  | gives tab url rest clock ready world =>
    have hworld : (c.step m).world = _ := world
    refine .inr (.inr ⟨(tab, url), ?_, ?_, ?_⟩)
    · rw [hworld]
      rfl
    · rw [hworld]
      rfl
    · rw [hworld]
      exact World.pending_of_ready ready

theorem Balanced.step (hb : c.Balanced) (hc : c.Sound) (m : Move) : (c.step m).Balanced := by
  unfold Balanced at hb ⊢
  rcases ledger_step hc m with ⟨hr, hi, hp⟩ | ⟨x, hr, hi, hp⟩ | ⟨x, hr, hi, hp⟩
  · rw [hr, hi, hp, hb]
  · rw [hr, hi, hp, hb, List.append_assoc]
  · rw [hr, hi, hb, hp, List.append_assoc, List.singleton_append]

theorem Reachable.balanced (hc : c.Reachable) : c.Balanced := by
  induction hc with
  | opening settings lookup s cooldown => rfl
  | step m h ih => exact ih.step h.sound m

/-- A command is given only where its redirect has been recorded before. -/
theorem issued_step_prefix (hc : c.Sound) (hb : c.Balanced) (m : Move) :
    (c.step m).world.issued <+: c.world.recorded := by
  rw [hb]
  rcases ledger_step hc m with ⟨-, hi, -⟩ | ⟨x, -, hi, -⟩ | ⟨x, -, hi, hp⟩
  · rw [hi]
    exact List.prefix_append _ _
  · rw [hi]
    exact List.prefix_append _ _
  · have hprefix := List.prefix_append (c.world.issued ++ [x]) (c.step m).world.pending
    rwa [List.append_assoc, List.singleton_append, ← hp, ← hi] at hprefix

theorem ledger_grows (hc : c.Sound) (m : Move) :
    c.world.recorded <+: (c.step m).world.recorded ∧
      c.world.issued <+: (c.step m).world.issued := by
  rcases ledger_step hc m with ⟨hr, hi, -⟩ | ⟨x, hr, hi, -⟩ | ⟨x, hr, hi, -⟩ <;>
    rw [hr, hi] <;> exact ⟨by simp, by simp⟩

/-- Commands follow redirects. In every course the commands given are the first of the redirects
recorded, and the others are those that wait; a command is given after its redirect has been
recorded, and nothing of either is ever taken back. A command is given once and leaves the guard and
the other commands alone; whether it fails makes no difference to what comes after. -/
theorem commands_follow_redirects (hc : c.Reachable) :
    c.world.recorded = c.world.issued ++ c.world.pending ∧
    (c.world.agenda.ready = [] → c.world.issued = c.world.recorded) ∧
    (∀ m, c.world.recorded <+: (c.step m).world.recorded ∧
      c.world.issued <+: (c.step m).world.issued ∧
      (c.step m).world.issued <+: c.world.recorded) ∧
    ∀ tab url rest, c.world.agenda.ready = .navigate tab url :: rest →
      (c.step .task).world.issued = c.world.issued ++ [(tab, url)] ∧
      c.world.pending = (tab, url) :: (c.step .task).world.pending ∧
      (c.step .task).world.recorded = c.world.recorded ∧
      (c.step .task).world.guard = c.world.guard ∧
      ∀ failure, ((c.step (.breakTabs failure)).step .task).world =
        { (c.step .task).world with tabs := { (c.step .task).world.tabs with failure } } := by
  have hb := hc.balanced
  refine ⟨hb, fun hready => ?_, fun m => ?_, fun tab url rest hready => ?_⟩
  · have hpending : c.world.pending = [] := by
      rw [World.pending_eq_ready hc.sound.tidy, hready, List.filterMap_nil]
    rw [hb, hpending, List.append_nil]
  · obtain ⟨hrecorded, hissued⟩ := ledger_grows hc.sound m
    exact ⟨hrecorded, hissued, issued_step_prefix hc.sound hb m⟩
  · obtain ⟨-, -, hworld⟩ := task_of_command hready
    rw [hworld]
    refine ⟨rfl, World.pending_of_ready hready, rfl, rfl, fun failure => ?_⟩
    have hbroken : (c.step (.breakTabs failure)).world.agenda.ready = .navigate tab url :: rest :=
      hready
    obtain ⟨-, -, hworld'⟩ := task_of_command hbroken
    rw [hworld']
    rfl

/-- After two redirects, the command of one of which has failed. -/
theorem failed_command_follows :
    ∃ c : Course, c = sample.run [.look samplePage, .answer 0, .breakTabs (some .unsupported), .task,
        .wait 3, .look samplePage, .answer 0] ∧
      c.world.issued = [(.number 1, "https://docs.test/")] ∧
      c.world.pending = [(.number 1, "https://docs.test/")] ∧
      c.world.recorded = c.world.issued ++ c.world.pending := by
  refine ⟨_, rfl, by decide +kernel, by decide +kernel, ?_⟩
  exact (commands_follow_redirects ((Reachable.opening _ _ _ _).run _)).1

end Detour.Course
