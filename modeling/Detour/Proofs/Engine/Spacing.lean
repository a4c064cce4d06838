import Detour.Proofs.Engine.Turn

/-!
# Redirects of one tab are spaced

However navigations race for the rules, two redirects of one tab are as far apart as some cooldown
in force between them. What carries this from one move to the next: either the guard still holds a
redirect of the tab that is no older than the first one, or at some time since a cooldown has passed
(`Course.holds_step`).
-/
namespace Detour

/-- A move that does not free a tab drops at most an expired entry of it. -/
theorem Move.entryOf?_of_onGuard {m : Move} {now : Rat} {g g' : Guard} {tab : Id}
    (h : m.onGuard now g g') (hg : g.Keyed) (hm : m.frees tab = false) :
    g'.entryOf? tab = g.entryOf? tab ∨
      ∃ e, g.entryOf? tab = some e ∧ (g.cooldown : Rat) ≤ now - e.recordedAt := by
  cases m with
  | look | answer | sweep | task =>
    have hf : Guard.Fades now g g' := h
    rcases hf.kept hg tab with hk | ⟨-, e, he, hx⟩
    · exact .inl hk
    · exact .inr ⟨e, he, Guard.hasExpired_iff.mp hx⟩
  | close | update | supply | breakTabs | wait | running | done =>
    exact .inl (Guard.Spares.kept h tab hm)

namespace Course

variable {c d : Course} {m : Move} {tab : Id} {start : Rat}

def millis (c : Course) : Rat := c.scene.millis

def cooldown (c : Course) : Int := c.world.guard.cooldown

theorem millis_step (hc : c.Sound) (m : Move) : c.millis ≤ (c.step m).millis := by
  have hclock : c.scene.clock ≤ (c.step m).scene.clock := by
    cases (step_turn hc m).2 with
    | keeps clock ledger guard => exact clock
    | records e clock now free world => exact clock.ge
    | gives tab url rest clock ready world => exact clock.ge
  exact mul_le_mul_of_nonneg_right hclock (by norm_num)

theorem millis_run (hc : c.Sound) (moves : List Move) : c.millis ≤ (c.run moves).millis := by
  induction moves generalizing c with
  | nil => exact le_rfl
  | cons m moves ih => exact (millis_step hc m).trans (ih (hc.step m))

theorem mem_trail_self (c : Course) (moves : List Move) : c ∈ c.trail moves := by
  cases moves <;> simp [trail]

theorem run_mem_trail (c : Course) (moves : List Move) : c.run moves ∈ c.trail moves := by
  induction moves generalizing c with
  | nil => simp [trail]
  | cons m moves ih => exact List.mem_cons_of_mem c (ih (c.step m))

/-- Whatever is passed through lies between the first course and the last. -/
theorem millis_of_mem_trail (hc : c.Sound) {moves : List Move} {u : Course}
    (hu : u ∈ c.trail moves) : c.millis ≤ u.millis ∧ u.millis ≤ (c.run moves).millis := by
  induction moves generalizing c with
  | nil =>
    obtain rfl : u = c := by simpa [trail] using hu
    exact ⟨le_rfl, le_rfl⟩
  | cons m moves ih =>
    rcases List.mem_cons.mp hu with rfl | hu
    · exact ⟨le_rfl, millis_run hc (m :: moves)⟩
    · obtain ⟨hfirst, hlast⟩ := ih (hc.step m) hu
      exact ⟨(millis_step hc m).trans hfirst, hlast⟩

/-- A redirect is recorded at the time of the move, on a tab that is free, and then held. -/
theorem records_of_redirects (hc : c.Sound) {e : GuardEntry}
    (h : (c.step m).world.redirects = e :: c.world.redirects) :
    (c.step m).millis = c.millis ∧ e.recordedAt = c.millis ∧
      (c.world.guard.isSuppressed c.millis e.tab).1 = false ∧
      (c.step m).world.guard.entryOf? e.tab = some e := by
  cases (step_turn hc m).2 with
  | keeps clock ledger guard =>
    have hsame : (c.step m).world.redirects = c.world.redirects := ledger.redirects
    rw [hsame] at h
    exact absurd h.symm (List.cons_ne_self _ _)
  | records f clock now free world =>
    have hworld : (c.step m).world = _ := world
    have hf : f = e := by
      rw [hworld] at h
      exact (List.cons.inj h).1
    subst hf
    refine ⟨congrArg (· * 1000) clock, now, free, ?_⟩
    rw [hworld]
    exact Guard.entryOf?_record_same _ _ _ (Id.same_refl f.tab)
  | gives tab url rest clock ready world =>
    have hworld : (c.step m).world = _ := world
    rw [hworld] at h
    exact absurd h.symm (List.cons_ne_self _ _)

/-- The guard holds a redirect of the tab that was recorded no earlier than some time. -/
def Holds (tab : Id) (start : Rat) (c : Course) : Prop :=
  ∃ e, c.world.guard.entryOf? tab = some e ∧ start ≤ e.recordedAt

/-- Unless the tab is freed, such a redirect is held until a cooldown has passed. -/
theorem holds_step (hc : c.Sound) (hm : m.frees tab = false) (hh : c.Holds tab start)
    (hstart : start ≤ c.millis) :
    (c.step m).Holds tab start ∨ (c.cooldown : Rat) ≤ c.millis - start := by
  obtain ⟨e, he, hse⟩ := hh
  -- Where the guard has dropped the entry, it had expired.
  have hkept : ∀ g : Guard, (g.entryOf? tab = c.world.guard.entryOf? tab ∨
      ∃ e', c.world.guard.entryOf? tab = some e' ∧
        (c.world.guard.cooldown : Rat) ≤ c.millis - e'.recordedAt) →
      (∃ e', g.entryOf? tab = some e' ∧ start ≤ e'.recordedAt) ∨
        (c.cooldown : Rat) ≤ c.millis - start := by
    rintro g (hg | ⟨e', he', hx⟩)
    · exact .inl ⟨e, hg.trans he, hse⟩
    · rw [he, Option.some.injEq] at he'
      exact .inr (hx.trans (sub_le_sub_left (he' ▸ hse) _))
  cases (step_turn hc m).2 with
  | keeps clock ledger guard => exact hkept _ (m.entryOf?_of_onGuard guard hc.keyed hm)
  | records f clock now free world =>
    have hworld : (c.step m).world = _ := world
    unfold Holds
    rw [hworld]
    cases hf : f.tab.same tab with
    | true =>
      refine .inl ⟨f, Guard.entryOf?_record_same _ _ _ hf, ?_⟩
      rw [now]
      exact hstart
    | false =>
      have hother := Guard.entryOf?_record_other
        (c.world.guard.isSuppressed c.millis f.tab).2 f.recordedAt f.url hf
      have hasked := Guard.fades_isSuppressed c.world.guard c.millis f.tab
      refine hkept _ ?_
      rcases hasked.kept hc.keyed tab with hk | ⟨-, e', he', hx⟩
      · exact .inl (hother.trans hk)
      · exact .inr ⟨e', he', Guard.hasExpired_iff.mp hx⟩
  | gives t url rest clock ready world =>
    have hworld : (c.step m).world = _ := world
    unfold Holds
    rw [hworld]
    exact .inl ⟨e, he, hse⟩

theorem holds_run (hc : c.Sound) {moves : List Move} (hm : ∀ m ∈ moves, m.frees tab = false)
    (hh : c.Holds tab start) (hstart : start ≤ c.millis) :
    (c.run moves).Holds tab start ∨
      ∃ u ∈ c.trail moves, (u.cooldown : Rat) ≤ (c.run moves).millis - start := by
  induction moves generalizing c with
  | nil => exact .inl hh
  | cons m moves ih =>
    rcases holds_step hc (hm m (by simp)) hh hstart with hh | hx
    · rcases ih (hc.step m) (fun m' hm' => hm m' (by simp [hm'])) hh
        (hstart.trans (millis_step hc m)) with hh | ⟨u, hu, hx⟩
      · exact .inl hh
      · exact .inr ⟨u, List.mem_cons_of_mem c hu, hx⟩
    · refine .inr ⟨c, mem_trail_self c _, hx.trans ?_⟩
      exact sub_le_sub_right (millis_run hc (m :: moves)) start

/-- Take two redirects of one tab that the engine has recorded, with nothing that frees the tab
between them. Then some cooldown in force between them is no longer than the time between them; so
if the cooldown has not changed they are that far apart. -/
theorem redirects_spaced (hc : c.Reachable) {m₁ m₂ : Move} {between : List Move}
    {e f : GuardEntry}
    (first : (c.step m₁).world.redirects = e :: c.world.redirects)
    (second : (((c.step m₁).run between).step m₂).world.redirects =
      f :: ((c.step m₁).run between).world.redirects)
    (same : e.tab.same f.tab = true) (kept : ∀ m ∈ between, m.frees e.tab = false) :
    (∃ u ∈ (c.step m₁).trail between, e.recordedAt ≤ u.millis ∧ u.millis ≤ f.recordedAt ∧
      (u.cooldown : Rat) ≤ f.recordedAt - e.recordedAt) ∧
    ∀ constant : Int, (∀ u ∈ (c.step m₁).trail between, u.cooldown = constant) →
      (constant : Rat) ≤ f.recordedAt - e.recordedAt := by
  have hd := hc.sound.step m₁
  obtain ⟨hsame, he, -, hentry⟩ := records_of_redirects hc.sound first
  have hstart : e.recordedAt ≤ (c.step m₁).millis := by rw [he, hsame]
  obtain ⟨-, hf, hfree, -⟩ := records_of_redirects (hd.run between) second
  -- The last course before the second redirect will do if the guard still holds the first one.
  have hspace : ∃ u ∈ (c.step m₁).trail between,
      (u.cooldown : Rat) ≤ f.recordedAt - e.recordedAt := by
    rcases holds_run hd kept ⟨e, hentry, le_rfl⟩ hstart with ⟨e', he', hle⟩ | ⟨u, hu, hx⟩
    · rw [Guard.entryOf?_congr same] at he'
      have hx := Guard.isSuppressed_eq_false_iff.mp hfree e' he'
      refine ⟨_, run_mem_trail _ between, hx.trans ?_⟩
      rw [hf]
      exact sub_le_sub_left hle _
    · exact ⟨u, hu, by rw [hf]; exact hx⟩
  obtain ⟨u, hu, hx⟩ := hspace
  obtain ⟨hfirst, hlast⟩ := millis_of_mem_trail hd hu
  refine ⟨⟨u, hu, hstart.trans hfirst, by rw [hf]; exact hlast, hx⟩, fun constant hconst => ?_⟩
  rw [← hconst u hu]
  exact hx

/-- Two visits race for the rules, and a third one comes after three seconds. -/
theorem race_spaced :
    ∃ u ∈ ((sample.run [.look samplePage, .look samplePage]).step (.answer 0)).trail
        [.answer 0, .wait 3, .look samplePage],
      0 ≤ u.millis ∧ u.millis ≤ 3000 ∧ (u.cooldown : Rat) ≤ 3000 - 0 := by
  have hc : (sample.run [.look samplePage, .look samplePage]).Reachable :=
    (Reachable.opening _ _ _ _).run _
  have first : ((sample.run [.look samplePage, .look samplePage]).step (.answer 0)).world.redirects =
      ⟨.number 1, "https://docs.test/", 0⟩ ::
        (sample.run [.look samplePage, .look samplePage]).world.redirects := by
    decide +kernel
  have second : ((((sample.run [.look samplePage, .look samplePage]).step (.answer 0)).run
        [.answer 0, .wait 3, .look samplePage]).step (.answer 0)).world.redirects =
      ⟨.number 1, "https://docs.test/", 3000⟩ ::
        (((sample.run [.look samplePage, .look samplePage]).step (.answer 0)).run
          [.answer 0, .wait 3, .look samplePage]).world.redirects := by
    decide +kernel
  have kept : ∀ m ∈ [Move.answer 0, .wait 3, .look samplePage],
      m.frees (GuardEntry.mk (.number 1) "https://docs.test/" 0).tab = false := by
    simp [Move.frees]
  exact (redirects_spaced hc first second rfl kept).1

end Course
end Detour
