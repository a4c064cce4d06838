import Detour.Proofs.Engine.Turn

/-!
# What concerns one tab

Of the guard, the ledger and the agenda, what concerns a tab is what stands under an id of it. A scene
is reduced to a tab if it has this of another scene, and all the rest of it but the log and the count
of the readings (`Scene.Reduces`). A redirect of the tab may be recorded before or after the others
are left out (`World.redirecting_about`); one of another tab makes no difference
(`World.about_redirecting_other`).
-/
namespace Detour

def Task.isElsewhere (tab : Id) : Task → Bool
  | .navigate t _ => !t.same tab
  | _ => false

variable {tab other : Id} {now : Rat}

namespace Guard

def about (tab : Id) (g : Guard) : Guard := { g with entries := g.entries.filter (·.1.same tab) }

variable {g : Guard}

theorem entryOf?_about (h : other.same tab = true) (g : Guard) :
    (g.about tab).entryOf? other = g.entryOf? other := by
  have hsame : ∀ p : Id × GuardEntry,
      (decide (p.1.same tab = true ∧ p.1.same other = true)) = p.1.same other := by
    intro p
    by_cases hp : p.1.same other
    · simp [hp, Id.same_congr hp tab, h]
    · simp [hp]
  simp only [entryOf?, about, List.find?_filter, hsame]

theorem about_clear (g : Guard) (other : Id) :
    (g.clear other).about tab = (g.about tab).clear other := by
  simp [about, clear, List.filter_filter, Bool.and_comm]

theorem about_clear_other (h : other.same tab = false) (g : Guard) :
    (g.clear other).about tab = g.about tab := by
  simp only [about, clear, List.filter_filter]
  congr 1
  refine List.filter_congr fun p _ => ?_
  by_cases hp : p.1.same tab
  · have hother : p.1.same other = false := by rw [Id.same_congr hp, Id.same_comm, h]
    simp [hp, hother]
  · simp [hp]

theorem isSuppressed_about (h : other.same tab = true) (g : Guard) :
    (g.about tab).isSuppressed now other =
      ((g.isSuppressed now other).1, (g.isSuppressed now other).2.about tab) := by
  unfold isSuppressed
  rw [entryOf?_about h]
  cases g.entryOf? other with
  | none => rfl
  | some e =>
    have hexpired : (g.about tab).hasExpired now e = g.hasExpired now e := rfl
    simp only [hexpired]
    cases g.hasExpired now e with
    | false => rfl
    | true => simp [about_clear]

theorem about_isSuppressed_other (h : other.same tab = false) (g : Guard) :
    (g.isSuppressed now other).2.about tab = g.about tab := by
  cases hs : (g.isSuppressed now other).1 with
  | true => rw [isSuppressed_of_true hs]
  | false =>
    rcases isSuppressed_of_false hs with ⟨hg, -⟩ | ⟨hg, -⟩
    · rw [hg]
    · rw [hg, about_clear_other h]

theorem filter_putEntry_same (h : other.same tab = true) (e : GuardEntry)
    (es : List (Id × GuardEntry)) :
    (putEntry other e es).filter (·.1.same tab) = putEntry other e (es.filter (·.1.same tab)) := by
  induction es with
  | nil => simp [putEntry, h]
  | cons p rest ih =>
    obtain ⟨k, old⟩ := p
    by_cases hk : k.same other
    · have hkt : k.same tab = true := by rw [Id.same_congr hk, h]
      simp [putEntry, hk, hkt]
    · by_cases hkt : k.same tab <;> simp [putEntry, hk, hkt, ih]

theorem filter_putEntry_other (h : other.same tab = false) (e : GuardEntry)
    (es : List (Id × GuardEntry)) :
    (putEntry other e es).filter (·.1.same tab) = es.filter (·.1.same tab) := by
  induction es with
  | nil => simp [putEntry, h]
  | cons p rest ih =>
    obtain ⟨k, old⟩ := p
    by_cases hk : k.same other
    · have hkt : k.same tab = false := by rw [Id.same_congr hk, h]
      simp [putEntry, hk, hkt]
    · by_cases hkt : k.same tab <;> simp [putEntry, hk, hkt, ih]

theorem about_record (h : other.same tab = true) (g : Guard) (now : Rat) (url : String) :
    (g.record now other url).about tab = (g.about tab).record now other url := by
  simp only [about, record, filter_putEntry_same h]

theorem about_record_other (h : other.same tab = false) (g : Guard) (now : Rat) (url : String) :
    (g.record now other url).about tab = g.about tab := by
  simp only [about, record, filter_putEntry_other h]

theorem about_sweep (g : Guard) (now : Rat) :
    (g.sweep now).2.about tab = ((g.about tab).sweep now).2 := by
  have hsweep : ∀ g : Guard, (g.sweep now).2 =
      { g with entries := g.entries.filter fun p => !g.hasExpired now p.2 } := by
    intro g
    rw [← entries_sweep]
    rfl
  rw [hsweep, hsweep]
  simp only [about, List.filter_filter]
  congr 1
  exact List.filter_congr fun p _ => Bool.and_comm _ _

end Guard

namespace Agenda

/-- The agenda without commands to other tabs; commands never sleep. -/
def about (tab : Id) (a : Agenda Task) : Agenda Task :=
  { a with ready := a.ready.filter fun t => !t.isElsewhere tab }

variable {a : Agenda Task} {t : Task}

theorem about_spawn (h : t.isElsewhere tab = false) (a : Agenda Task) :
    (a.spawn t).about tab = (a.about tab).spawn t := by
  simp [about, spawn, h]

theorem about_spawn_other (h : t.isElsewhere tab = true) (a : Agenda Task) :
    (a.spawn t).about tab = a.about tab := by
  simp [about, spawn, h]

theorem about_spawnAll (tasks : List AlarmTask) (a : Agenda Task) :
    (tasks.foldl (fun a t => a.spawn (.alarm t)) a).about tab =
      tasks.foldl (fun a t => a.spawn (.alarm t)) (a.about tab) := by
  induction tasks generalizing a with
  | nil => rfl
  | cons x rest ih => rw [List.foldl_cons, ih, about_spawn rfl, List.foldl_cons]

theorem about_cancel (a : Agenda Task) (p : Task → Bool) :
    (a.cancel p).about tab = (a.about tab).cancel p := by
  simp [about, cancel, List.filter_filter, Bool.and_comm]

theorem about_wakeAt (h : a.Tidy) (time : Rat) :
    (a.wakeAt time).about tab = (a.about tab).wakeAt time := by
  have hdue : ((a.sleeping.takeWhile fun e => decide (e.1 ≤ time)).map (·.2)).filter
      (fun t => !t.isElsewhere tab) =
        (a.sleeping.takeWhile fun e => decide (e.1 ≤ time)).map (·.2) := by
    refine List.filter_eq_self.mpr fun t ht => ?_
    obtain ⟨p, hp, rfl⟩ := List.mem_map.mp ht
    obtain ⟨x, hx⟩ := h.sleeping p ((List.takeWhile_sublist _).subset hp)
    rw [hx]
    rfl
  simp only [about, wakeAt, List.span_eq_takeWhile_dropWhile, List.filter_append, hdue]

end Agenda

namespace World

/-- The world without the entries, redirects and commands of other tabs. -/
def about (tab : Id) (w : World) : World :=
  { w with
    guard := w.guard.about tab
    redirects := w.redirects.filter (·.tab.same tab)
    tabs := { w.tabs with issued := w.tabs.issued.filter (·.1.same tab) }
    agenda := w.agenda.about tab }

def counting (w : World) (lookups reads : Nat) : World :=
  { w with lookups, memory := { w.memory with reads } }

theorem countLookup_eq (w : World) :
    ∃ lookups reads, w.countLookup = w.counting lookups reads := by
  refine ⟨w.lookups + 1, if w.rulesPath.isNone then w.memory.reads + 1 else w.memory.reads, ?_⟩
  unfold countLookup counting
  split <;> rfl

theorem redirecting_about (h : other.same tab = true) (w : World) (lookups reads : Nat)
    (url : String) :
    ((w.about tab).counting lookups reads).redirecting now other url =
      ((w.redirecting now other url).about tab).counting lookups reads := by
  have hguard : ((w.about tab).counting lookups reads).guard.isSuppressed now other =
      ((w.guard.isSuppressed now other).1, (w.guard.isSuppressed now other).2.about tab) :=
    Guard.isSuppressed_about h w.guard
  cases hs : (w.guard.isSuppressed now other).1 with
  | true => rw [redirecting_of_suppressed hs, redirecting_of_suppressed (by rw [hguard, hs])]
  | false =>
    rw [redirecting_of_free hs, redirecting_of_free (by rw [hguard, hs]), hguard]
    have hspawn : (w.agenda.spawn (.navigate other url)).about tab =
        (w.agenda.about tab).spawn (.navigate other url) :=
      Agenda.about_spawn (by simp [Task.isElsewhere, h]) w.agenda
    simp only [withRedirect, about, counting, Guard.about_record h, hspawn, List.filter_cons, h,
      if_true]

theorem about_redirecting_other (h : other.same tab = false) (w : World) (url : String) :
    (w.redirecting now other url).about tab = w.about tab := by
  cases hs : (w.guard.isSuppressed now other).1 with
  | true => rw [redirecting_of_suppressed hs]
  | false =>
    have hspawn : (w.agenda.spawn (.navigate other url)).about tab = w.agenda.about tab :=
      Agenda.about_spawn_other (by simp [Task.isElsewhere, h]) w.agenda
    rw [redirecting_of_free hs]
    simp only [withRedirect, about, Guard.about_record_other h, hspawn,
      Guard.about_isSuppressed_other h, List.filter_cons, h, Bool.false_eq_true, if_false]

end World

/-- The second scene has of the first one what concerns the tab, and all that belongs to none. What is
logged, and how often the rules have been read, may differ. -/
structure Scene.Reduces (tab : Id) (s t : Scene World) : Prop where
  clock : t.clock = s.clock
  world : ∃ lookups reads, t.world = (s.world.about tab).counting lookups reads

namespace Scene.Reduces

variable {s t : Scene World}

theorem note (h : s.Reduces tab t) (r : LogRecord) :
    (s.note r).Reduces tab (t.note r) :=
  ⟨h.clock, h.world⟩

theorem files (h : s.Reduces tab t) : t.world.files = s.world.files := by
  obtain ⟨lookups, reads, hworld⟩ := h.world
  rw [hworld]
  rfl

theorem alarms (h : s.Reduces tab t) : t.world.alarms = s.world.alarms := by
  obtain ⟨lookups, reads, hworld⟩ := h.world
  rw [hworld]
  rfl

theorem cleanupScheduled (h : s.Reduces tab t) :
    t.world.cleanupScheduled = s.world.cleanupScheduled := by
  obtain ⟨lookups, reads, hworld⟩ := h.world
  rw [hworld]
  rfl

theorem isSuppressed (h : s.Reduces tab t) (hother : other.same tab = true) :
    t.world.guard.isSuppressed t.millis other =
      ((s.world.guard.isSuppressed s.millis other).1,
        (s.world.guard.isSuppressed s.millis other).2.about tab) := by
  obtain ⟨lookups, reads, hworld⟩ := h.world
  have hnow : t.millis = s.millis := congrArg (· * 1000) h.clock
  rw [hworld, hnow]
  exact Guard.isSuppressed_about hother s.world.guard

/-- A sweep leaves of the tab's entries what it would leave without the others. -/
theorem sweep (h : s.Reduces tab t) :
    (after Chain.sweep s).Reduces tab (after Chain.sweep t) := by
  obtain ⟨lookups, reads, hworld⟩ := h.world
  have hnow : t.millis = s.millis := congrArg (· * 1000) h.clock
  refine ⟨h.clock, lookups, reads, ?_⟩
  change { t.world with guard := (t.world.guard.sweep t.millis).2 } =
    (({ s.world with guard := (s.world.guard.sweep s.millis).2 } : World).about tab).counting
      lookups reads
  rw [hworld, hnow]
  simp only [World.about, World.counting, Guard.about_sweep]

end Scene.Reduces
end Detour
