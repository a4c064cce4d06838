import Detour.Proofs.Agenda
import Detour.Proofs.Engine.Course

/-!
# The ledger of redirects and commands

The redirects recorded, the commands given and those that wait as tasks. An engine that reads no
record has tasks of two kinds only, alarms and commands, and its commands never sleep
(`Agenda.Tidy`). `LedgerKept` says of a change of the world that it keeps the ledger.
-/
namespace Detour

/-- The tasks of an engine that reads no record: alarms, and commands that are ready. -/
structure Agenda.Tidy (a : Agenda Task) : Prop where
  ready : ∀ t ∈ a.ready, (∃ x, t = .alarm x) ∨ ∃ tab url, t = .navigate tab url
  sleeping : ∀ p ∈ a.sleeping, ∃ x, p.2 = .alarm x

namespace Agenda

variable {a : Agenda Task}

theorem Tidy.spawn (h : a.Tidy) {t : Task}
    (ht : (∃ x, t = .alarm x) ∨ ∃ tab url, t = .navigate tab url) : (a.spawn t).Tidy := by
  refine ⟨fun u hu => ?_, h.sleeping⟩
  rcases List.mem_append.mp hu with hu | hu
  · exact h.ready u hu
  · rwa [List.mem_singleton.mp hu]

theorem Tidy.sleepUntil (h : a.Tidy) (due : Rat) (x : AlarmTask) :
    (a.sleepUntil due (.alarm x)).Tidy := by
  refine ⟨h.ready, fun p hp => ?_⟩
  rcases mem_insertSleeper.mp hp with rfl | hp
  · exact ⟨x, rfl⟩
  · exact h.sleeping p hp

theorem Tidy.cancel (h : a.Tidy) (p : Task → Bool) : (a.cancel p).Tidy :=
  ⟨fun t ht => h.ready t (List.mem_of_mem_filter ht),
    fun q hq => h.sleeping q (List.mem_of_mem_filter hq)⟩

theorem Tidy.pop (h : a.Tidy) {t : Task} {rest : List Task} (ha : a.ready = t :: rest) :
    ({ a with ready := rest } : Agenda Task).Tidy :=
  ⟨fun u hu => h.ready u (by simp [ha, hu]), h.sleeping⟩

theorem Tidy.wakeAt (h : a.Tidy) (time : Rat) : (a.wakeAt time).Tidy := by
  have hspan := List.takeWhile_append_dropWhile (p := fun e : Rat × Task => decide (e.1 ≤ time))
    (l := a.sleeping)
  simp only [Agenda.wakeAt, List.span_eq_takeWhile_dropWhile]
  refine ⟨fun t ht => ?_, fun p hp => ?_⟩
  · rcases List.mem_append.mp ht with ht | ht
    · exact h.ready t ht
    · obtain ⟨p, hp, rfl⟩ := List.mem_map.mp ht
      exact .inl (h.sleeping p (by rw [← hspan]; exact List.mem_append_left _ hp))
  · exact h.sleeping p (by rw [← hspan]; exact List.mem_append_right _ hp)

end Agenda

namespace World

variable {w : World}

theorem pending_eq_ready (h : w.agenda.Tidy) :
    w.pending = w.agenda.ready.filterMap Task.command? := by
  have hsleep : (w.agenda.sleeping.map (·.2)).filterMap Task.command? = [] := by
    rw [List.filterMap_eq_nil_iff]
    intro t ht
    obtain ⟨p, hp, rfl⟩ := List.mem_map.mp ht
    obtain ⟨x, hx⟩ := h.sleeping p hp
    rw [hx]
    rfl
  rw [pending, Agenda.tasks, List.filterMap_append, hsleep, List.append_nil]

theorem pending_spawn (h : w.agenda.Tidy) (tab : Id) (url : String) :
    ({ w with agenda := w.agenda.spawn (.navigate tab url) } : World).pending =
      w.pending ++ [(tab, url)] := by
  have h' := h.spawn (.inr ⟨tab, url, rfl⟩)
  rw [pending_eq_ready h, pending_eq_ready h']
  simp [Agenda.spawn, Task.command?]

/-- The first command that waits is the first that is carried out. -/
theorem pending_of_ready {tab : Id} {url : String} {rest : List Task}
    (h : w.agenda.ready = .navigate tab url :: rest) :
    w.pending = (tab, url) ::
      ({ w with agenda := { w.agenda with ready := rest } } : World).pending := by
  simp [pending, Agenda.tasks, h, Task.command?]

end World

structure LedgerKept (w w' : World) : Prop where
  redirects : w'.redirects = w.redirects
  issued : w'.issued = w.issued
  pending : w'.pending = w.pending
  tidy : w.agenda.Tidy → w'.agenda.Tidy

namespace LedgerKept

variable {w w' w'' : World}

theorem rfl : LedgerKept w w := ⟨Eq.refl _, Eq.refl _, Eq.refl _, id⟩

theorem trans (h : LedgerKept w w') (h' : LedgerKept w' w'') : LedgerKept w w'' :=
  ⟨h'.redirects.trans h.redirects, h'.issued.trans h.issued, h'.pending.trans h.pending,
    h'.tidy ∘ h.tidy⟩

theorem of_eq (redirects : w'.redirects = w.redirects) (issued : w'.issued = w.issued)
    (agenda : w'.agenda = w.agenda) : LedgerKept w w' :=
  ⟨redirects, issued, by rw [World.pending, agenda, World.pending], fun h => agenda ▸ h⟩

theorem of_agenda (w : World) {a : Agenda Task}
    (pending : a.tasks.filterMap Task.command? = w.pending) (tidy : w.agenda.Tidy → a.Tidy) :
    LedgerKept w { w with agenda := a } :=
  ⟨Eq.refl _, Eq.refl _, pending, tidy⟩

theorem spawn_alarm (w : World) (x : AlarmTask) :
    LedgerKept w { w with agenda := w.agenda.spawn (.alarm x) } := by
  refine .of_agenda w ?_ fun h => h.spawn (.inl ⟨x, Eq.refl _⟩)
  simp [World.pending, Agenda.tasks, Agenda.spawn, List.filterMap_cons, Task.command?]

theorem pop_alarm {x : AlarmTask} {rest : List Task}
    (h : w.agenda.ready = .alarm x :: rest) :
    LedgerKept w { w with agenda := { w.agenda with ready := rest } } := by
  refine .of_agenda w ?_ fun ht => ht.pop h
  simp [World.pending, Agenda.tasks, h, List.filterMap_cons, Task.command?]

theorem sleep_alarm (w : World) (due : Rat) (x : AlarmTask) :
    LedgerKept w { w with agenda := w.agenda.sleepUntil due (.alarm x) } := by
  refine .of_agenda w ?_ fun h => h.sleepUntil due x
  have hsame : (Agenda.insertSleeper due (.alarm x) w.agenda.sleeping).filterMap
      (fun e => e.2.command?) = w.agenda.sleeping.filterMap fun e => e.2.command? :=
    Agenda.filterMap_insertSleeper (by exact Eq.refl _) _
  simp only [World.pending, Agenda.tasks, Agenda.sleepUntil, List.filterMap_append,
    List.filterMap_map]
  exact congrArg (_ ++ ·) hsame

theorem wakeAt (w : World) (time : Rat) :
    LedgerKept w { w with agenda := w.agenda.wakeAt time } :=
  .of_agenda w (by rw [Agenda.tasks_wakeAt, World.pending]) fun h => h.wakeAt time

theorem cancel (w : World) {p : Task → Bool} (hp : ∀ t, p t = true → t.command? = none) :
    LedgerKept w { w with agenda := w.agenda.cancel p } := by
  refine .of_agenda w ?_ fun h => h.cancel p
  have hcommand : (fun t => if (!p t) = true then Task.command? t else none) = Task.command? := by
    funext t
    cases h : p t with
    | true => simp [hp t h]
    | false => simp
  rw [Agenda.tasks_cancel, List.filterMap_filter, hcommand, World.pending]

end LedgerKept
end Detour
