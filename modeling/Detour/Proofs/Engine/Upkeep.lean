import Detour.Proofs.Alarm.Keeping
import Detour.Proofs.Engine.Ledger
import Detour.Proofs.Guard.Entries

/-!
# What the addons keep

Apart from navigations no event records a redirect, and no event gives a command or forgets one.
What an event does to the loop guard is a relation of guards: `Leaves G` says that a scene is left
with its ledger, and with a guard that has moved along `G`. Alarms, rules and the log are of no
account there, nor in any other relation that is `Lenient`; one that is `Tolerant` minds only what
kind of tasks alarms get.
-/
namespace Detour

namespace Guard

/-- The entries stay, but for those of some tabs. -/
structure Spares (freed : Id → Bool) (g g' : Guard) : Prop where
  keyed : g.Keyed → g'.Keyed
  kept : ∀ tab, freed tab = false → g'.entryOf? tab = g.entryOf? tab

variable {freed : Id → Bool} {g g' : Guard}

theorem Spares.of_entries (h : g'.entries = g.entries) : Spares freed g g' := by
  refine ⟨fun hg => ?_, fun tab _ => ?_⟩
  · exact ⟨h ▸ hg.distinct, h ▸ hg.owned⟩
  · rw [entryOf?, h, entryOf?]

theorem Spares.rfl : Spares freed g g := .of_entries (Eq.refl _)

theorem Spares.trans {g'' : Guard} (h : Spares freed g g') (h' : Spares freed g' g'') :
    Spares freed g g'' :=
  ⟨h'.keyed ∘ h.keyed, fun tab ht => (h'.kept tab ht).trans (h.kept tab ht)⟩

theorem spares_clear (g : Guard) (tab : Id) : Spares tab.same g (g.clear tab) :=
  ⟨fun hg => hg.clear tab, fun _ ho => entryOf?_clear_other g ho⟩

theorem spares_reset (g : Guard) : Spares (fun _ => true) g g.reset :=
  ⟨fun _ => .reset g, fun _ ho => Bool.noConfusion ho⟩

instance (freed : Id → Bool) : IsPreorder Guard (Spares freed) where
  refl _ := .rfl
  trans _ _ _ := .trans

instance (now : Rat) : IsPreorder Guard (Fades now) where
  refl _ := .rfl
  trans _ _ _ := .trans

end Guard

/-- Two worlds that differ in alarms, rules and records at most. -/
structure World.Aside (w w' : World) : Prop where
  agenda : w'.agenda = w.agenda
  guard : w'.guard = w.guard
  redirects : w'.redirects = w.redirects
  tabs : w'.tabs = w.tabs
  exiting : w'.exiting = w.exiting

/-- A relation of scenes that does not mind what is logged, what becomes of alarms and their tasks,
and which rules are in use. -/
class Lenient (R : Scene World → Scene World → Prop) : Prop extends IsPreorder (Scene World) R where
  note : ∀ s r, R s (Scene.note s r)
  aside : ∀ s w, s.world.Aside w → R s { s with world := w }
  spawn : ∀ s x, R s { s with world := s.world.spawn (.alarm x) }
  cancel : ∀ s alarms, R s { s with world :=
    { s.world with agenda := s.world.agenda.cancel (Chain.isStale alarms) } }

/-- One that minds a task of an alarm unless it is to be started and has a positive period. -/
class Tolerant (R : Scene World → Scene World → Prop) : Prop extends IsPreorder (Scene World) R where
  note : ∀ s r, R s (Scene.note s r)
  aside : ∀ s w, s.world.Aside w → R s { s with world := w }
  start : ∀ s x, x.period.isPositive = true → x.due = none →
    R s { s with world := s.world.spawn (.alarm x) }
  cancel : ∀ s alarms, R s { s with world :=
    { s.world with agenda := s.world.agenda.cancel (Chain.isStale alarms) } }

instance {R : Scene World → Scene World → Prop} [Lenient R] : Tolerant R where
  note := Lenient.note
  aside := Lenient.aside
  start s x _ _ := Lenient.spawn s x
  cancel := Lenient.cancel

section Tolerant

open Dispatch

variable {R : Scene World → Scene World → Prop} [Tolerant R]

theorem within_aside {f : World → World} (h : ∀ w : World, w.Aside (f w)) :
    Within R (World.change f) :=
  within_modify fun s => Tolerant.aside s (f s.world) (h s.world)

theorem within_log (rs : List LogRecord) : Within R (World.log rs) := by
  refine within_modify fun s => ?_
  induction rs generalizing s with
  | nil => exact refl_of R s
  | cons r rs ih => exact trans_of R (Tolerant.note s r) (ih (s.note r))

theorem within_setAlarms (alarms : Alarms) : Within R (Chain.setAlarms alarms) :=
  within_modify fun s => trans_of R (Tolerant.cancel s alarms)
    (Tolerant.aside _ { s.world with
      alarms, agenda := s.world.agenda.cancel (Chain.isStale alarms) } ⟨rfl, rfl, rfl, rfl, rfl⟩)

theorem within_startTasks {tasks : List AlarmTask}
    (h : ∀ x ∈ tasks, ∀ s : Scene World, R s { s with world := s.world.spawn (.alarm x) }) :
    Within R (Chain.startTasks tasks) := by
  refine within_modify fun s => ?_
  induction tasks generalizing s with
  | nil => exact refl_of R s
  | cons x rest ih =>
    exact trans_of R (h x List.mem_cons_self s) (ih (fun y hy => h y (List.mem_cons_of_mem x hy)) _)

theorem within_createAlarm (name : String) (period : Period) :
    Within R (Chain.createAlarm name period) := by
  refine within_get.bind fun s => ?_
  cases hperiod : period.isPositive with
  | false =>
    rw [Alarms.create_of_not_positive hperiod]
    exact within_throw _
  | true =>
    rw [Alarms.create_of_positive hperiod]
    refine (within_setAlarms _).bind fun _ => within_startTasks fun x hx s => ?_
    obtain ⟨-, rfl⟩ := Alarms.mem_newTask?.mp hx
    exact Tolerant.start s _ hperiod rfl

theorem within_scheduleCleanup (table : List Setting) : Within R (Chain.scheduleCleanup table) :=
  (within_createAlarm _ _).bind fun _ => within_aside fun _ => ⟨rfl, rfl, rfl, rfl, rfl⟩

theorem within_requirePositive (d : Declaration) (table : List Setting) :
    Within R (Chain.requirePositive d table) := by
  unfold Chain.requirePositive
  simp only
  split
  · exact (within_throw _).bind fun _ => within_pure _
  · exact (within_pure _).bind fun _ => within_pure _

theorem within_useFile (path : String) : Within R (Rules.useFile path) := by
  have hpath : ∀ path : Option Path,
      Within R (World.change fun w => { w with rulesPath := path }) :=
    fun _ => within_aside fun _ => ⟨rfl, rfl, rfl, rfl, rfl⟩
  unfold Rules.useFile
  split
  · exact hpath none
  · refine within_get.bind fun s => ?_
    split
    · exact hpath _
    · exact within_pure ()
    · exact within_throw _

/-- Which alarms there are matters only when all of them are started. -/
theorem alarms_within_of {event : Event} (h : event = .running → Within R Chain.runAlarms) :
    HandlerWithin R (Chain.alarms.handler event) := by
  cases event with
  | running => exact fun _ => h rfl
  | done => exact fun table => within_get.bind fun _ => within_setAlarms _
  | load | configure | tabRemoved | navigationCompleted | alarm => trivial

theorem loopGuard_within (hguard : ∀ f : Guard → Guard,
    Within R (World.change fun w => w.mapGuard f)) (event : Event) :
    HandlerWithin R (Chain.loopGuard.handler event) := by
  cases event with
  | configure names =>
    intro table
    dsimp only
    split
    · exact (within_requirePositive _ table).bind fun _ => hguard _
    · exact within_pure ()
  | tabRemoved | done => exact fun table => hguard _
  | load | running | navigationCompleted | alarm => trivial

theorem readEvents_within (hread : ∀ path, Within R (Chain.startReading path)) (event : Event) :
    HandlerWithin R (Chain.readEvents.handler event) := by
  cases event with
  | running =>
    intro table
    dsimp only
    split
    · exact within_pure ()
    · exact hread _
  | load | configure | done | tabRemoved | navigationCompleted | alarm => trivial

theorem ruleStore_within (event : Event) : HandlerWithin R (Chain.ruleStore.handler event) := by
  cases event with
  | configure names =>
    intro table
    have hfile : Within R (if names.contains Rules.fileSetting.name = true then
        Rules.useFile (World.textIn table Rules.fileSetting.name) else pure ()) := by
      split
      · exact within_useFile _
      · exact within_pure ()
    unfold Rules.configure
    simp only
    split
    · exact (within_throw _).bind fun _ => hfile
    · exact hfile
  | load | running | done | tabRemoved | navigationCompleted | alarm => trivial

/-- The cleanup matters only if it sweeps the guard, which it does when its alarm goes off. -/
theorem cleanup_within {event : Event} (h : ∀ a, event = .alarm a → Within R Chain.sweep) :
    HandlerWithin R (Chain.cleanup.handler event) := by
  cases event with
  | configure names =>
    intro table
    dsimp only
    split
    · refine (within_requirePositive _ table).bind fun _ => within_get.bind fun s => ?_
      split
      · exact within_scheduleCleanup table
      · exact within_pure ()
    · exact within_pure ()
  | running => exact within_scheduleCleanup
  | alarm a =>
    intro table
    dsimp only
    split
    · refine (h a rfl).bind fun evicted => ?_
      split
      · exact within_log _
      · exact within_pure ()
    · exact within_pure ()
  | done => exact fun table => within_aside fun _ => ⟨rfl, rfl, rfl, rfl, rfl⟩
  | load | tabRemoved | navigationCompleted => trivial

end Tolerant

theorem alarms_within {R : Scene World → Scene World → Prop} [Lenient R] (event : Event) :
    Dispatch.HandlerWithin R (Chain.alarms.handler event) := by
  refine alarms_within_of fun _ => within_get.bind fun s => Within.bind ?_ fun _ => ?_
  · exact within_aside fun _ => ⟨rfl, rfl, rfl, rfl, rfl⟩
  · exact within_startTasks fun x _ s => Lenient.spawn s x

/-- The ledger is kept, no time passes, and the guard moves along a relation. -/
structure Leaves (G : Rat → Guard → Guard → Prop) (s t : Scene World) : Prop where
  clock : t.clock = s.clock
  ledger : LedgerKept s.world t.world
  guard : G s.millis s.world.guard t.world.guard

section Leaves

variable {G : Rat → Guard → Guard → Prop} [∀ now, IsPreorder Guard (G now)]

instance : IsPreorder (Scene World) (Leaves G) where
  refl s := ⟨rfl, .rfl, refl_of (G s.millis) _⟩
  trans s t u h h' := by
    have hm : t.millis = s.millis := congrArg (· * 1000) h.clock
    have hg := h'.guard
    rw [hm] at hg
    exact ⟨h'.clock.trans h.clock, h.ledger.trans h'.ledger, trans_of (G s.millis) h.guard hg⟩

theorem leaves_note (s : Scene World) (r : LogRecord) : Leaves G s (s.note r) :=
  ⟨rfl, .rfl, refl_of (G s.millis) _⟩

instance : Lenient (Leaves G) where
  note := leaves_note
  aside s w h :=
    ⟨rfl, .of_eq h.redirects (congrArg Tabs.issued h.tabs) h.agenda,
      by rw [h.guard]; exact refl_of (G s.millis) _⟩
  spawn s x := ⟨rfl, .spawn_alarm s.world x, refl_of (G s.millis) _⟩
  cancel s alarms := by
    have hstale : ∀ t, Chain.isStale alarms t = true → t.command? = none := by
      intro t ht
      cases t with
      | navigate tab url => simp [Chain.isStale] at ht
      | alarm | openRecord | read | exit => rfl
    exact ⟨rfl, .cancel s.world hstale, refl_of (G s.millis) _⟩

theorem within_change {f : World → World} (ledger : ∀ w, LedgerKept w (f w))
    (guard : ∀ w, (f w).guard = w.guard) : Within (Leaves G) (World.change f) :=
  within_modify fun s => ⟨rfl, ledger s.world, by rw [guard]; exact refl_of (G s.millis) _⟩

end Leaves

section Events

open Dispatch

variable {G : Rat → Guard → Guard → Prop} [∀ now, IsPreorder Guard (G now)]

theorem chainWithin_core {R : Scene World → Scene World → Prop} {event : Event} :
    ChainWithin R event Chain.core ↔
      HandlerWithin R (Chain.alarms.handler event) ∧
        HandlerWithin R (Chain.loopGuard.handler event) ∧
        HandlerWithin R (Chain.ruleStore.handler event) ∧
        HandlerWithin R (Chain.redirector.handler event) ∧
        HandlerWithin R (Chain.cleanup.handler event) := by
  simp [ChainWithin, Chain.core, Chain.alarms, Chain.loopGuard, Chain.ruleStore, Chain.redirector,
    Chain.cleanup, Chain.addon, Addon.tree, Addon.forest]

theorem running_within : ChainWithin (Leaves G) .running Chain.core :=
  chainWithin_core.mpr ⟨alarms_within _, trivial, ruleStore_within _, trivial, cleanup_within nofun⟩

theorem tabRemoved_within (tab : Id) :
    ChainWithin (Leaves fun _ => Guard.Spares tab.same) (.tabRemoved tab) Chain.core :=
  chainWithin_core.mpr ⟨alarms_within _,
    fun _ => within_modify fun _ => ⟨rfl, .of_eq rfl rfl rfl, Guard.spares_clear _ tab⟩,
    ruleStore_within _, trivial, cleanup_within nofun⟩

theorem done_within :
    ChainWithin (Leaves fun _ => Guard.Spares fun _ => true) .done Chain.core :=
  chainWithin_core.mpr ⟨alarms_within _,
    fun _ => within_modify fun _ => ⟨rfl, .of_eq rfl rfl rfl, Guard.spares_reset _⟩,
    ruleStore_within _, trivial, cleanup_within nofun⟩

theorem within_sweep : Within (Leaves Guard.Fades) Chain.sweep := by
  intro s
  exact ⟨rfl, .of_eq rfl rfl rfl, Guard.fades_sweep _ _⟩

theorem alarm_within (a : Alarm) : ChainWithin (Leaves Guard.Fades) (.alarm a) Chain.core :=
  chainWithin_core.mpr ⟨alarms_within _, trivial, ruleStore_within _, trivial,
    cleanup_within fun _ _ => within_sweep⟩

theorem configure_within (freed : Id → Bool) (names : List String) :
    ChainWithin (Leaves fun _ => Guard.Spares freed) (.configure names) Chain.core := by
  refine chainWithin_core.mpr
    ⟨alarms_within _, fun table => ?_, ruleStore_within _, trivial, cleanup_within nofun⟩
  split
  · refine (within_requirePositive _ table).bind fun cooldown => ?_
    exact within_modify fun _ => ⟨rfl, .of_eq rfl rfl rfl, .of_entries rfl⟩
  · exact within_pure ()

end Events
end Detour
