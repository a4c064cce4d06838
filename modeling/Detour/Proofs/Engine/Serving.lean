import Detour.Proofs.Engine.Cleanup
import Detour.Proofs.Engine.InStep
import Detour.Proofs.Engine.Ripeness
import Detour.Proofs.Engine.Spacing

/-!
# An engine that serves

Unless settings are changed or the engine is started or stopped, a move does one of three things to
the scene (`Scene.Shift`): it leaves alarms and time as they are and records a redirect at most, it
lets time pass, or it runs the task of an alarm. A change of settings other than the cooldown and the
interval has the rules kept elsewhere at most (`Course.update_refiles`). Whatever is done, the copies
of settings that the addons keep stay right (`Course.Used.tuned`), and no alarm is early
(`Course.Used.ripe`).
-/
namespace Detour

namespace Guard

variable {g : Guard} {now : Rat} {tab : Id} {p : Id × GuardEntry}

theorem mem_isSuppressed (h : p ∈ (g.isSuppressed now tab).2.entries) : p ∈ g.entries := by
  unfold isSuppressed at h
  split at h
  · exact h
  · split at h
    · exact List.mem_of_mem_filter h
    · exact h

theorem mem_sweep (h : p ∈ (g.sweep now).2.entries) :
    p ∈ g.entries ∧ now - p.2.recordedAt < g.cooldown := by
  rw [entries_sweep, List.mem_filter] at h
  refine ⟨h.1, not_le.mp fun hle => ?_⟩
  rw [hasExpired_iff.mpr hle] at h
  cases h.2

end Guard

/-- What the addons keep of their settings is the same, and so are the alarms. -/
structure Scene.Steady (s t : Scene World) : Prop where
  alarms : t.world.alarms = s.world.alarms
  homes : t.world.files.homes = s.world.files.homes
  path : t.world.rulesPath = s.world.rulesPath
  scheduled : t.world.cleanupScheduled = s.world.cleanupScheduled
  cooldown : t.world.guard.cooldown = s.world.guard.cooldown

/-- When the alarm went off it was due, and if it is the cleanup's, the guard has been swept since. -/
structure Alarm.Swept (a : Alarm) (s : Scene World) : Prop where
  due : a.scheduled ≤ s.clock
  young : a.name = Chain.cleanupAlarm → ∀ p ∈ s.world.guard.entries,
    a.scheduled * 1000 - s.world.guard.cooldown < p.2.recordedAt

theorem Alarm.Swept.of_guard {a : Alarm} {s t : Scene World} (h : a.Swept s)
    (hclock : s.clock ≤ t.clock) (hguard : t.world.guard = s.world.guard) : a.Swept t :=
  ⟨h.due.trans hclock, by rw [hguard]; exact h.young⟩

/-- No time has passed, no task of an alarm is lost or early, and what is new in the guard has been
recorded now. -/
structure Scene.Calm (s t : Scene World) : Prop extends Scene.Steady s t where
  clock : t.clock = s.clock
  ready : ∀ x, .alarm x ∈ s.world.agenda.ready → .alarm x ∈ t.world.agenda.ready
  sleeping : ∀ e ∈ s.world.agenda.sleeping, e ∈ t.world.agenda.sleeping
  ripe : s.world.agenda.Ripe s.clock → t.world.agenda.Ripe s.clock
  entries : ∃ new, t.world.redirects = new ++ s.world.redirects ∧
    (∀ e ∈ new, e.recordedAt = s.millis) ∧
    ∀ p ∈ t.world.guard.entries, p ∈ s.world.guard.entries ∨ p.2 ∈ new
  fired : ∃ new, t.world.fired = new ++ s.world.fired ∧ ∀ a ∈ new, a.Swept t

namespace Scene

def withReady (s : Scene World) (ready : List Task) : Scene World :=
  { s with world := { s.world with agenda := { s.world.agenda with ready } } }

def wokenAt (s : Scene World) (time : Rat) : Scene World :=
  { s with clock := max s.clock time, world := { s.world with
    agenda := s.world.agenda.wakeAt (max s.clock time) } }

/-- What a move does that neither changes settings nor starts or stops the engine. -/
inductive Shift (m : Move) (s : Scene World) : Scene World → Prop
  | calm {t : Scene World} (h : Calm s t) : Shift m s t
  | wakes (time : Rat) (h : m = .wait time) : Shift m s (s.wokenAt time)
  | rings (x : AlarmTask) (rest : List Task) (log : List (Rat × LogRecord))
    (h : s.world.agenda.ready = .alarm x :: rest) :
    Shift m s { (s.withReady rest).afterAlarm x with log }

variable {s t : Scene World} {m : Move}

theorem Calm.of_entries (steady : Steady s t) (clock : t.clock = s.clock)
    (agenda : t.world.agenda = s.world.agenda) (redirects : t.world.redirects = s.world.redirects)
    (fired : t.world.fired = s.world.fired)
    (entries : ∀ p ∈ t.world.guard.entries, p ∈ s.world.guard.entries) : Calm s t where
  toSteady := steady
  clock := clock
  ready _ hx := by rwa [agenda]
  sleeping _ he := by rwa [agenda]
  ripe h := by rwa [agenda]
  entries := ⟨[], redirects, nofun, fun p hp => .inl (entries p hp)⟩
  fired := ⟨[], fired, nofun⟩

theorem Calm.of_world (clock : t.clock = s.clock) (world : t.world = s.world) : Calm s t := by
  obtain ⟨now, w, log⟩ := t
  obtain rfl : w = s.world := world
  exact .of_entries ⟨rfl, rfl, rfl, rfl, rfl⟩ clock rfl rfl rfl fun _ => id

theorem calm_suppressed (tab : Id) (s : Scene World) :
    Calm s { s with world :=
      { s.world with guard := (s.world.guard.isSuppressed s.millis tab).2 } } :=
  .of_entries ⟨rfl, rfl, rfl, rfl, Guard.cooldown_isSuppressed _ _ _⟩ rfl rfl rfl rfl
    fun _ => Guard.mem_isSuppressed

theorem calm_ask (n : Navigation) (table : List Setting) (s : Scene World) :
    Calm s (after (Redirect.ask n table) s) := by
  cases hwatched : n.isWatched table with
  | false =>
    rw [after_of_ok (ask_of_ignored hwatched)]
    exact .of_world rfl rfl
  | true =>
    cases hs : (s.world.guard.isSuppressed s.millis n.tab).1 with
    | true =>
      obtain ⟨log, hask⟩ := ask_of_suppressed hwatched hs
      rw [after_of_ok hask]
      exact .of_world rfl rfl
    | false =>
      have hcalm := calm_suppressed n.tab s
      rw [after_of_ok (ask_of_free hwatched hs)]
      exact ⟨⟨rfl, rfl, rfl, rfl, hcalm.cooldown⟩, rfl, fun _ => id, fun _ => id, id, hcalm.entries,
        [], rfl, nofun⟩

theorem calm_finish (n : Navigation) (r : Rules.Request) (table : List Setting) (s : Scene World) :
    Calm s (after (Redirect.finish n r table) s) := by
  obtain ⟨log, hfinish⟩ := finish_spec n r table s
  rw [after_of_ok hfinish]
  cases Rule.targetOf (r.usable table s.world) n.url with
  | none => exact .of_world rfl rfl
  | some url =>
    cases hs : (s.world.guard.isSuppressed s.millis n.tab).1 with
    | true => exact .of_world rfl (World.redirecting_of_suppressed hs url)
    | false =>
      dsimp only
      rw [World.redirecting_of_free hs]
      refine ⟨⟨rfl, rfl, rfl, rfl, Guard.cooldown_isSuppressed _ _ _⟩, rfl,
        fun _ hx => List.mem_append_left _ hx, fun _ => id, fun h => h.spawn nofun,
        ⟨[⟨n.tab, url, s.millis⟩], rfl, List.forall_mem_singleton.mpr rfl, fun p hp => ?_⟩,
        [], rfl, nofun⟩
      rcases Guard.mem_putEntry hp with hp | ⟨hp, -⟩
      · exact .inl (Guard.mem_isSuppressed hp)
      · exact .inr (List.mem_singleton.mpr hp)

theorem calm_close (tab : Id) (table : List Setting) (s : Scene World) :
    Calm s (after (Dispatch.triggerEvent (.tabRemoved tab) Chain.core table) s) := by
  have hclose : Dispatch.triggerEvent (.tabRemoved tab) Chain.core table s =
      .ok () { s with world := s.world.mapGuard (·.clear tab) } := by
    unfold Chain.core
    rw [Dispatch.triggerEvent_of_absent rfl rfl,
      Dispatch.triggerEvent_of_plain (a := Chain.loopGuard) rfl rfl rfl,
      Dispatch.triggerEvent_of_absent rfl rfl, Dispatch.triggerEvent_of_absent rfl rfl,
      Dispatch.triggerEvent_of_absent rfl rfl]
    rfl
  rw [after_of_ok hclose]
  exact .of_entries ⟨rfl, rfl, rfl, rfl, rfl⟩ rfl rfl rfl rfl fun _ => List.mem_of_mem_filter

theorem calm_sweep (s : Scene World) : Calm s (after Chain.sweep s) := by
  have hsweep : Chain.sweep s = .ok (s.world.guard.sweep s.millis).1 { s with world :=
    { s.world with guard := (s.world.guard.sweep s.millis).2 } } := rfl
  rw [after_of_ok hsweep]
  exact .of_entries ⟨rfl, rfl, rfl, rfl, rfl⟩ rfl rfl rfl rfl fun _ hp => (Guard.mem_sweep hp).1

theorem calm_command {tab : Id} {url : String} {rest : List Task}
    (h : s.world.agenda.ready = .navigate tab url :: rest) (clock : t.clock = s.clock)
    (world : t.world = s.world.withCommand tab url rest) : Calm s t := by
  have hready : ∀ x, .alarm x ∈ s.world.agenda.ready → .alarm x ∈ rest := by
    intro x hx
    simpa [h] using hx
  obtain ⟨now, w, log⟩ := t
  obtain rfl : w = _ := world
  have hrest : ∀ x, .alarm x ∈ rest → .alarm x ∈ s.world.agenda.ready := by
    intro x hx
    simpa [h] using hx
  exact ⟨⟨rfl, rfl, rfl, rfl, rfl⟩, clock, hready, fun _ => id,
    fun hripe => hripe.of_subset hrest (List.Subset.refl _),
    ⟨[], rfl, nofun, fun _ => .inl⟩, [], rfl, nofun⟩

theorem mem_ready_again {g : Agenda Task} {x : AlarmTask} {time now : Rat} {u : Task}
    (h : u ∈ g.ready) : u ∈ (g.again x time now).ready := by
  unfold Agenda.again
  split
  · exact h
  · dsimp only
    split
    · exact List.mem_append_left _ h
    · exact h

theorem mem_sleeping_again {g : Agenda Task} {x : AlarmTask} {time now : Rat} {e : Rat × Task}
    (h : e ∈ g.sleeping) : e ∈ (g.again x time now).sleeping := by
  unfold Agenda.again
  split
  · exact h
  · dsimp only
    split
    · exact h
    · exact Agenda.mem_insertSleeper.mpr (.inr h)

theorem cooldown_afterFire (s : Scene World) (x : AlarmTask) (due : Rat) :
    (s.afterFire x due).world.guard.cooldown = s.world.guard.cooldown := by
  unfold afterFire cleanedUp
  dsimp only
  split <;> rfl

theorem steady_afterAlarm (s : Scene World) (x : AlarmTask) : Steady s (s.afterAlarm x) := by
  unfold afterAlarm
  split
  · exact ⟨rfl, rfl, rfl, rfl, rfl⟩
  · next due _ => split <;> exact ⟨rfl, rfl, rfl, rfl, cooldown_afterFire s x due⟩

/-- An alarm that is due goes off, and if it is the cleanup's, what has expired is dropped. -/
theorem swept_afterFire (x : AlarmTask) {due : Rat} (hdue : due ≤ s.clock) :
    (x.firing due).Swept (s.afterFire x due) := by
  refine ⟨hdue, fun hname p hp => ?_⟩
  have hguard : (s.afterFire x due).world.guard = (s.world.guard.sweep s.millis).2 := if_pos hname
  rw [hguard] at hp ⊢
  have hyoung := (Guard.mem_sweep hp).2
  have hmillis : due * 1000 ≤ s.millis := mul_le_mul_of_nonneg_right hdue (by norm_num)
  have hcooldown : (s.world.guard.sweep s.millis).2.cooldown = s.world.guard.cooldown := rfl
  have hscheduled : (x.firing due).scheduled = due := rfl
  rw [hcooldown, hscheduled]
  linarith

theorem calm_afterFire (x : AlarmTask) {due : Rat} (hdue : due ≤ s.clock) :
    Calm s (s.afterFire x due) := by
  have hentries : ∀ p ∈ (s.afterFire x due).world.guard.entries, p ∈ s.world.guard.entries := by
    unfold afterFire cleanedUp
    dsimp only
    split
    · exact fun _ hp => (Guard.mem_sweep hp).1
    · exact fun _ => id
  exact ⟨⟨rfl, rfl, rfl, rfl, cooldown_afterFire s x due⟩, rfl, fun _ => id, fun _ => id, id,
    ⟨[], rfl, nofun, fun p hp => .inl (hentries p hp)⟩,
    [x.firing due], rfl, List.forall_mem_singleton.mpr (swept_afterFire x hdue)⟩

/-- The task of an alarm that is not early leaves those of others alone. -/
theorem calm_afterAlarm (x : AlarmTask) (hdue : ∀ due, x.due = some due → due ≤ s.clock) :
    Calm s (s.afterAlarm x) := by
  unfold afterAlarm
  split
  · exact ⟨⟨rfl, rfl, rfl, rfl, rfl⟩, rfl, fun _ => mem_ready_again, fun _ => mem_sleeping_again,
      fun h => h.again x s.clock, ⟨[], rfl, nofun, fun _ => .inl⟩, [], rfl, nofun⟩
  · next due hsome =>
    have hfire := calm_afterFire x (hdue due hsome)
    split
    · obtain ⟨new, hnew, hswept⟩ := hfire.fired
      exact ⟨⟨hfire.alarms, hfire.homes, hfire.path, hfire.scheduled, hfire.cooldown⟩, hfire.clock,
        fun y hy => mem_ready_again (hfire.ready y hy),
        fun e he => mem_sleeping_again (hfire.sleeping e he), fun h => h.again x due,
        hfire.entries, new, hnew, fun a ha => (hswept a ha).of_guard (le_refl _) rfl⟩
    · exact hfire

theorem Shift.steady (h : Shift m s t) : Steady s t := by
  cases h with
  | calm h => exact h.toSteady
  | wakes time h => exact ⟨rfl, rfl, rfl, rfl, rfl⟩
  | rings x rest log h =>
    have hsteady := steady_afterAlarm (s.withReady rest) x
    exact ⟨hsteady.alarms, hsteady.homes, hsteady.path, hsteady.scheduled, hsteady.cooldown⟩

theorem ripe_withReady {x : AlarmTask} {rest : List Task} (h : s.world.agenda.Ripe s.clock)
    (hready : s.world.agenda.ready = .alarm x :: rest) :
    (s.withReady rest).world.agenda.Ripe s.clock :=
  h.of_subset (fun _ hx => hready ▸ List.mem_cons_of_mem _ hx) (List.Subset.refl _)

theorem Shift.ripe (h : Shift m s t) (hripe : s.world.agenda.Ripe s.clock) :
    t.world.agenda.Ripe t.clock := by
  cases h with
  | calm h =>
    rw [h.clock]
    exact h.ripe hripe
  | wakes time h => exact hripe.wakeAt (le_max_left _ _)
  | rings x rest log hready =>
    have hcalm := calm_afterAlarm (s := s.withReady rest) x
      fun due => hripe.ready x due (hready ▸ List.mem_cons_self)
    have hclock : ((s.withReady rest).afterAlarm x).clock = s.clock := hcalm.clock
    dsimp only
    rw [hclock]
    exact hcalm.ripe (ripe_withReady (s := s) hripe hready)

end Scene

def Move.serves : Move → Bool
  | update _ | running | done => false
  | _ => true

namespace Course

variable {c : Course}

theorem act_calm {α : Type} {h : WorldHandling α} (m : Move)
    (hcalm : Scene.Calm c.scene (after (h c.settings.table) c.scene)) :
    (c.act (Action.onScene h)).settings = c.settings ∧
      Scene.Shift m c.scene (c.act (Action.onScene h)).scene := by
  simp only [act, scene, Action.after_onScene]
  exact ⟨trivial, .calm hcalm⟩

theorem answer_shift (c : Course) (index : Nat) :
    (c.answer index).settings = c.settings ∧
      Scene.Shift (.answer index) c.scene (c.answer index).scene := by
  unfold answer
  cases c.waiting[index]? with
  | none => exact ⟨rfl, .calm (.of_world rfl rfl)⟩
  | some w => exact act_calm _ (Scene.calm_finish w.1 w.2 c.settings.table c.scene)

theorem task_shift (hc : c.Sound) :
    (c.step .task).settings = c.settings ∧ Scene.Shift .task c.scene (c.step .task).scene := by
  cases hready : c.world.agenda.ready with
  | nil =>
    have hstep : after Engine.step (c.settings, c.stage) = (c.settings, c.stage) :=
      after_of_ok (Engine.step_of_idle hready)
    simp only [step, act, hstep, scene]
    exact ⟨trivial, .calm (.of_world rfl rfl)⟩
  | cons t rest =>
    have hstep : after Engine.step (c.settings, c.stage) =
        after (Engine.runTask t) (Engine.withReady (c.settings, c.stage) rest) :=
      after_of_ok (Engine.step_of_ready hready)
    rcases hc.tidy.ready t (by simp [hready]) with ⟨x, rfl⟩ | ⟨tab, url, rfl⟩
    · obtain ⟨log, hrun⟩ :=
        Engine.runAlarm_core (g := Engine.withReady (c.settings, c.stage) rest) hc.chain x
      have hafter : after (Engine.runTask (.alarm x)) _ = _ := after_of_ok hrun
      simp only [step, act, hstep, hafter]
      exact ⟨rfl, .rings x rest log hready⟩
    · obtain ⟨-, hclock, hworld⟩ := task_of_command hready
      refine ⟨?_, .calm (Scene.calm_command hready hclock hworld)⟩
      simp only [step, act, hstep, Engine.runTask, Engine.onScene, Action.after_onScene]
      rfl

theorem step_shift (hc : c.Sound) {m : Move} (hm : m.serves = true) :
    (c.step m).settings = c.settings ∧ Scene.Shift m c.scene (c.step m).scene := by
  cases m with
  | look n => exact act_calm (.look n) (Scene.calm_ask n c.settings.table c.scene)
  | answer index => exact answer_shift c index
  | close tab =>
    have hclose := Scene.calm_close tab c.settings.table c.scene
    rw [← hc.chain] at hclose
    exact act_calm (.close tab) hclose
  | sweep => exact act_calm (h := fun _ => Chain.sweep) .sweep (Scene.calm_sweep c.scene)
  | supply files memory =>
    exact ⟨rfl, .calm (.of_entries ⟨rfl, rfl, rfl, rfl, rfl⟩ rfl rfl rfl rfl fun _ => id)⟩
  | breakTabs failure =>
    exact ⟨rfl, .calm (.of_entries ⟨rfl, rfl, rfl, rfl, rfl⟩ rfl rfl rfl rfl fun _ => id)⟩
  | wait time => exact ⟨rfl, .wakes time rfl⟩
  | task => exact task_shift hc
  | update | running | done => cases hm

end Course

/-- At most, the rules are kept elsewhere. -/
def Scene.Refiled (s t : Scene World) : Prop :=
  t.clock = s.clock ∧ ∃ path, t.world = { s.world with rulesPath := path }

instance : IsPreorder (Scene World) Scene.Refiled where
  refl s := ⟨rfl, s.world.rulesPath, rfl⟩
  trans s t u h h' := by
    obtain ⟨hclock, path, hworld⟩ := h
    obtain ⟨hclock', path', hworld'⟩ := h'
    refine ⟨hclock'.trans hclock, path', ?_⟩
    rw [hworld', hworld]

/-- Only the addon of the rules minds a change of settings that are neither the cooldown nor the
interval. -/
theorem configure_refiles {names : List String}
    (hcooldown : names.contains Chain.cooldownSetting.name = false)
    (hinterval : names.contains Chain.intervalSetting.name = false) :
    Dispatch.ChainWithin Scene.Refiled (.configure names) Chain.core := by
  refine chainWithin_core.mpr
    ⟨trivial, fun table => ?_, fun table => ?_, trivial, fun table => ?_⟩
  · rw [hcooldown]
    exact within_pure ()
  · have hfile : Within Scene.Refiled (if names.contains Rules.fileSetting.name = true then
        Rules.useFile (World.textIn table Rules.fileSetting.name) else pure ()) := by
      split
      · intro s
        rcases Chain.useFile_cases (World.textIn table Rules.fileSetting.name) s with
          huse | ⟨huse, -⟩
        · rw [after_of_ok huse]
          exact ⟨rfl, _, rfl⟩
        · rw [after_of_error huse]
          exact refl_of Scene.Refiled s
      · exact within_pure ()
    unfold Rules.configure
    simp only
    split
    · exact (within_throw _).bind fun _ => hfile
    · exact hfile
  · rw [hinterval]
    exact within_pure ()

theorem Course.update_refiles {c : Course} (hc : c.Sound) {values : List (String × Value)}
    (hcooldown : "redirect_cooldown" ∉ values.map (·.1))
    (hinterval : "cleanup_interval" ∉ values.map (·.1)) :
    Scene.Refiled c.scene (c.step (.update values)).scene := by
  have hunnamed : ∀ {name : String} {names : List String}, name ∉ values.map (·.1) →
      names ⊆ values.map (·.1) → names.contains name = false := by
    intro name names hname hnames
    rw [Bool.eq_false_iff, Ne, List.contains_iff_mem]
    exact fun h => hname (hnames h)
  have hupdate : Within (Action.Moves Chain.core Scene.Refiled) (Action.update values) :=
    Action.within_update_of_names (fun s r => ⟨rfl, s.world.rulesPath, rfl⟩) fun names hnames =>
      configure_refiles (hunnamed hcooldown hnames) (hunnamed hinterval hnames)
  exact (hupdate (c.settings, c.stage)).2 hc.chain

theorem Engine.Tuned.of_steady {base s : Settings} {g g' : Stage World} (h : Tuned base s g)
    (haddons : g'.addons = g.addons) (hsteady : g.scene.Steady g'.scene) : Tuned base s g' := by
  refine ⟨by rw [haddons, h.chain], h.declared, h.sound, h.acceptable, ?_⟩
  refine ⟨fun hnames => ?_, fun hnames => ?_, fun hnames hscheduled => ?_⟩
  · rw [hsteady.cooldown]
    exact h.copied.cooldown hnames
  · rw [hsteady.homes, hsteady.path]
    exact h.copied.file hnames
  · rw [hsteady.alarms]
    rw [hsteady.scheduled] at hscheduled
    exact h.copied.alarm hnames hscheduled

def Move.Typed : Move → Prop
  | update values => (Engine.Call.update values).Typed Engine.standardSettings
  | _ => True

/-- Settings set from texts are set as if they had been given by their values, or not at all. -/
theorem Course.set_cases (c : Course) (specs : List String) :
    c.act (Action.setFromTexts specs false) = c ∨
      ∃ values, values.map (·.1) ⊆ (Settings.groupSpecs specs).map (·.1) ∧
        c.act (Action.setFromTexts specs false) = c.step (.update values) := by
  rcases Settings.setFromTexts_cases Stage.listener specs c.settings c.stage with
    ⟨f, hset⟩ | ⟨values, hread, -, hset⟩
  · have hnothing : after (Action.setFromTexts specs false) (c.settings, c.stage) =
        (c.settings, c.stage) := after_of_error hset
    exact .inl (by simp only [act, hnothing])
  · have hupdate : after (Action.setFromTexts specs false) (c.settings, c.stage) =
        after (Action.update values) (c.settings, c.stage) := after_of_eq hset
    exact .inr ⟨values, Settings.names_of_readGroups hread, by simp only [act, step, hupdate]⟩

namespace Course

variable {c : Course}

/-- An engine with the addons that redirect, whatever has been done to it since it was assembled. -/
inductive Used : Course → Prop
  | assembled (files : FileTree) (input : String) (memory : RuleMemory) (tabs : Tabs) (clock : Rat)
      (log : List (Rat × LogRecord)) {g : Settings × Stage World}
      (h : Engine.assemble Chain.core []
        (.empty, ⟨.empty, ⟨clock, .fresh files input memory tabs, log⟩⟩) = .ok () g) :
      Used ⟨g.1, g.2, []⟩
  | step {c : Course} (m : Move) (hm : m.Typed) (h : Used c) : Used (c.step m)
  | set {c : Course} (specs : List String) (h : Used c) :
      Used (c.act (Action.setFromTexts specs false))

theorem Used.sound (h : c.Used) : c.Sound := by
  induction h with
  | assembled files input memory tabs clock log h =>
    rw [Engine.assemble_core] at h
    cases h
    exact ⟨rfl, ⟨.nil, List.forall_mem_nil _⟩, ⟨List.forall_mem_nil _, List.forall_mem_nil _⟩⟩
  | step m hm h ih => exact ih.step m
  | @set c specs h ih =>
    rcases c.set_cases specs with hset | ⟨values, -, hset⟩
    · rwa [hset]
    · rw [hset]
      exact ih.step (.update values)

theorem Used.tuned (h : c.Used) :
    Engine.Tuned Engine.standardSettings c.settings c.stage := by
  induction h with
  | assembled files input memory tabs clock log h =>
    rw [Engine.assemble_core] at h
    cases h
    exact Engine.tuned_standard rfl rfl
  | @step c m hm h ih =>
    cases hserves : m.serves with
    | true =>
      obtain ⟨hsettings, hshift⟩ := step_shift h.sound hserves
      have hsteady := ih.of_steady (step_turn h.sound m).1 hshift.steady
      rwa [← hsettings] at hsteady
    | false =>
      cases m with
      | update values => exact ih.call (c := .update values) hm
      | running => exact ih.call (c := .running) trivial
      | done => exact ih.call (c := .done) trivial
      | look | answer | close | sweep | supply | breakTabs | wait | task => cases hserves
  | @set c specs h ih => exact ih.call (c := .set specs) trivial

theorem Used.ripe (h : c.Used) : c.world.agenda.Ripe c.scene.clock := by
  have hstep : ∀ {c : Course} (m : Move), c.Sound → c.world.agenda.Ripe c.scene.clock →
      (c.step m).world.agenda.Ripe (c.step m).scene.clock := by
    intro c m hc hripe
    have htells : ∀ event : Event, (∀ n, event ≠ .navigationCompleted n) →
        Scene.Ripens c.scene (c.act (Action.triggerEvent event)).scene := fun event hevent =>
      (Action.within_triggerEvent (fun _ _ => .of_agenda rfl rfl) (Scene.ripens_core event hevent)
        (c.settings, c.stage)).2 hc.chain
    cases hserves : m.serves with
    | true => exact (step_shift hc hserves).2.ripe hripe
    | false =>
      cases m with
      | update values =>
        have hupdate : Within (Action.Moves Chain.core Scene.Ripens) (Action.update values) :=
          Action.within_update (fun _ _ => .of_agenda rfl rfl)
            (fun names => Scene.ripens_core (.configure names) nofun) values
        exact ((hupdate (c.settings, c.stage)).2 hc.chain).2 hripe
      | running => exact (htells .running nofun).2 hripe
      | done => exact (htells .done nofun).2 hripe
      | look | answer | close | sweep | supply | breakTabs | wait | task => cases hserves
  induction h with
  | assembled files input memory tabs clock log h =>
    rw [Engine.assemble_core] at h
    cases h
    exact ⟨nofun, nofun⟩
  | step m hm h ih => exact hstep m h.sound ih
  | @set c specs h ih =>
    rcases c.set_cases specs with hset | ⟨values, -, hset⟩
    · rwa [hset]
    · rw [hset]
      exact hstep (.update values) h.sound ih

end Course
end Detour
