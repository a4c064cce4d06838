import Detour.Proofs.Engine.Configure
import Detour.Proofs.Engine.Replay
import Detour.Proofs.Loading
import Detour.Proofs.Text.Utf8

/-!
# A record that has been read stops the engine

The engine starts to read a record when it is told that it runs. Whatever happens from then on, the
task that reads goes on until it has ended, and then the engine has been asked to stop and the log
says how the reading has ended (`Course.replay_leads_to_shutdown`), unless it has ended in a failure
that is not reported: a fault in the encoding, a wait that is too long for the clock, or a path with
a null character in it. After one of those nothing stops the engine.
-/
namespace Detour

namespace Chain

open Dispatch

variable {table : List Setting}

theorem createAlarm_of_not_positive {period : Period} (h : period.isPositive = false)
    (name : String) (s : Scene World) :
    createAlarm name period s = .error (.periodNotPositive period.shown) s := by
  have hcreate : s.world.alarms.create name period = none := by simp [Alarms.create, h]
  rw [createAlarm, get_bind, hcreate]
  rfl

/-- An interval that is not positive is only logged when the engine is started. -/
theorem isLogged_of_scheduleCleanup {f : Failure} {s t : Scene World}
    (h : scheduleCleanup table s = .error f t) : isLogged f = true := by
  cases hpositive : (Period.whole (World.wholeIn table intervalSetting.name)).isPositive with
  | true =>
    obtain ⟨alarms, agenda, hcreate, -⟩ := createAlarm_spec hpositive cleanupAlarm s
    have hschedule := bind_of_ok (k := fun _ => World.change fun w =>
      { w with cleanupScheduled := true }) hcreate
    cases hschedule.symm.trans h
  | false =>
    have hcreate := createAlarm_of_not_positive hpositive cleanupAlarm s
    have hschedule := bind_of_error (k := fun _ => World.change fun w =>
      { w with cleanupScheduled := true }) hcreate
    cases hschedule.symm.trans h
    rfl

/-- Told that the engine runs, the addons that redirect leave the event to those behind them. -/
theorem triggerEvent_running_core (table : List Setting) (s : Scene World) :
    ∃ t, ∀ chain, triggerEvent .running (core ++ chain) table s =
      triggerEvent .running chain table t := by
  have hrun : runAlarms s = .ok () { s with world := { s.world with
      alarms := s.world.alarms.run.1
      agenda := s.world.alarms.run.2.foldl (fun a t => a.spawn (.alarm t)) s.world.agenda } } := rfl
  obtain ⟨t, hcleanup⟩ : ∃ t, guarded scheduleCleanup table { s with world := { s.world with
      alarms := s.world.alarms.run.1
      agenda := s.world.alarms.run.2.foldl (fun a t => a.spawn (.alarm t)) s.world.agenda } } =
      .ok .goesOn t := guarded_of_mild fun f u => isLogged_of_scheduleCleanup
  refine ⟨t, fun chain => ?_⟩
  have hinvoke : invoke .running cleanup.tree = scheduleCleanup :=
    funext fun table => invoke_of_plain (a := cleanup) rfl table
  rw [← hinvoke] at hcleanup
  simp only [core, List.cons_append, List.nil_append]
  rw [triggerEvent_of_plain (a := alarms) rfl rfl hrun, triggerEvent_of_absent rfl rfl,
    triggerEvent_of_absent rfl rfl, triggerEvent_of_absent rfl rfl, triggerEvent_of_goesOn hcleanup]

theorem triggerEvent_running_standard (h : World.textIn table recordSetting.name ≠ "")
    (s : Scene World) :
    ∃ t, triggerEvent .running standard table s =
      startReading (World.textIn table recordSetting.name) t := by
  obtain ⟨t, ht⟩ := triggerEvent_running_core table s
  refine ⟨t, (ht [readEvents]).trans ?_⟩
  have hplain : ∃ run, readEvents.handler .running = .plain run ∧
      run table t = startReading (World.textIn table recordSetting.name) t := by
    refine ⟨_, rfl, ?_⟩
    generalize World.textIn table recordSetting.name = path at h ⊢
    split
    · contradiction
    · rfl
  obtain ⟨run, hrun, hstart⟩ := hplain
  exact triggerEvent_of_plain hrun rfl hstart []

end Chain

def Task.reading? : Task → Option Nat
  | .openRecord serial _ | .read (.background serial _) _ => some serial
  | _ => none

namespace Course

open Engine

variable {c : Course}

theorem keeps_act {α : Type} {a : Engine α} (hchain : c.stage.addons.chain = Chain.standard)
    (ha : Within (Action.Moves Chain.standard Keeps) a) :
    (c.act a).stage.addons = c.stage.addons ∧ Keeps c.scene (c.act a).scene := by
  obtain ⟨haddons, hkeeps⟩ := ha (c.settings, c.stage)
  exact ⟨haddons, hkeeps hchain⟩

theorem keeps_act_of_keeping {α : Type} {a : Engine α}
    (hchain : c.stage.addons.chain = Chain.standard) (ha : Within Keeping a) :
    (c.act a).stage.addons = c.stage.addons ∧ Keeps c.scene (c.act a).scene :=
  keeps_act hchain fun g => (ha g).2

theorem keeps_answer (hchain : c.stage.addons.chain = Chain.standard) (index : Nat) :
    (c.answer index).stage.addons = c.stage.addons ∧ Keeps c.scene (c.answer index).scene := by
  unfold answer
  cases c.waiting[index]? with
  | none => exact ⟨rfl, refl_of Keeps c.scene⟩
  | some w =>
    exact keeps_act hchain (Action.within_onScene (Keeps.within_finish w.1 w.2))

theorem keeps_step (hchain : c.stage.addons.chain = Chain.standard) {m : Move} (hm : m ≠ .task) :
    (c.step m).stage.addons = c.stage.addons ∧ Keeps c.scene (c.step m).scene := by
  cases m with
  | look n => exact keeps_act hchain (Action.within_onScene (Keeps.within_ask n))
  | answer index => exact keeps_answer hchain index
  | close tab => exact keeps_act_of_keeping hchain (keeping_triggerEvent _)
  | sweep => exact keeps_act_of_keeping hchain (keeping_onScene Keeps.within_sweep)
  | update values =>
    exact keeps_act hchain (Action.within_update Keeps.note
      (fun _ => Keeps.chainWithin_standard _) values)
  | supply files memory =>
    exact keeps_act_of_keeping hchain (keeping_change (fun _ => .rfl) fun _ => rfl)
  | breakTabs failure =>
    exact keeps_act_of_keeping hchain (keeping_change (fun _ => .rfl) fun _ => rfl)
  | wait time =>
    have hpassing : Within Keeps (passing time) := fun s =>
      .of_agenda (Agenda.keeps_wakeAt s.world.agenda (max s.clock time)) rfl rfl
    exact keeps_act_of_keeping hchain (keeping_onScene hpassing)
  | task => contradiction
  | running => exact keeps_act_of_keeping hchain (keeping_triggerEvent _)
  | done => exact keeps_act_of_keeping hchain (keeping_triggerEvent _)

def popped (c : Course) (rest : List Task) : Settings × Stage World :=
  withReady (c.settings, c.stage) rest

theorem step_task_of_idle (hready : c.world.agenda.ready = []) : c.step .task = c := by
  have hstep : after Engine.step (c.settings, c.stage) = (c.settings, c.stage) :=
    after_of_ok (step_of_idle hready)
  simp only [step, act, hstep]

theorem step_task_of_ready {t : Task} {rest : List Task}
    (hready : c.world.agenda.ready = t :: rest) :
    c.step .task = { c with
      settings := (after (runTask t) (c.popped rest)).1
      stage := (after (runTask t) (c.popped rest)).2 } := by
  have hstep : after Engine.step (c.settings, c.stage) = after (runTask t) (c.popped rest) :=
    after_of_ok (step_of_ready hready)
  simp only [step, act, hstep]

theorem keeps_task (hchain : c.stage.addons.chain = Chain.standard) {t : Task} {rest : List Task}
    (hready : c.world.agenda.ready = t :: rest) :
    (c.step .task).stage.addons = c.stage.addons ∧
      Keeps (c.popped rest).2.scene (c.step .task).scene := by
  rw [scene, step_task_of_ready hready]
  obtain ⟨-, haddons, hkeeps⟩ := keeping_runTask t (c.popped rest)
  exact ⟨haddons, hkeeps hchain⟩

theorem chain_step (hchain : c.stage.addons.chain = Chain.standard) (m : Move) :
    (c.step m).stage.addons.chain = Chain.standard := by
  have haddons : (c.step m).stage.addons = c.stage.addons := by
    by_cases hm : m = .task
    · subst hm
      cases hready : c.world.agenda.ready with
      | nil => rw [step_task_of_idle hready]
      | cons t rest => exact (keeps_task hchain hready).1
    · exact (keeps_step hchain hm).1
  rw [haddons, hchain]

theorem stays (hchain : c.stage.addons.chain = Chain.standard) (m : Move) {t : Task}
    (ht : t ∈ c.world.agenda.tasks) (halarm : t.isAlarm = false) :
    t ∈ (c.step m).world.agenda.tasks ∨
      m = .task ∧ ∃ rest, c.world.agenda.ready = t :: rest := by
  by_cases hm : m = .task
  · subst hm
    cases hready : c.world.agenda.ready with
    | nil =>
      rw [step_task_of_idle hready]
      exact .inl ht
    | cons u rest =>
      by_cases hu : u = t
      · subst hu
        exact .inr ⟨rfl, rest, rfl⟩
      · have hrest : t ∈ (c.popped rest).2.scene.world.agenda.tasks := by
          rw [Agenda.tasks, hready] at ht
          rcases List.mem_append.mp ht with ht | ht
          · exact List.mem_append_left _ (List.mem_of_ne_of_mem (Ne.symm hu) ht)
          · exact List.mem_append_right _ ht
        exact .inl ((keeps_task hchain hready).2.agenda.tasks t hrest halarm)
  · exact .inl ((keeps_step hchain hm).2.agenda.tasks t ht halarm)

theorem closed_step (hchain : c.stage.addons.chain = Chain.standard) {record : LogRecord}
    (h : Closed record c.scene) (m : Move) : Closed record (c.step m).scene := by
  by_cases hm : m = .task
  · subst hm
    cases hready : c.world.agenda.ready with
    | nil => rwa [step_task_of_idle hready]
    | cons t rest =>
      obtain ⟨-, hkeeps⟩ := keeps_task hchain hready
      -- A stop that waits as a task is either carried out now or still waits.
      by_cases hexit : t = .exit
      · subst hexit
        obtain ⟨time, htold⟩ := h.told
        refine ⟨.inr ?_, time, hkeeps.log.subset htold⟩
        rw [scene, step_task_of_ready hready]
        rfl
      · have hpopped : Closed record (c.popped rest).2.scene := by
          refine ⟨h.stopping.imp_left fun hmem => ?_, h.told⟩
          rw [show c.scene.world.agenda.ready = t :: rest from hready] at hmem
          exact List.mem_of_ne_of_mem (Ne.symm hexit) hmem
        exact hpopped.keeps hkeeps
  · exact h.keeps (keeps_step hchain hm).2

theorem bound_step (hchain : c.stage.addons.chain = Chain.standard)
    (hstop : goesOn c.settings = false) {serial : Nat} {path : String}
    {result : Option (Except Failure Nat)} (h : Bound serial path result c.scene) (m : Move) :
    Bound serial path result (c.step m).scene := by
  intro record hrecord
  rcases h record hrecord with ⟨r, rfl, hmem⟩ | hclosed
  · rcases stays hchain m hmem rfl with hstill | ⟨rfl, rest, hready⟩
    · exact .inl ⟨r, rfl, hstill⟩
    · rw [scene, step_task_of_ready hready]
      exact bound_readOn hchain hstop serial path r record hrecord
  · exact .inr (closed_step hchain hclosed m)

theorem bound_run (hchain : c.stage.addons.chain = Chain.standard) {serial : Nat} {path : String}
    {result : Option (Except Failure Nat)} (h : Bound serial path result c.scene)
    (moves : List Move) (hstop : ∀ d ∈ c.trail moves, goesOn d.settings = false) :
    Bound serial path result (c.run moves).scene := by
  induction moves generalizing c with
  | nil => exact h
  | cons m moves ih =>
    have hnow : goesOn c.settings = false := hstop c (by simp [trail])
    exact ih (chain_step hchain m) (bound_step hchain hnow h m)
      fun d hd => hstop d (by simp [trail, hd])

def source (c : Course) (path : String) : Except Failure Reading :=
  Reading.ofFile c.world.files c.world.input path

def Opens (c : Course) (serial : Nat) (path : String) : Prop :=
  ∃ rest, c.world.agenda.ready = .openRecord serial path :: rest

/-- The file stays to be opened until it is, and then the reading is bound to what is in it. -/
theorem opened_or_waits (hchain : c.stage.addons.chain = Chain.standard) {serial : Nat}
    {path : String} (hmem : .openRecord serial path ∈ c.world.agenda.tasks) (moves : List Move)
    (hstop : ∀ d ∈ c.trail moves, goesOn d.settings = false) :
    .openRecord serial path ∈ (c.run moves).world.agenda.tasks ∨
      ∃ d ∈ c.trail moves, d.Opens serial path ∧
        Bound serial path (Reading.resultOf (d.source path)) (c.run moves).scene := by
  -- The file counts as it is when its task runs, so the course where that happens is kept.
  induction moves generalizing c with
  | nil => exact .inl hmem
  | cons m moves ih =>
    have hnow : goesOn c.settings = false := hstop c (by simp [trail])
    have hlater : ∀ d ∈ (c.step m).trail moves, goesOn d.settings = false :=
      fun d hd => hstop d (by simp [trail, hd])
    rcases stays hchain m hmem rfl with hstill | ⟨rfl, rest, hready⟩
    · refine (ih (chain_step hchain m) hstill hlater).imp_right ?_
      rintro ⟨d, hd, hbound⟩
      exact ⟨d, by simp [trail, hd], hbound⟩
    · have hopened : Bound serial path (Reading.resultOf (c.source path)) (c.step .task).scene := by
        rw [scene, step_task_of_ready hready]
        exact bound_openRecord (g := c.popped rest) hchain hnow serial path
      exact .inr ⟨c, by simp [trail], ⟨rest, hready⟩,
        bound_run (chain_step hchain .task) hopened moves hlater⟩

theorem reading_step_running (hchain : c.stage.addons.chain = Chain.standard)
    (hpath : World.textIn c.settings.table "rfile" ≠ "") :
    ∃ serial, (c.step .running).world.reading = some serial ∧
      .openRecord serial (World.textIn c.settings.table "rfile") ∈
        (c.step .running).world.agenda.tasks := by
  obtain ⟨t, ht⟩ := Chain.triggerEvent_running_standard hpath c.scene
  rw [← hchain] at ht
  have hstarted := Action.triggerEvent_of_ok (g := (c.settings, c.stage)) ht
  refine ⟨t.world.nextReading, ?_, ?_⟩
  · simp only [world, scene, step, act, after_of_ok hstarted]
  · simp only [world, scene, step, act, after_of_ok hstarted]
    exact Agenda.mem_tasks_spawn.mpr (.inl rfl)

/-- An engine that has been told that it runs, and to read a record, and is to stop after that, goes
on reading whatever happens. Once no task of the reading is left, the file has been opened, and if
the reading was to end with a result that is reported, by what the file held then, the engine has
been asked to stop and the log says so. -/
theorem replay_leads_to_shutdown (hchain : c.stage.addons.chain = Chain.standard) {path : String}
    (hpath : World.textIn c.settings.table "rfile" = path) (hne : path ≠ "") :
    ∃ serial, (c.step .running).world.reading = some serial ∧
      ∀ moves, (∀ d ∈ (c.step .running).trail moves, goesOn d.settings = false) →
        (∀ t ∈ ((c.step .running).run moves).world.agenda.tasks, t.reading? ≠ some serial) →
        ∃ d ∈ (c.step .running).trail moves, d.Opens serial path ∧
          ∀ result, Reading.resultOf (d.source path) = some result →
            ∀ record, report? path result = some record →
              Closed record ((c.step .running).run moves).scene := by
  subst hpath
  obtain ⟨serial, hreading, hmem⟩ := reading_step_running hchain hne
  refine ⟨serial, hreading, fun moves hstop hended => ?_⟩
  rcases opened_or_waits (chain_step hchain .running) hmem moves hstop with
    hwaits | ⟨d, hd, hopens, hbound⟩
  · exact absurd rfl (hended _ hwaits)
  · refine ⟨d, hd, hopens, fun result hresult record hrecord => ?_⟩
    rw [hresult] at hbound
    rcases hbound record hrecord with ⟨r, -, hread⟩ | hclosed
    · exact absurd rfl (hended _ hread)
    · exact hclosed

def replaying (files : FileTree) : Course where
  settings :=
    { table := ([Settings.configDirectory, Settings.redirectsEnabled] ++
        Chain.standard.flatMap (·.declares)).map fun d =>
          { d.setting with value := if d.name = "rfile" then some (.str "e") else none }
      putOff := [] }
  stage := ⟨⟨[], Chain.standard⟩,
    ⟨0, .fresh files "" (.ofEntries []) (.fresh .recording none), []⟩⟩
  waiting := []

def sleeper : AlarmTask := ⟨0, "redirectCleanup", .whole 300, some (0 + 300)⟩

def aboutToOpen (files : FileTree) : Course :=
  { replaying files with stage :=
    { (replaying files).stage with scene :=
      { (replaying files).scene with world :=
        { ((replaying files).step .running).world with
          agenda := ⟨[.openRecord 0 "e"], [(0 + 300, .alarm sleeper)]⟩ } } } }

theorem step_task_replaying (files : FileTree) :
    ((replaying files).step .running).step .task = aboutToOpen files := by
  have hready : ((replaying files).step .running).world.agenda.ready =
      [.alarm { sleeper with due := none }, .openRecord 0 "e"] := rfl
  have hlater : ¬ (0 + 300 : Rat) ≤ 0 := by norm_num
  have hrun : runTask (.alarm { sleeper with due := none })
      (((replaying files).step .running).popped [.openRecord 0 "e"]) =
      change (fun w => { w with
        agenda := if (0 + 300 : Rat) ≤ 0 then w.agenda.spawn (.alarm sleeper)
          else w.agenda.sleepUntil (0 + 300) (.alarm sleeper) })
      (((replaying files).step .running).popped [.openRecord 0 "e"]) := rfl
  simp only [hlater, if_false] at hrun
  rw [step_task_of_ready hready, after_of_eq hrun]
  rfl

def readSource (source : Except Failure Reading) : Engine Unit :=
  match source with
  | .ok r => readOn (.background 0 "e") r
  | .error f => endReading (.background 0 "e") (.error f)

theorem step_task_aboutToOpen {files : FileTree} {source : Except Failure Reading}
    (h : Reading.ofFile files "" "e" = source) :
    (aboutToOpen files).step .task =
      { aboutToOpen files with
        settings := (after (readSource source) ((aboutToOpen files).popped [])).1
        stage := (after (readSource source) ((aboutToOpen files).popped [])).2 } := by
  have hready : (aboutToOpen files).world.agenda.ready = .openRecord 0 "e" :: [] := rfl
  subst h
  exact step_task_of_ready hready

theorem splitOn_e : "e".splitOn "/" = ["e"] := by
  have hstart : String.Pos.Raw.atEnd "e" 0 = false := by decide +kernel
  have hother : (String.Pos.Raw.get "e" 0 == String.Pos.Raw.get "/" 0) = false := by decide +kernel
  have hend : String.Pos.Raw.atEnd "e"
      (String.Pos.Raw.next "e" (String.Pos.Raw.unoffsetBy 0 0)) = true := by decide +kernel
  rw [String.splitOn, if_neg (by decide), String.splitOnAux, String.splitOnAux]
  simp only [hstart, hother, hend, if_true]
  decide +kernel

theorem locate_e (files : FileTree) :
    files.locate "e" = files.follow Path.workingDirectory.parts ["e"] := by
  have hplain : "e".contains '\x00' = false := by simp
  rw [FileTree.locate, hplain, splitOn_e]
  rfl

theorem expandText_e (homes : Path.Homes) : Path.expandText homes "e" = "e" := by
  simp [Path.expandText]

def removalLine : String := "\x7b\"event\": \"removed\", \"tabId\": 7\x7d\n"

def waitLine : String := "\x7b\"event\": \"wait\", \"ms\": 500\x7d\n"

def faultyLine : String := "[]\n"

def sampleLines : List String := [removalLine, waitLine, faultyLine]

/-- A file with a line that is no event behind a wait. -/
def recorded : FileTree :=
  FileTree.empty.put (Path.workingDirectory.parts ++ ["e"])
    (.file (Text.Utf8.encode ("".intercalate sampleLines)))

theorem ofFile_recorded : Reading.ofFile recorded "" "e" = .ok (.ofLines sampleLines none) := by
  have hlines : recorded.readLines "e" = .ok (sampleLines, none) := by
    rw [FileTree.readLines, FileTree.read, locate_e, recorded, Text.Utf8.encode_eq_flatMap]
    decide +kernel
  rw [Reading.ofFile, if_neg (by decide), expandText_e]
  simp only [hlines]

def areSample : List (Except EventFault (Option Command)) → Bool
  | [.ok (some (.removed (.number 7))), .ok (some (.wait (.int 500))), .error .notObject] => true
  | _ => false

theorem ofLine_sampleLines :
    Command.ofLine removalLine = .ok (some (.removed (.number 7))) ∧
      Command.ofLine waitLine = .ok (some (.wait (.int 500))) ∧
      Command.ofLine faultyLine = .error .notObject := by
  have h : areSample (sampleLines.map Command.ofLine) = true := by decide +kernel
  unfold areSample at h
  split at h
  · next hlines =>
    simpa only [sampleLines, List.map_cons, List.map_nil, List.cons.injEq, and_true] using hlines
  · cases h

theorem ofMillis_500 : Pause.ofMillis (.int 500) = .seconds (1 / 2) := by decide +kernel

def badLine : ReplayFault := .line 3 .notObject

theorem result_sampleLines :
    (Reading.ofLines sampleLines none).result? = some (.error (.replay badLine)) := by
  obtain ⟨hremoval, hwait, hfaulty⟩ := ofLine_sampleLines
  simp only [Reading.result?, Reading.ofLines, sampleLines, Reading.endOf, hremoval, hwait,
    ofMillis_500, hfaulty, badLine]

def readingAt (clock : Rat) (agenda : Agenda Task) : Course :=
  { aboutToOpen recorded with stage :=
    { (aboutToOpen recorded).stage with scene :=
      { (aboutToOpen recorded).scene with
        clock, world := { (aboutToOpen recorded).world with agenda } } } }

def readingTask : Task := .read (.background 0 "e") ⟨3, [faultyLine], none, 2⟩

theorem readLines_sampleLines {g : Settings × Stage World}
    (hchain : g.2.addons.chain = Chain.standard)
    (hclear : g.2.scene.world.mapGuard (·.clear (.number 7)) = g.2.scene.world) :
    readLines none 1 0 sampleLines g =
      .ok (.waits (.seconds (1 / 2)) ⟨3, [faultyLine], none, 2⟩) g := by
  obtain ⟨hremoval, hwait, -⟩ := ofLine_sampleLines
  have htrigger := triggerEvent_standard (g := g) rfl hchain
    (Dispatch.triggerEvent_removal (.number 7) g.1.table g.2.scene)
  rw [hclear] at htrigger
  rw [sampleLines, readLines, hremoval]
  dsimp only
  rw [bind_of_ok htrigger, readLines, hwait]
  dsimp only
  rw [ofMillis_500]
  rfl

theorem step_task_recorded : (aboutToOpen recorded).step .task =
    readingAt 0 ⟨[], [(0 + 1 / 2, readingTask), (0 + 300, .alarm sleeper)]⟩ := by
  have hread := readLines_sampleLines (g := (aboutToOpen recorded).popped []) rfl rfl
  have hattempt : attempt (readLines none 1 0 sampleLines) ((aboutToOpen recorded).popped []) =
      .ok (.ok (.waits (.seconds (1 / 2)) ⟨3, [faultyLine], none, 2⟩))
        ((aboutToOpen recorded).popped []) := by simp [attempt, hread]
  have hopen : readSource (.ok (.ofLines sampleLines none)) ((aboutToOpen recorded).popped []) =
      sleepUntil (0 + 1 / 2) readingTask ((aboutToOpen recorded).popped []) := bind_of_ok hattempt
  have hsleep : sleepUntil (0 + 1 / 2) readingTask ((aboutToOpen recorded).popped []) =
      change (fun w => { w with agenda :=
        if (0 + 1 / 2 : Rat) ≤ 0 then w.agenda.spawn readingTask
        else w.agenda.sleepUntil (0 + 1 / 2) readingTask }) ((aboutToOpen recorded).popped []) := rfl
  have hlater : ¬ (0 + 1 / 2 : Rat) ≤ 0 := by norm_num
  have hsooner : (0 + 1 / 2 : Rat) < 0 + 300 := by norm_num
  have hagenda : Agenda.sleepUntil ⟨[], [(0 + 300, .alarm sleeper)]⟩ (0 + 1 / 2) readingTask =
      ⟨[], [(0 + 1 / 2, readingTask), (0 + 300, .alarm sleeper)]⟩ := by
    rw [Agenda.sleepUntil, Agenda.insertSleeper, if_pos hsooner]
  simp only [hlater, if_false] at hsleep
  rw [step_task_aboutToOpen ofFile_recorded, after_of_eq (hopen.trans hsleep), ← hagenda]
  rfl

theorem step_wait_readingAt :
    (readingAt 0 ⟨[], [(0 + 1 / 2, readingTask), (0 + 300, .alarm sleeper)]⟩).step (.wait (1 / 2)) =
      readingAt (1 / 2) ⟨[readingTask], [(0 + 300, .alarm sleeper)]⟩ := by
  have hstep (clock time : Rat) (agenda : Agenda Task) : (readingAt clock agenda).step (.wait time) =
      readingAt (max clock time) (agenda.wakeAt (max clock time)) := rfl
  have hmax : max (0 : Rat) (1 / 2) = 1 / 2 := by norm_num
  have hdue : (0 + 1 / 2 : Rat) ≤ 1 / 2 := by norm_num
  have hlater : ¬ (0 + 300 : Rat) ≤ 1 / 2 := by norm_num
  have hagenda : Agenda.wakeAt
      ⟨[], [(0 + 1 / 2, readingTask), (0 + 300, .alarm sleeper)]⟩ (1 / 2) =
      ⟨[readingTask], [(0 + 300, .alarm sleeper)]⟩ := by
    simp only [Agenda.wakeAt, List.span_eq_takeWhile_dropWhile, List.takeWhile_cons,
      List.dropWhile_cons, hdue, hlater, decide_true, decide_false, if_true, Bool.false_eq_true,
      if_false]
    rfl
  rw [hstep, hmax, hagenda]

theorem step_task_readingAt {clock : Rat} {sleeping : List (Rat × Task)} :
    (readingAt clock ⟨[readingTask], sleeping⟩).step .task =
      { aboutToOpen recorded with
        settings := (after (endBackground 0 "e" (.error (.replay badLine)))
          ((readingAt clock ⟨[readingTask], sleeping⟩).popped [])).1
        stage := (after (endBackground 0 "e" (.error (.replay badLine)))
          ((readingAt clock ⟨[readingTask], sleeping⟩).popped [])).2 } := by
  obtain ⟨-, -, hfaulty⟩ := ofLine_sampleLines
  have hready : (readingAt clock ⟨[readingTask], sleeping⟩).world.agenda.ready =
      readingTask :: [] := rfl
  have hread : attempt (readLines none 3 2 [faultyLine])
      ((readingAt clock ⟨[readingTask], sleeping⟩).popped []) =
      .ok (.ok (.ended (.error (.replay badLine))))
        ((readingAt clock ⟨[readingTask], sleeping⟩).popped []) := by
    rw [readLines, hfaulty]
    rfl
  have hrun : runTask readingTask ((readingAt clock ⟨[readingTask], sleeping⟩).popped []) =
      endBackground 0 "e" (.error (.replay badLine))
        ((readingAt clock ⟨[readingTask], sleeping⟩).popped []) := bind_of_ok hread
  rw [step_task_of_ready hready, after_of_eq hrun]
  rfl

/-- An engine that comes upon a line that is no event behind a wait has said so when it stops. -/
theorem faulty_record_leads_to_shutdown :
    (∀ d ∈ ((replaying recorded).step .running).trail [.task, .task, .wait (1 / 2), .task],
      goesOn d.settings = false) ∧
    Closed (.plain Level.error "Failed to read e: Line 3: not a JSON object")
      ((replaying recorded).run [.running, .task, .task, .wait (1 / 2), .task]).scene := by
  have hstop : ∀ d ∈ ((replaying recorded).step .running).trail [.task, .task, .wait (1 / 2), .task],
      goesOn d.settings = false := by
    simp only [trail, step_task_replaying, step_task_recorded, step_wait_readingAt,
      step_task_readingAt, List.forall_mem_cons]
    exact ⟨rfl, rfl, rfl, rfl, rfl, List.forall_mem_nil _⟩
  have hended : ∀ t ∈ (((replaying recorded).step .running).run
      [.task, .task, .wait (1 / 2), .task]).world.agenda.tasks, t.reading? ≠ some 0 := by
    have htasks : (((replaying recorded).step .running).run
        [.task, .task, .wait (1 / 2), .task]).world.agenda.tasks = [.exit, .alarm sleeper] := by
      simp only [run_cons, run_nil, step_task_replaying, step_task_recorded, step_wait_readingAt,
        step_task_readingAt]
      rfl
    rw [htasks]
    simp [Task.reading?]
  have hsource : ∀ d ∈ ((replaying recorded).step .running).trail
      [.task, .task, .wait (1 / 2), .task], d.source "e" = .ok (.ofLines sampleLines none) := by
    simp only [trail, step_task_replaying, step_task_recorded, step_wait_readingAt,
      step_task_readingAt, List.forall_mem_cons]
    have hfile := ofFile_recorded
    exact ⟨hfile, hfile, hfile, hfile, hfile, List.forall_mem_nil _⟩
  refine ⟨hstop, ?_⟩
  have hpath : World.textIn (replaying recorded).settings.table "rfile" = "e" := rfl
  obtain ⟨serial, hreading, hrun⟩ := replay_leads_to_shutdown rfl hpath (by decide)
  obtain rfl : 0 = serial := Option.some.inj hreading
  obtain ⟨d, hd, -, hclosed⟩ := hrun [.task, .task, .wait (1 / 2), .task] hstop hended
  have hresult : Reading.resultOf (d.source "e") = some (.error (.replay badLine)) := by
    rw [hsource d hd]
    exact result_sampleLines
  exact hclosed _ hresult _ rfl

/-- A file with a byte that no character begins with. -/
def spoilt : FileTree := FileTree.empty.put (Path.workingDirectory.parts ++ ["e"]) (.file [0xff])

theorem ofFile_spoilt :
    Reading.ofFile spoilt "" "e" = .ok (.ofLines [] (some ⟨0, 0xff, 1, .start⟩)) := by
  have hread : spoilt.read "e" = .ok [0xff] := by
    rw [FileTree.read, locate_e]
    decide +kernel
  have hlines : spoilt.readLines "e" = .ok ([], some ⟨0, 0xff, 1, .start⟩) := by
    rw [FileTree.readLines, hread]
    decide +kernel
  rw [Reading.ofFile, if_neg (by decide), expandText_e]
  simp only [hlines]

/-- After a file that is spoilt the engine goes on for ever, and nothing is said of it. -/
theorem spoilt_record_does_not_stop :
    ((replaying spoilt).step .running).world.reading = some 0 ∧
    (∀ d ∈ ((replaying spoilt).step .running).trail [.task, .task], goesOn d.settings = false) ∧
    ∃ d, (replaying spoilt).run [.running, .task, .task] = d ∧
      d.world.agenda.tasks = [.alarm sleeper] ∧ d.world.exiting = false ∧ d.scene.log = [] := by
  have hlost : report? "e" (.error (.encoding ⟨0, 0xff, 1, .start⟩)) = none := rfl
  obtain ⟨reading, hend⟩ :=
    endBackground_of_unreported (g := (aboutToOpen spoilt).popped []) hlost 0
  have hlast := step_task_aboutToOpen ofFile_spoilt
  rw [show after (readSource (.ok (.ofLines [] (some ⟨0, 0xff, 1, .start⟩))))
    ((aboutToOpen spoilt).popped []) = _ from hend] at hlast
  refine ⟨rfl, ?_, _, rfl, ?_⟩
  · simp only [trail, step_task_replaying, hlast, List.forall_mem_cons]
    exact ⟨rfl, rfl, rfl, List.forall_mem_nil _⟩
  · simp only [run_cons, run_nil, step_task_replaying, hlast]
    exact ⟨rfl, rfl, rfl⟩

end Course
end Detour
