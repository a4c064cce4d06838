import Detour.Proofs.Engine.OneTab

/-!
# Tabs do not interfere

Take a run of the engine, and from it all that other tabs do: their navigations, the commands that
come of these, and their removals. What is left is a run of the engine again, and after each of its
moves the tab has the same entry in the guard, the same redirects and the same commands
(`Course.tabs_do_not_interfere`). What carries this is that one run stays reduced to the tab with
regard to the other (`Course.Reduces`): moves that are left lead both runs on
(`Course.Reduces.step`), and those of other tabs do not show (`Course.Reduces.step_other`).
-/
namespace Detour

variable {tab other : Id}

section Places

variable {α : Type} {p : α → Bool} {l : List α} {k : ℕ} {x : α}

theorem getElem?_filter (h : l[k]? = some x) (hx : p x = true) :
    (l.filter p)[(l.take k).countP p]? = some x := by
  induction l generalizing k with
  | nil => cases h
  | cons y rest ih =>
    cases k with
    | zero =>
      cases h
      simp [hx]
    | succ k => cases hy : p y <;> simpa [hy] using ih h

theorem getElem?_filter_of_none (h : l[k]? = none) :
    (l.filter p)[(l.take k).countP p]? = none := by
  rw [List.take_of_length_le (List.getElem?_eq_none_iff.mp h), List.countP_eq_length_filter]
  exact List.getElem?_eq_none_iff.mpr (le_refl _)

theorem filter_eraseIdx (h : l[k]? = some x) (hx : p x = true) :
    (l.eraseIdx k).filter p = (l.filter p).eraseIdx ((l.take k).countP p) := by
  induction l generalizing k with
  | nil => cases h
  | cons y rest ih =>
    cases k with
    | zero =>
      cases h
      simp [hx]
    | succ k => cases hy : p y <;> simpa [hy] using ih h

theorem filter_eraseIdx_of_false (h : l[k]? = some x) (hx : p x = false) :
    (l.eraseIdx k).filter p = l.filter p := by
  induction l generalizing k with
  | nil => cases h
  | cons y rest ih =>
    cases k with
    | zero =>
      cases h
      simp [hx]
    | succ k => cases hy : p y <;> simpa [hy] using ih h

end Places

namespace Course

/-- What a tab has of the engine: its entry in the guard, its redirects, the latest first, and the
commands that were given to it. -/
structure Share where
  entry : Option GuardEntry
  redirects : List GuardEntry
  commands : List (Id × String)

def share (c : Course) (tab : Id) : Share :=
  ⟨c.world.guard.entryOf? tab, c.world.redirects.filter (·.tab.same tab),
    c.world.issued.filter (·.1.same tab)⟩

/-- Whether a move is not made by another tab: neither a part of one of its navigations nor a command
that came of one, nor its removal. -/
def concerns (c : Course) (tab : Id) : Move → Bool
  | .look n => n.tab.same tab
  | .answer k => (c.waiting[k]?).all (·.1.tab.same tab)
  | .close other => other.same tab
  | .task => (c.world.agenda.ready.head?).all fun t => !t.isElsewhere tab
  | _ => true

/-- The move where the navigations of other tabs do not wait. -/
def renumbered (c : Course) (tab : Id) : Move → Move
  | .answer k => .answer ((c.waiting.take k).countP (·.1.tab.same tab))
  | m => m

/-- The moves without those of other tabs, each with the course that it leads to among the others. -/
def kept (c : Course) (tab : Id) : List Move → List (Move × Course)
  | [] => []
  | m :: moves =>
    if c.concerns tab m then (c.renumbered tab m, c.step m) :: (c.step m).kept tab moves
    else (c.step m).kept tab moves

/-- One course is the other without what concerns other tabs only. -/
structure Reduces (tab : Id) (c d : Course) : Prop where
  shared : Engine.Sharing tab (c.settings, c.stage) (d.settings, d.stage)
  waiting : d.waiting = c.waiting.filter (·.1.tab.same tab)

variable {c d : Course} {m : Move}

theorem Reduces.share_eq (h : c.Reduces tab d) : d.share tab = c.share tab := by
  obtain ⟨lookups, reads, hworld⟩ := h.shared.2.scene.world
  have hd : d.world = (c.world.about tab).counting lookups reads := hworld
  have hentry : d.world.guard.entryOf? tab = c.world.guard.entryOf? tab := by
    rw [hd]
    exact Guard.entryOf?_about (Id.same_refl tab) c.world.guard
  rw [share, hentry, hd]
  simp [share, World.about, World.counting, World.issued, List.filter_filter]

theorem Reduces.act {α : Type} {a : Engine α} (h : c.Reduces tab d)
    (ha : Respects (Engine.Sharing tab) a) : (c.act a).Reduces tab (d.act a) :=
  ⟨ha.after h.shared, h.waiting⟩

theorem Reduces.unseen (h : c.Reduces tab d) {s : Scene World} (hs : c.scene.Unseen tab s) :
    Reduces tab { c with stage := { c.stage with scene := s } } d := by
  obtain ⟨hsettings, hchain, haddons, hscene⟩ := h.shared
  exact ⟨⟨hsettings, hchain, haddons, hs _ hscene⟩, h.waiting⟩

theorem act_onScene {α : Type} (h : Handling World α) (c : Course) :
    c.act (Action.onScene h) =
      { c with stage := { c.stage with scene := after (h c.settings.table) c.scene } } := by
  rw [act, Action.after_onScene]
  rfl

theorem tab_of_mem_request {n : Navigation} {x : Navigation × Rules.Request}
    (h : x ∈ c.request n) : x.1 = n := by
  unfold request at h
  split at h
  · rw [List.mem_singleton.mp h]
  · cases h

theorem Reduces.look (h : c.Reduces tab d) {n : Navigation} (hn : n.tab.same tab = true) :
    (c.look n).Reduces tab (d.look n) := by
  have hask : Respects (Engine.Sharing tab) (Action.onScene (Redirect.ask n)) :=
    Action.respects_onScene (respects_ask hn)
  have hrequest : d.request n = c.request n := by
    unfold request
    rw [hask.outcome h.shared]
  have hfilter : (c.request n).filter (·.1.tab.same tab) = c.request n :=
    List.filter_eq_self.mpr fun x hx => by rw [tab_of_mem_request hx, hn]
  refine ⟨(h.act hask).shared, ?_⟩
  change d.waiting ++ d.request n = (c.waiting ++ c.request n).filter (·.1.tab.same tab)
  rw [List.filter_append, hfilter, hrequest, h.waiting]

theorem Reduces.look_other (h : c.Reduces tab d) {n : Navigation} (hn : n.tab.same tab = false) :
    (c.look n).Reduces tab d := by
  have hscene := h.unseen (ask_unseen hn c.settings.table c.scene)
  have hfilter : (c.request n).filter (·.1.tab.same tab) = [] :=
    List.filter_eq_nil_iff.mpr fun x hx => by simp [tab_of_mem_request hx, hn]
  rw [Course.look, act_onScene]
  refine ⟨hscene.shared, ?_⟩
  rw [List.filter_append, hfilter, List.append_nil, h.waiting]

theorem Reduces.answer (h : c.Reduces tab d) {k : Nat}
    (hk : (c.waiting[k]?).all (·.1.tab.same tab) = true) :
    (c.answer k).Reduces tab (d.answer ((c.waiting.take k).countP (·.1.tab.same tab))) := by
  unfold Course.answer
  rw [h.waiting]
  cases hx : c.waiting[k]? with
  | none =>
    rw [getElem?_filter_of_none hx]
    exact h
  | some x =>
    obtain ⟨n, r⟩ := x
    have hn : n.tab.same tab = true := by simpa [hx] using hk
    rw [getElem?_filter hx hn]
    have hfinish := h.act (Action.respects_onScene (respects_finish hn r))
    exact ⟨hfinish.shared, (filter_eraseIdx hx hn).symm⟩

theorem Reduces.answer_other (h : c.Reduces tab d) {k : Nat}
    (hk : (c.waiting[k]?).all (·.1.tab.same tab) = false) : (c.answer k).Reduces tab d := by
  unfold Course.answer
  cases hx : c.waiting[k]? with
  | none => exact h
  | some x =>
    obtain ⟨n, r⟩ := x
    have hn : n.tab.same tab = false := by simpa [hx] using hk
    have hscene := h.unseen (finish_unseen hn r c.settings.table c.scene)
    dsimp only
    rw [act_onScene]
    exact ⟨hscene.shared, h.waiting.trans (filter_eraseIdx_of_false hx hn).symm⟩

theorem Reduces.close_other (h : c.Reduces tab d) (hother : other.same tab = false) :
    (c.step (.close other)).Reduces tab d := by
  have hremoved := Dispatch.within_triggerEvent Scene.Unseen.note (tabRemoved_unseen hother)
    c.settings.table c.scene
  have hact : c.step (.close other) = c.act (Action.onScene
      (Dispatch.triggerEvent (.tabRemoved other) c.stage.addons.chain)) := rfl
  rw [hact, act_onScene, h.shared.2.chain]
  exact h.unseen hremoved

theorem Reduces.sweep (h : c.Reduces tab d) : (c.step .sweep).Reduces tab (d.step .sweep) := by
  obtain ⟨⟨hsettings, hchain, haddons, hscene⟩, hwaiting⟩ := h
  exact ⟨⟨hsettings, hchain, haddons, hscene.sweep⟩, hwaiting⟩

theorem Reduces.wait (h : c.Reduces tab d) (hc : c.Sound) (time : Rat) :
    (c.step (.wait time)).Reduces tab (d.step (.wait time)) := by
  obtain ⟨⟨hsettings, hchain, haddons, hscene⟩, hwaiting⟩ := h
  have hclock : d.scene.clock = c.scene.clock := hscene.clock
  obtain ⟨lookups, reads, hworld⟩ : ∃ lookups reads,
      d.scene.world = (c.scene.world.about tab).counting lookups reads := hscene.world
  have hwake : (c.scene.world.agenda.wakeAt (max c.scene.clock time)).about tab =
      (c.scene.world.agenda.about tab).wakeAt (max c.scene.clock time) :=
    Agenda.about_wakeAt hc.tidy _
  refine ⟨⟨hsettings, hchain, haddons, congrArg (max · time) hclock, lookups, reads, ?_⟩, hwaiting⟩
  change { d.scene.world with agenda := d.scene.world.agenda.wakeAt (max d.scene.clock time) } =
    (({ c.scene.world with agenda := c.scene.world.agenda.wakeAt (max c.scene.clock time) } :
      World).about tab).counting lookups reads
  rw [hclock, hworld]
  simp only [World.about, World.counting, hwake]

theorem withReady_sharing {g g' : Settings × Stage World} (h : Engine.Sharing tab g g')
    (rest : List Task) :
    Engine.Sharing tab (Engine.withReady g rest)
      (Engine.withReady g' (rest.filter fun t => !t.isElsewhere tab)) := by
  obtain ⟨hsettings, hchain, haddons, hclock, lookups, reads, hworld⟩ := h
  refine ⟨hsettings, hchain, haddons, hclock, lookups, reads, ?_⟩
  simp only [Engine.withReady, hworld]
  rfl

theorem respects_runTask {t : Task} (ht : t.isElsewhere tab = false)
    (hkind : (∃ x, t = .alarm x) ∨ ∃ other url, t = .navigate other url) :
    Respects (Engine.Sharing tab) (Engine.runTask t) := by
  rcases hkind with ⟨x, rfl⟩ | ⟨other, url, rfl⟩
  · exact Engine.respects_runAlarm x
  · exact Engine.respects_onScene (respects_navigate (by simpa [Task.isElsewhere] using ht) url)

theorem Reduces.task (h : c.Reduces tab d) (hc : c.Sound)
    (hready : (c.world.agenda.ready.head?).all (fun t => !t.isElsewhere tab) = true) :
    (c.step .task).Reduces tab (d.step .task) := by
  have hd : d.world.agenda.ready = c.world.agenda.ready.filter fun t => !t.isElsewhere tab := by
    obtain ⟨lookups, reads, hworld⟩ := h.shared.2.scene.world
    exact congrArg (·.agenda.ready) hworld
  refine ⟨?_, h.waiting⟩
  change Engine.Sharing tab (after Engine.step (c.settings, c.stage))
    (after Engine.step (d.settings, d.stage))
  cases hc' : c.world.agenda.ready with
  | nil =>
    rw [hc', List.filter_nil] at hd
    rw [after_of_ok (Engine.step_of_idle hc'), after_of_ok (Engine.step_of_idle hd)]
    exact h.shared
  | cons t rest =>
    have ht : t.isElsewhere tab = false := by simpa [hc'] using hready
    have hrun := respects_runTask ht (hc.tidy.ready t (by simp [hc']))
    rw [hc', List.filter_cons_of_pos (by simp [ht])] at hd
    rw [after_of_ok (Engine.step_of_ready hc'), after_of_ok (Engine.step_of_ready hd)]
    exact hrun.after (withReady_sharing h.shared rest)

theorem Reduces.task_other (h : c.Reduces tab d)
    (hready : (c.world.agenda.ready.head?).all (fun t => !t.isElsewhere tab) = false) :
    (c.step .task).Reduces tab d := by
  cases hc : c.world.agenda.ready with
  | nil => simp [hc] at hready
  | cons t rest =>
    have ht : t.isElsewhere tab = true := by simpa [hc] using hready
    cases t with
    | navigate other url =>
      have hpopped : Reduces tab
          { c with stage := (Engine.withReady (c.settings, c.stage) rest).2 } d := by
        refine h.unseen (.of_about rfl ⟨c.world.lookups, c.world.memory.reads, ?_⟩)
        have hagenda : ({ c.world.agenda with ready := rest } : Agenda Task).about tab =
            c.world.agenda.about tab := by
          simp [Agenda.about, hc, ht]
        exact congrArg (fun agenda => { c.world.about tab with agenda }) hagenda
      have hstep : c.step .task =
          Course.act { c with stage := (Engine.withReady (c.settings, c.stage) rest).2 }
            (Action.onScene fun _ => Redirect.navigate other url) := by
        have hrun := after_of_ok (Engine.step_of_ready (g := (c.settings, c.stage)) hc)
        simp only [Course.step, Course.act, hrun]
        rfl
      rw [hstep, act_onScene]
      exact hpopped.unseen (navigate_unseen (by simpa [Task.isElsewhere] using ht) url _)
    | alarm | openRecord | read | exit => cases ht

/-- A move that no other tab makes leads both courses on. -/
theorem Reduces.step (h : c.Reduces tab d) (hc : c.Sound) (hm : c.concerns tab m = true) :
    (c.step m).Reduces tab (d.step (c.renumbered tab m)) := by
  cases m with
  | look n => exact h.look hm
  | answer k => exact h.answer hm
  | close other => exact h.act (Engine.respects_triggerEvent nofun)
  | sweep => exact h.sweep
  | update values =>
    exact h.act (Action.respects_update (fun _ _ r hst => hst.note r)
      (fun _ => respects_core nofun) values)
  | supply files memory =>
    have hsupply : Respects (Scene.Reduces tab) (World.change fun w =>
        { w with files := { files with homes := w.files.homes }, memory }) :=
      respects_change fun _ lookups _ => ⟨lookups, memory.reads, rfl⟩
    exact h.act (Engine.respects_onScene hsupply)
  | breakTabs failure =>
    have hbreak : Respects (Scene.Reduces tab)
        (World.change fun w => { w with tabs := { w.tabs with failure } }) :=
      respects_change fun _ lookups reads => ⟨lookups, reads, rfl⟩
    exact h.act (Engine.respects_onScene hbreak)
  | wait time => exact h.wait hc time
  | task => exact h.task hc hm
  | running => exact h.act (Engine.respects_triggerEvent nofun)
  | done => exact h.act (Engine.respects_triggerEvent nofun)

theorem Reduces.step_other (h : c.Reduces tab d) (hm : c.concerns tab m = false) :
    (c.step m).Reduces tab d := by
  cases m with
  | look n => exact h.look_other hm
  | answer k => exact h.answer_other hm
  | close other => exact h.close_other hm
  | task => exact h.task_other hm
  | sweep | update | supply | breakTabs | wait | running | done => cases hm

theorem trail_eq_cons (c : Course) (moves : List Move) :
    c.trail moves = c :: (c.trail moves).tail := by
  cases moves <;> rfl

theorem Reduces.run (h : c.Reduces tab d) (hc : c.Sound) (moves : List Move) :
    (c.run moves).Reduces tab (d.run ((c.kept tab moves).map (·.1))) := by
  induction moves generalizing c d with
  | nil => exact h
  | cons m moves ih =>
    rw [run_cons, kept]
    cases hm : c.concerns tab m with
    | true => exact ih (h.step hc hm) (hc.step m)
    | false => exact ih (h.step_other hm) (hc.step m)

/-- After each move that is left, the tab has the same in both runs. -/
theorem Reduces.trail (h : c.Reduces tab d) (hc : c.Sound) (moves : List Move) :
    (d.trail ((c.kept tab moves).map (·.1))).tail.map (·.share tab) =
      (c.kept tab moves).map (·.2.share tab) := by
  induction moves generalizing c d with
  | nil => rfl
  | cons m moves ih =>
    rw [kept]
    cases hm : c.concerns tab m with
    | true =>
      have hstep := h.step hc hm
      rw [if_pos rfl, List.map_cons, List.map_cons, Course.trail, List.tail_cons, trail_eq_cons,
        List.map_cons, hstep.share_eq, ih hstep (hc.step m)]
    | false => exact ih (h.step_other hm) (hc.step m)

theorem opening_reduces (tab : Id) (settings : Settings) (lookup : List (String × Addon World))
    (s : Scene World) (cooldown : Int) :
    (opening settings lookup s cooldown).Reduces tab (opening settings lookup s cooldown) :=
  ⟨⟨rfl, rfl, rfl, rfl, s.world.lookups, s.world.memory.reads, rfl⟩, rfl⟩

/-- Tabs do not interfere. If all moves of other tabs are taken out of a run, each move that is left
leads to the same entry in the guard, the same redirects and the same commands of the tab as before,
and so does the run as a whole. -/
theorem tabs_do_not_interfere (tab : Id) (settings : Settings)
    (lookup : List (String × Addon World)) (s : Scene World) (cooldown : Int)
    (moves : List Move) :
    let c := opening settings lookup s cooldown
    let left := c.kept tab moves
    (c.trail (left.map (·.1))).tail.map (·.share tab) = left.map (·.2.share tab) ∧
      (c.run (left.map (·.1))).share tab = (c.run moves).share tab := by
  intro c left
  have hreduces := opening_reduces tab settings lookup s cooldown
  have hsound : c.Sound := (Reachable.opening settings lookup s cooldown).sound
  exact ⟨hreduces.trail hsound moves, (hreduces.run hsound moves).share_eq⟩

/-- Of two tabs that are redirected together, the first one keeps three moves. -/
example :
    let other := { samplePage with tab := .number 2 }
    let moves := [.look samplePage, .look other, .answer 1, .answer 0, .task, .task]
    (sample.kept (.number 1) moves).map (fun e => (e.2.share (.number 1)).commands) =
      [[], [], [(.number 1, "https://docs.test/")]] := by
  decide +kernel

end Course
end Detour
