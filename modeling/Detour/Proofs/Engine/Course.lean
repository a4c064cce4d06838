import Detour.Engine.Run
import Detour.Proofs.Effect
import Mathlib.Algebra.Order.Ring.Rat

/-!
# Courses of the engine

An engine whose navigations wait for the rules together with whatever else goes on: a move starts a
navigation, ends one that waits, or is something that happens to the engine meanwhile. Moves come
in any order. A navigation is cut where `Redirect.begin` may be suspended: `Redirect.ask` comes
before, `Redirect.finish` after.
-/
namespace Detour

def Task.command? : Task → Option (Id × String)
  | .navigate tab url => some (tab, url)
  | _ => none

namespace World

/-- The redirects recorded so far as commands, the first one first. -/
def recorded (w : World) : List (Id × String) := w.redirects.reverse.map fun e => (e.tab, e.url)

def issued (w : World) : List (Id × String) := w.tabs.issued

def pending (w : World) : List (Id × String) := w.agenda.tasks.filterMap Task.command?

end World

structure Course where
  settings : Settings
  stage : Stage World
  /-- The navigations that wait for the rules. -/
  waiting : List (Navigation × Rules.Request)

inductive Move where
  /-- A navigation goes on up to where it waits for the rules. -/
  | look (n : Navigation)
  /-- One of those that wait gets the rules. -/
  | answer (index : Nat)
  | close (tab : Id)
  | sweep
  | update (values : List (String × Value))
  /-- The stores change outside, and may come to fail; nobody moves house. -/
  | supply (files : FileTree) (memory : RuleMemory)
  /-- From now on commands fail, or no longer do. -/
  | breakTabs (failure : Option Failure)
  | wait (time : Rat)
  /-- The first task that is ready runs. -/
  | task
  | running
  | done

/-- Whether a move makes earlier redirects of the tab count no more. -/
def Move.frees (tab : Id) : Move → Bool
  | close t => t.same tab
  | done => true
  | _ => false

namespace Course

def scene (c : Course) : Scene World := c.stage.scene

def world (c : Course) : World := c.scene.world

def act {α : Type} (c : Course) (a : Engine α) : Course :=
  let (settings, stage) := after a (c.settings, c.stage)
  { c with settings, stage }

def request (c : Course) (n : Navigation) : List (Navigation × Rules.Request) :=
  match outcome (Action.onScene (Redirect.ask n)) (c.settings, c.stage) with
  | .ok (some r) => [(n, r)]
  | _ => []

def look (c : Course) (n : Navigation) : Course :=
  { c.act (Action.onScene (Redirect.ask n)) with waiting := c.waiting ++ c.request n }

def answer (c : Course) (index : Nat) : Course :=
  match c.waiting[index]? with
  | none => c
  | some (n, r) =>
    { c.act (Action.onScene (Redirect.finish n r)) with waiting := c.waiting.eraseIdx index }

/-- Let time pass; it never runs backwards. -/
def passing (time : Rat) : EStateM Failure (Scene World) Unit :=
  modify fun s =>
    let clock := max s.clock time
    { s with clock, world := { s.world with agenda := s.world.agenda.wakeAt clock } }

def step (c : Course) : Move → Course
  | .look n => c.look n
  | .answer index => c.answer index
  | .close tab => c.act (Action.triggerEvent (.tabRemoved tab))
  | .sweep => c.act (Engine.onScene Chain.sweep)
  | .update values => c.act (Action.update values)
  | .supply files memory => c.act (Engine.change fun w =>
      { w with files := { files with homes := w.files.homes }, memory })
  | .breakTabs failure => c.act (Engine.change fun w => { w with tabs := { w.tabs with failure } })
  | .wait time => c.act (Engine.onScene (passing time))
  | .task => c.act Engine.step
  | .running => c.act (Action.triggerEvent .running)
  | .done => c.act (Action.triggerEvent .done)

def run (c : Course) (moves : List Move) : Course := moves.foldl step c

def trail (c : Course) : List Move → List Course
  | [] => [c]
  | m :: moves => c :: (c.step m).trail moves

/-- An engine with the addons that redirect, before anything has been recorded, given or put off. -/
def opening (settings : Settings) (lookup : List (String × Addon World)) (s : Scene World)
    (cooldown : Int) : Course where
  settings := settings
  stage :=
    { addons := ⟨lookup, Chain.core⟩
      scene := { s with world := { s.world with
        guard := ⟨cooldown, []⟩, redirects := [], agenda := .empty
        tabs := { s.world.tabs with issued := [] } } } }
  waiting := []

inductive Reachable : Course → Prop
  | opening (settings : Settings) (lookup : List (String × Addon World)) (s : Scene World)
      (cooldown : Int) : Reachable (opening settings lookup s cooldown)
  | step {c : Course} (m : Move) (h : Reachable c) : Reachable (c.step m)

variable {c : Course}

@[simp] theorem run_nil : c.run [] = c := rfl

@[simp] theorem run_cons (m : Move) (moves : List Move) :
    c.run (m :: moves) = (c.step m).run moves := rfl

theorem Reachable.run (hc : c.Reachable) (moves : List Move) : (c.run moves).Reachable := by
  induction moves generalizing c with
  | nil => exact hc
  | cons m moves ih => exact ih (hc.step m)

def sampleRule : Rule := ⟨"docs", .contains, "example", "https://docs.test/", true⟩

def samplePage : Navigation := ⟨.number 1, "http://example.org/", .number 0⟩

def sampleScene : Scene World :=
  ⟨0, .fresh .empty "" (.ofEntries [(.str "redirectRules", .list [sampleRule.state])])
    (.fresh .recording none), []⟩

def sample : Course :=
  let (settings, stage) := after (Engine.assemble Chain.core []) (.empty, ⟨.empty, sampleScene⟩)
  .opening settings stage.addons.lookup stage.scene stage.scene.world.guard.cooldown

end Course
end Detour
