import Detour.Proofs.Chain.Undo

/-!
# Failures and the addon table

An addition that fails before the tree is entered leaves the addon table as it was; one that fails
on a value put off leaves the tree entered, so that it cannot be repeated. A removal that fails has
forgotten what comes before the addon it fails at. No failure changes the chain of an addition, and
none has told anybody that it is done (`Action.failures_spare_table_iff`).
-/
namespace Detour

variable {W : Type} {a : Addon W} {s : Settings} {g : Stage W}

/-- The addon and those below it record what they are told. -/
def Addon.Reports (calls : Scene W → List String) (a : Addon W) : Prop :=
  ∀ b ∈ a.tree, ∀ event,
    Dispatch.HandlerWithin (Records calls (· = event.name)) (b.handler event)

theorem Addon.Reports.within {calls : Scene W → List String} (h : a.Reports calls) {event : Event}
    (hevent : event.name ≠ Event.done.name) {b : Addon W} (hb : b ∈ a.tree) :
    Dispatch.HandlerWithin (Records calls (· ≠ Event.done.name)) (b.handler event) :=
  (h b hb event).mono fun _ _ => Records.mono fun _ hname => hname ▸ hevent

namespace Settings

variable {R α : Type} {l : Listener R}

def Waiting (x y : Settings × R) : Prop := y.1.putOff = x.1.putOff

instance : IsPreorder (Settings × R) Waiting where
  refl _ := rfl
  trans _ _ _ hxy hyz := hyz.trans hxy

theorem waiting_notify (l : Listener R) (names : List String) :
    Within Waiting (notify l names) := by
  rintro ⟨s, r⟩
  unfold after notify
  cases hc : l.changed s.table names r <;> simp [hc, Waiting]

theorem waiting_declare (l : Listener R) (d : Declaration) : Within Waiting (declare l d) := by
  unfold declare
  split
  · exact Within.bind (within_modify fun x => rfl) fun _ => waiting_notify l [d.name]
  · exact within_throw _

theorem waiting_declareOnce (l : Listener R) (warn : String → R → R) (d : Declaration) :
    Within Waiting (declareOnce l warn d) := by
  unfold declareOnce
  split
  · exact fun x => rfl
  · refine Within.bind within_get fun x => ?_
    dsimp only
    split
    · exact waiting_declare l d
    · split
      · exact Within.bind (within_modify fun x => rfl) fun _ => waiting_declare l d
      · exact within_pure ()

end Settings

namespace Action

theorem waiting_onScene (h : Handling W Unit) : Within Settings.Waiting (onScene h) := by
  intro x
  rw [after_onScene]
  rfl

theorem waiting_declareAll (ds : List Declaration) :
    Within Settings.Waiting (declareAll ds : Action W Unit) := by
  induction ds with
  | nil => exact within_pure ()
  | cons d rest ih =>
    exact (Settings.waiting_declareOnce Stage.listener Stage.warn d).bind fun _ => ih

theorem waiting_load (tree : List (Addon W)) : Within Settings.Waiting (load tree) := by
  induction tree with
  | nil => exact within_pure ()
  | cons b rest ih =>
    exact (waiting_onScene _).bind fun _ => (waiting_declareAll b.declares).bind fun _ => ih

theorem waiting_enter (a : Addon W) : Within Settings.Waiting (enter a) := by
  rintro ⟨s, g⟩
  cases hfind : a.tree.find? fun b => g.addons.contains b.name with
  | some b =>
    rw [after_of_error (enter_of_taken hfind)]
    rfl
  | none =>
    rw [after_of_eq (enter_of_new (by simpa using hfind))]
    exact waiting_load a.tree (s, g)

/-- An addon whose tree is entered cannot be added. -/
theorem add_of_entered {t : Settings} {h : Stage W} (hentered : h.addons.contains a.name = true) :
    add a (t, h) = .error (.addon (.alreadyExists a.name)) (t, h) := by
  refine add_of_early (enter_of_taken ?_)
  rw [a.tree_eq]
  exact List.find?_cons_of_pos hentered

/-- Where nothing is put off, an addition does not fail late. -/
theorem early_of_prompt {f : Failure} {y : Settings × Stage W} (hput : s.putOff = [])
    (hadd : add a (s, g) = .error f y) : y.2.addons = g.addons := by
  have hcourse := Addition.of_any a s g
  rw [hadd] at hcourse
  cases hcourse with
  | early => rfl
  | @late _ t _ loaded _ entering settling =>
    have hwaiting : t.putOff = s.putOff := by
      have hstep := waiting_enter a (s, g)
      rwa [after_of_ok entering] at hstep
    have hsettled := Settings.processPutOff_of_waiting (s := t) (by simp [hwaiting, hput])
      Stage.listener (⟨g.addons.index a.tree, loaded⟩ : Stage W)
    rw [settling] at hsettled
    cases hsettled

/-- A removal that does not get through has forgotten something unless the addon itself is unknown.
-/
theorem without_eq_iff {gone later : List (Addon W)} {b : Addon W} {t : AddonTable W}
    (hsplit : a.tree = gone ++ b :: later) (hgone : Removable gone t)
    (hb : (t.without gone).contains b.name = false) :
    t.without gone = t ↔ t.contains a.name = false := by
  rw [a.tree_eq] at hsplit
  cases gone with
  | nil =>
    obtain ⟨rfl, -⟩ := List.cons.inj hsplit
    rw [AddonTable.without_nil] at hb ⊢
    simp [hb]
  | cons c rest =>
    obtain ⟨rfl, -⟩ := List.cons.inj hsplit
    have hknown : t.contains a.name = true := hgone.2 a (by simp)
    have hforgotten : (t.without (a :: rest)).contains a.name ≠ true := fun h =>
      (AddonTable.contains_without.mp h).2 (by simp)
    simp only [hknown, Bool.true_eq_false, iff_false]
    intro hsame
    rw [hsame] at hforgotten
    exact hforgotten hknown

/-- An addition that fails leaves the chain as it was, and nobody has been told that it is done. The
table is as before exactly if the names or the loading were at fault, as they are where no value was
put off; otherwise the tree is entered, and the addon cannot be added any more. A removal that fails
for an unknown addon has told nobody either. The table is as before exactly if it is the addon
itself that is unknown. -/
theorem failures_spare_table_iff {calls : Scene W → List String}
    (hnote : ∀ s r, calls (Scene.note s r) = calls s)
    (hchain : ∀ b ∈ g.addons.chain, b.Reports calls) (htree : a.Reports calls) :
    (∀ f s' g', add a (s, g) = .error f (s', g') →
      g'.addons.chain = g.addons.chain ∧
      Records calls (· ≠ Event.done.name) g.scene g'.scene ∧
      (g'.addons = g.addons ↔ enter a (s, g) = .error f (s', g')) ∧
      (s.putOff = [] → g'.addons = g.addons) ∧
      (g'.addons ≠ g.addons → g'.addons = g.addons.index a.tree ∧
        ∀ t h, h.addons = g'.addons →
          add a (t, h) = .error (.addon (.alreadyExists a.name)) (t, h))) ∧
    (¬ Removable a.tree g.addons → ∃ name g',
      remove a (s, g) = .error (.addon (.unknown name)) (s, g') ∧ g'.scene = g.scene ∧
      (g'.addons = g.addons ↔ g.addons.contains a.name = false)) := by
  constructor
  · intro f s' g' hadd
    have hcourse : Addition (Records calls (· ≠ Event.done.name)) a s g (add a (s, g)) :=
      .of_add (fun s r => .of_same (hnote s r))
        (fun _ b hb c hc => (hchain b hb).within (by simp [Event.name]) hc)
        fun b hb => htree.within (by simp [Event.name]) hb
    have hprompt := fun hput => early_of_prompt hput hadd
    rw [hadd] at hcourse
    cases hcourse with
    | early entering moved =>
      exact ⟨rfl, moved, iff_of_true rfl entering, hprompt, fun h => absurd rfl h⟩
    | late entering settling moved =>
      -- The addon is found now, and was not before: its name was free when it was loaded.
      have hentered : (g.addons.index a.tree).contains a.name = true :=
        AddonTable.contains_index.mpr (.inl (List.mem_map_of_mem a.self_mem_tree))
      have hother : g.addons.index a.tree ≠ g.addons := by
        intro hsame
        rw [hsame, new_of_enter entering a a.self_mem_tree] at hentered
        cases hentered
      refine ⟨rfl, moved, iff_of_false hother fun h => ?_, hprompt, fun _ => ⟨rfl, ?_⟩⟩
      · rw [entering] at h
        cases h
      · intro t h hsame
        exact add_of_entered (by rw [hsame]; exact hentered)
  · intro hstuck
    obtain ⟨gone, b, later, hsplit, hgone, hb, hremove⟩ := remove_of_stuck (s := s) hstuck
    exact ⟨b.name, _, hremove, rfl, without_eq_iff hsplit hgone hb⟩

end Action

namespace Script

def told (s : Scene (List ScriptNote)) : List String := (s.world.map (·.event.name)).reverse

theorem within_write_told (addon : String) (event : Event) (begun : Bool) (table : List Setting) :
    Within (Records told (· = event.name)) (write addon event begun table) :=
  within_modify fun s => ⟨[event.name], by simp [told], by simp⟩

theorem player_reports (id : String) (script : Event → Script) :
    (player id script []).Reports told := by
  intro b hb event
  obtain rfl : b = player id script [] := by simpa [player, Addon.tree, Addon.forest] using hb
  exact handler_within_of (within_write_told id event) (script event)

def counting : Addon (List ScriptNote) :=
  .mk "counting" "counting" [⟨"count", .int, .int 1, "", none⟩]
    (fun event => (quick event).handler "counting" event) []

theorem counting_reports : counting.Reports told := by
  intro b hb event
  obtain rfl : b = counting := by simpa [counting, Addon.tree, Addon.forest] using hb
  exact handler_within_of (within_write_told "counting" event) (quick event)

def uncountable : Settings := ⟨[], [("count", .texts ["many"])]⟩

/-- An addition that fails on a value put off leaves the tree entered, and nobody has been told that
it is done. Removing the addon while it is unknown changes nothing. -/
theorem counting_is_entered_and_left :
    (∃ g', Action.add counting (uncountable, single) =
        .error (.setting (.notInteger "many"))
          (⟨[⟨"count", .int, .int 1, "", none, none⟩], uncountable.putOff⟩, g') ∧
      g'.addons.chain = single.addons.chain ∧
      Records told (· ≠ Event.done.name) single.scene g'.scene ∧
      ¬ g'.addons = single.addons ∧ g'.addons = single.addons.index counting.tree ∧
      ∀ t h, h.addons = g'.addons →
        Action.add counting (t, h) = .error (.addon (.alreadyExists "counting")) (t, h)) ∧
    ∃ name g', Action.remove counting (uncountable, single) =
        .error (.addon (.unknown name)) (uncountable, g') ∧ g'.addons = single.addons := by
  have hchain : ∀ b ∈ single.addons.chain, b.Reports told := by
    intro b hb
    obtain rfl : b = player "slow" slow [] := by simpa [single] using hb
    exact player_reports "slow" slow
  obtain ⟨hadd, hremove⟩ := Action.failures_spare_table_iff (s := uncountable) (g := single)
    (a := counting) (fun _ _ => rfl) hchain counting_reports
  obtain ⟨hsame, hrecords, -, -, hlate⟩ := hadd _ _ _ rfl
  have hother : ¬ single.addons.index counting.tree = single.addons := fun h =>
    absurd (congrArg (fun t => t.contains "counting") h) (by decide)
  obtain ⟨hentered, hagain⟩ := hlate hother
  obtain ⟨name, g', hfails, -, hiff⟩ := hremove (by unfold Action.Removable; decide)
  exact ⟨⟨_, rfl, hsame, hrecords, hother, hentered, hagain⟩,
    name, g', hfails, hiff.mpr (by decide)⟩

/-- An addition that fails on a value put off leaves the addon findable, so that it cannot be added
once that value is no longer there. A removal that fails for an addon below leaves the others
forgotten. -/
theorem failures_change_table :
    (∃ f s' g', Action.add counting (uncountable, single) = .error f (s', g') ∧
      single.addons.get? "counting" = none ∧
      (g'.addons.get? "counting").map (·.id) = some "counting" ∧
      ∃ y, Action.add counting ({ s' with putOff := [] }, g') =
        .error (.addon (.alreadyExists "counting")) y) ∧
    ∃ y, Action.remove (player "inner" quick []) (.empty, crossing.stage) = .ok () y ∧
      ∃ z, Action.remove outer y = .error (.addon (.unknown "inner")) z ∧
        (y.2.addons.get? "outer").map (·.id) = some "outer" ∧ z.2.addons.get? "outer" = none :=
  ⟨⟨_, _, _, rfl, rfl, rfl, _, rfl⟩, _, rfl, _, rfl, rfl, rfl⟩

end Script
end Detour
