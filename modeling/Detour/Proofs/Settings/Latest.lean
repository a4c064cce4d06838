import Detour.Proofs.Settings.PutOff

/-!
# The value given last

Of several values for one setting the last one counts. Values that their settings take, and that the
listener accepts, are all set (`assignAll_of_taken`, `setAll_of_taken`), and a setting without a
value among them stays as it is (`Latest`).
-/
namespace Detour

theorem Setting.assign_value (o : Setting) (old : Option Value) (v : Value) :
    ({ o with value := old } : Setting).assign v = o.assign v := rfl

namespace Settings

variable {R : Type} {l : Listener R} {s s' t : Settings} {r r' : R}
  {values : List (String × Value)} {name : String}

def lastFor (values : List (String × Value)) (name : String) : Option Value :=
  values.reverse.lookup name

theorem lastFor_cons (e : String × Value) (rest : List (String × Value)) (name : String) :
    lastFor (e :: rest) name =
      (lastFor rest name).or (if e.1 = name then some e.2 else none) := by
  have hone : [e].lookup name = if e.1 = name then some e.2 else none := by
    obtain ⟨k, v⟩ := e
    simp [lookup_cons, eq_comm]
  rw [lastFor, List.reverse_cons, List.lookup_append, hone]
  rfl

theorem lastFor_append (xs ys : List (String × Value)) (name : String) :
    lastFor (xs ++ ys) name = (lastFor ys name).or (lastFor xs name) := by
  rw [lastFor, List.reverse_append, List.lookup_append]
  rfl

theorem mem_of_lastFor {v : Value} (h : lastFor values name = some v) : (name, v) ∈ values := by
  obtain ⟨_, _, hsplit, _⟩ := List.lookup_eq_some_iff.mp h
  exact List.mem_reverse.mp (by simp [hsplit])

/-- Every setting has the value given last for it, or the one it had. -/
def Latest (values : List (String × Value)) (s t : Settings) : Prop :=
  ∀ name, t.current? name = (s.current? name).map fun v => (lastFor values name).getD v

theorem Latest.nil (s : Settings) : Latest [] s s := fun name => by simp [lastFor]

theorem Latest.of_table (h : Latest values s t) {u : Settings} (hu : u.table = t.table) :
    Latest values s u := by
  intro name
  have hsame : u.current? name = t.current? name := by simp [current?, find?, hu]
  rw [hsame]
  exact h name

theorem Latest.trans {later : List (String × Value)} (h : Latest values s t) {u : Settings}
    (hu : Latest later t u) : Latest (values ++ later) s u := by
  intro name
  rw [hu name, h name, Option.map_map, lastFor_append]
  congr 1
  funext v
  cases lastFor later name <;> simp

/-- What one value makes of the settings, if its setting takes it. -/
theorem current?_put {o : Setting} (hfind : s.find? o.name = some o) (v : Value) (name : String) :
    (s.put { o with value := some v }).current? name =
      (s.current? name).map fun old => if o.name = name then v else old := by
  by_cases h : o.name = name
  · subst h
    have hput : (s.put { o with value := some v }).find? o.name = some { o with value := some v } :=
      find?_put_same s { o with value := some v }
    simp [current?, hput, hfind, Setting.current]
  · have hput : (s.put { o with value := some v }).find? name = s.find? name :=
      find?_put_other (o := { o with value := some v }) s h
    simp [current?, hput, h, Function.comp_def]

def Takes (s : Settings) (e : String × Value) : Prop :=
  ∃ o o', s.declared? e.1 = some o ∧ o.assign e.2 = .ok o'

theorem assign_of_takes {e : String × Value} (h : s.Takes e) (r : R) :
    ∃ table, assign e.1 e.2 (s, r) = .ok () ({ s with table }, r) ∧
      ∀ name, ({ s with table } : Settings).current? name =
        (s.current? name).map fun old => if e.1 = name then e.2 else old := by
  obtain ⟨o, o', hdeclared, hassign⟩ := h
  obtain ⟨p, hfind, rfl⟩ := Option.map_eq_some_iff.mp hdeclared
  rw [Setting.assign_value] at hassign
  obtain rfl := (Setting.eq_of_assign hassign).2
  have hname := name_of_find? hfind
  refine ⟨_, assign_of_find? hfind hassign r, fun name => ?_⟩
  rw [← hname] at hfind ⊢
  exact current?_put hfind e.2 name

theorem assignAll_of_taken (h : ∀ e ∈ values, s.Takes e) (r : R) :
    ∃ table, assignAll values (s, r) = .ok () ({ s with table }, r) ∧
      Latest values s { s with table } := by
  induction values generalizing s with
  | nil => exact ⟨s.table, rfl, .nil s⟩
  | cons e rest ih =>
    obtain ⟨table, hassign, hcurrent⟩ := assign_of_takes (h e (by simp)) r
    have hrest : ∀ e' ∈ rest, ({ s with table } : Settings).Takes e' := by
      intro e' he'
      obtain ⟨o, o', hdeclared, ho⟩ := h e' (by simp [he'])
      exact ⟨o, o', (declared?_assign hassign e'.1).trans hdeclared, ho⟩
    obtain ⟨table', hlater, hlatest⟩ := ih hrest
    refine ⟨table', (bind_of_ok hassign).trans hlater, fun name => ?_⟩
    rw [hlatest name, hcurrent name, Option.map_map, lastFor_cons]
    congr 1
    funext old
    by_cases hname : e.1 = name
    · cases hlast : lastFor rest name <;> simp [hname]
    · cases hlast : lastFor rest name <;> simp [hname]

theorem takes_of_assignAll (h : assignAll values (s, r) = .ok () (t, r')) :
    ∀ e ∈ values, s.Takes e := by
  induction values generalizing s r with
  | nil => simp
  | cons e rest ih =>
    rcases assign_cases e.1 e.2 s r with ⟨table, he⟩ | ⟨f, he⟩
    · have hrest : assignAll rest ({ s with table }, r) = .ok () (t, r') :=
        (bind_of_ok he).symm.trans h
      have hfirst : s.Takes e := by
        unfold assign at he
        cases hfind : s.find? e.1 with
        | none => simp [hfind] at he
        | some o =>
          cases ho : o.assign e.2 with
          | error f => simp [hfind, ho] at he
          | ok o' =>
            exact ⟨_, o', declared?_of_find? hfind, (o.assign_value none e.2).trans ho⟩
      refine List.forall_mem_cons.mpr ⟨hfirst, fun e' he' => ?_⟩
      obtain ⟨o, o', hdeclared, ho⟩ := ih hrest e' he'
      exact ⟨o, o', (declared?_assign he e'.1).symm.trans hdeclared, ho⟩
    · have hfail : assignAll (e :: rest) (s, r) = .error f (s, r) := bind_of_error he
      simp [hfail] at h

theorem latest_of_assignAll {table : List Setting}
    (h : assignAll values (s, r) = .ok () ({ s with table }, r)) :
    Latest values s { s with table } := by
  obtain ⟨table', hassign, hlatest⟩ := assignAll_of_taken (takes_of_assignAll h) r
  obtain rfl : table' = table := by simpa using hassign.symm.trans h
  exact hlatest

/-- Values that their settings take are all set if the listener accepts them. -/
theorem setAll_of_taken (h : ∀ e ∈ values, s.Takes e) (l : Listener R) (r : R) :
    ∃ table, Latest values s { s with table } ∧
      (∀ name, ({ s with table } : Settings).declared? name = s.declared? name) ∧
      ∀ r', (if values = [] then r' = r else l.changed table (values.map (·.1)) r = .ok () r') →
        setAll l values (s, r) = .ok () ({ s with table }, r') := by
  obtain ⟨table, hassign, hlatest⟩ := assignAll_of_taken h r
  refine ⟨table, hlatest, declared?_assignAll hassign, fun r' hr' => ?_⟩
  by_cases hempty : values = []
  · subst hempty
    obtain rfl : r' = r := by simpa using hr'
    exact hassign
  · rw [if_neg hempty] at hr'
    exact setAll_of_accepted hempty hassign hr'

theorem lookup_filter {p : String × Value → Bool} (hp : ∀ v, p (name, v) = true)
    (values : List (String × Value)) : (values.filter p).lookup name = values.lookup name := by
  induction values with
  | nil => rfl
  | cons e rest ih =>
    obtain ⟨k, v⟩ := e
    cases hk : name == k with
    | true =>
      obtain rfl := beq_iff_eq.mp hk
      simp [hp]
    | false =>
      by_cases hkept : p (k, v) = true
      · simp [hkept, List.lookup_cons, hk, ih]
      · simp [hkept, List.lookup_cons, hk, ih]

/-- Values for names without a setting change no setting. -/
theorem Latest.of_known (h : Latest (s.known values) s t) : Latest values s t := by
  intro name
  rw [h name]
  cases hcurrent : s.current? name with
  | none => rfl
  | some v =>
    have hcontains : s.contains name = true := by
      obtain ⟨o, hfind, -⟩ := Option.map_eq_some_iff.mp hcurrent
      simp [contains, hfind]
    have hsame : lastFor (s.known values) name = lastFor values name := by
      rw [lastFor, known, ← List.filter_reverse]
      exact lookup_filter (fun _ => hcontains) values.reverse
    rw [hsame]

theorem table_deferAll (entries : List (String × PutOff)) (s : Settings) :
    (s.deferAll entries).table = s.table := by
  induction entries generalizing s with
  | nil => rfl
  | cons e rest ih => exact ih (s.defer e.1 e.2)

/-- What exists is set, and the rest put off. -/
theorem updateOrDefer_eq (l : Listener R) (values : List (String × Value)) (s : Settings) (r : R) :
    updateOrDefer l values (s, r) = (setAll l (s.known values) >>= fun _ => modify fun y =>
      (y.1.deferAll ((s.unknown values).map fun e => (e.1, .value e.2)), y.2)) (s, r) := by
  have hdefer : ∀ t : Settings, (s.unknown values).foldl (fun t e => t.defer e.1 (.value e.2)) t =
      t.deferAll ((s.unknown values).map fun e => (e.1, .value e.2)) := by
    intro t
    rw [deferAll, List.foldl_map]
  have hknown := updateKnown_eq l values s r
  cases hset : setAll l (s.known values) (s, r) with
  | ok u x =>
    rw [bind_of_ok hset] at hknown ⊢
    rw [updateOrDefer, bind_of_ok hknown]
    simp only [hdefer]
  | error f x =>
    rw [bind_of_error hset] at hknown ⊢
    exact bind_of_error hknown

theorem updateOrDefer_nil (l : Listener R) (x : Settings × R) :
    updateOrDefer l [] x = .ok () x :=
  updateOrDefer_eq l [] x.1 x.2

end Settings
end Detour
