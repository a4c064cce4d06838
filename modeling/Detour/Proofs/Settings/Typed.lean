import Detour.Config
import Detour.Proofs.Pattern.Literal
import Detour.Proofs.Settings.Latest

/-!
# Settings hold values of their types

A value is assigned only after it has been checked, and a table that is put back was in use before.
So in every table that settings come to, and in every table that a listener is told of, each setting
has a value of its type, and one that has been assigned is one of its choices
(`Settings.values_are_sound`). This holds however settings are used (`Settings.Use`): whatever is
declared, declared again, set, put off or taken back, and wherever that fails.
-/
namespace Detour

/-- The values of a plain type. A flag is no whole number. -/
inductive PlainType.Has : PlainType → Value → Prop
  | bool (b : Bool) : Has .bool (.bool b)
  | int (n : Int) : Has .int (.int n)
  | str (s : String) : Has .str (.str s)
  | float (x : Binary64) : Has .float (.float x)
  | list (xs : List Value) : Has .list (.list xs)
  | none : Has .none .null

/-- The values of a type; those of a union are the values of its members. -/
inductive TypeSpec.Has : TypeSpec → Value → Prop
  | any (v : Value) : Has .any v
  | plain {t : PlainType} {v : Value} (h : t.Has v) : Has (.plain t) v
  | member {form : UnionForm} {ts : List PlainType} {t : PlainType} {v : Value} (ht : t ∈ ts)
      (h : t.Has v) : Has (.union form ts) v

theorem PlainType.has_of_holds {t : PlainType} {v : Value} (h : t.holds v = true) : t.Has v := by
  unfold holds at h
  split at h
  case h_7 => cases h
  all_goals constructor

theorem TypeSpec.has_of_holds {t : TypeSpec} {v : Value} (h : t.holds v = true) : t.Has v := by
  cases t with
  | any => exact .any v
  | plain t => exact .plain (PlainType.has_of_holds h)
  | union form ts =>
    obtain ⟨t, ht, hv⟩ := List.any_eq_true.mp h
    exact .member ht (PlainType.has_of_holds hv)

/-- The values that choices offer: the texts that are listed, or the parts of one text. -/
inductive Choices.Offers : Choices → Value → Prop
  | listed {ts : List String} {t : String} (h : t ∈ ts) : Offers (.texts ts) (.str t)
  | part {whole t : String} (h : t.toList <:+: whole.toList) : Offers (.partsOf whole) (.str t)

theorem Choices.offers_of_allows {c : Choices} {v : Value} (h : c.allows v = .ok true) :
    c.Offers v := by
  cases v with
  | str t =>
    have ht : c.allowsText t = true := Except.ok.inj h
    cases c with
    | texts ts => exact .listed (List.contains_iff_mem.mp ht)
    | partsOf whole => exact .part (Text.isInfix_iff.mp ht)
  | _ => cases c <;> cases h

namespace Setting

variable {o o' : Setting} {v : Value}

/-- The default and the current value have the type of the setting, and what has been assigned to it
is one of its choices. -/
structure Sound (o : Setting) : Prop where
  default : o.type.Has o.default
  current : o.type.Has o.current
  choice : ∀ {v c}, o.value = some v → o.choices = some c → c.Offers v

theorem sound_of_declare {d : Declaration} (h : declare d = .ok o) : o.Sound := by
  unfold declare checkType at h
  cases htype : d.type.holds d.default with
  | false => simp [htype, bind, Except.bind] at h
  | true =>
    have hdefault := TypeSpec.has_of_holds htype
    simp only [htype, bind, Except.bind, if_true, pure, Except.pure, Except.ok.injEq] at h
    subst h
    exact ⟨hdefault, hdefault, fun hv => nomatch hv⟩

theorem allows_of_assign {c : Choices} (h : o.assign v = .ok o') (hc : o.choices = some c) :
    c.allows v = .ok true := by
  have htype := (eq_of_assign h).1
  unfold assign checkType at h
  simp only [htype, bind, Except.bind, if_true, hc] at h
  cases hallows : c.allows v with
  | error f => simp [hallows] at h
  | ok allowed =>
    cases allowed with
    | true => rfl
    | false => simp [hallows, throw, throwThe, MonadExceptOf.throw] at h

theorem Sound.assign (ho : o.Sound) (h : o.assign v = .ok o') : o'.Sound := by
  obtain ⟨htype, rfl⟩ := eq_of_assign h
  refine ⟨ho.default, TypeSpec.has_of_holds htype, fun {w c} hw hc => ?_⟩
  obtain rfl : v = w := Option.some.inj hw
  exact Choices.offers_of_allows (allows_of_assign h hc)

end Setting

section Preserving

variable {σ : Type}

def Preserving (I : σ → Prop) (s t : σ) : Prop := I s → I t

instance (I : σ → Prop) : IsPreorder σ (Preserving I) where
  refl _ h := h
  trans _ _ _ hst htu h := htu (hst h)

end Preserving

namespace Settings

variable {R : Type} {P : R → Prop} {l : Listener R}

def SoundTable (table : List Setting) : Prop := ∀ o ∈ table, o.Sound

theorem soundTable_putInTable {o : Setting} (ho : o.Sound) {table : List Setting}
    (h : SoundTable table) : SoundTable (putInTable o table) := by
  induction table with
  | nil => simpa [putInTable, SoundTable] using ho
  | cons p rest ih =>
    obtain ⟨hp, hrest⟩ := List.forall_mem_cons.mp h
    unfold putInTable
    split
    · exact List.forall_mem_cons.mpr ⟨ho, hrest⟩
    · exact List.forall_mem_cons.mpr ⟨hp, ih hrest⟩

/-- The settings are sound, and the listener is in a good state. -/
def Upright (P : R → Prop) (x : Settings × R) : Prop := SoundTable x.1.table ∧ P x.2

/-- A listener stays in a good state as long as the tables that it is told of are sound. -/
structure Minds (P : R → Prop) (l : Listener R) : Prop where
  changed : ∀ table names, SoundTable table → Within (Preserving P) (l.changed table names)
  refused : ∀ table f, SoundTable table → Within (Preserving P) (l.refused table f)

theorem keeps_of_table {f : Settings × R → Settings × R} (htable : ∀ x, (f x).1.table = x.1.table)
    (hbeside : ∀ x, P x.2 → P (f x).2) : Within (Preserving (Upright P)) (modify f : Update R Unit) :=
  within_modify fun x hx => ⟨(htable x).symm ▸ hx.1, hbeside x hx.2⟩

theorem keeps_notify (hl : Minds P l) (names : List String) :
    Within (Preserving (Upright P)) (notify l names) := by
  rintro ⟨s, r⟩ ⟨hs, hr⟩
  have htold := hl.changed s.table names hs r hr
  cases h : l.changed s.table names r with
  | ok u r' =>
    rw [after_of_ok h] at htold
    rw [after_of_ok (notify_of_ok h)]
    exact ⟨hs, htold⟩
  | error f r' =>
    rw [after_of_error h] at htold
    rw [after_of_error (notify_of_error h)]
    exact ⟨hs, htold⟩

theorem keeps_notifyRefused (hl : Minds P l) (f : Failure) :
    Within (Preserving (Upright P)) (notifyRefused l f) := by
  rintro ⟨s, r⟩ ⟨hs, hr⟩
  have htold := hl.refused s.table f hs r hr
  unfold after at htold ⊢
  unfold notifyRefused
  cases h : l.refused s.table f r <;> simpa [h, Upright, hs] using htold

theorem keeps_takeBack (hl : Minds P l) (names : List String) (passOn : Bool)
    {table : List Setting} (htable : SoundTable table) (f : SettingFault) :
    Within (Preserving (Upright P)) (takeBack l names passOn table f) := by
  have hrestore : Within (Preserving (Upright P)) (restore table : Update R Unit) :=
    within_modify fun _ hx => ⟨htable, hx.2⟩
  refine (keeps_notifyRefused hl _).bind fun _ => hrestore.bind fun _ =>
    (keeps_notify hl names).bind fun _ => ?_
  split
  · exact within_throw _
  · exact within_pure ()

/-- What is put back is the table as it was at the beginning. -/
theorem keeps_withRollback (hl : Minds P l) (names : List String) (passOn : Bool)
    {body : Update R Unit} (hbody : Within (Preserving (Upright P)) body) :
    Within (Preserving (Upright P)) (withRollback l names passOn body) := by
  intro start hstart
  have hend := hbody start hstart
  cases h : body start with
  | ok u x =>
    rw [after_of_ok h] at hend
    rwa [after_of_ok (withRollback_of_ok h)]
  | error f x =>
    rw [after_of_error h] at hend
    cases hf : f.isRefusal with
    | false => rwa [after_of_error (withRollback_of_failure h hf)]
    | true =>
      obtain ⟨g, rfl⟩ := Failure.isRefusal_iff.mp hf
      rw [after_of_eq (withRollback_of_refusal h)]
      exact keeps_takeBack hl names passOn hstart.1 g x hend

theorem keeps_declare (hl : Minds P l) (d : Declaration) :
    Within (Preserving (Upright P)) (declare l d) := by
  unfold declare
  split
  · next o ho =>
    refine Within.bind (within_modify fun x hx => ?_) fun _ => keeps_notify hl _
    exact ⟨soundTable_putInTable (Setting.sound_of_declare ho) hx.1, hx.2⟩
  · exact within_throw _

theorem keeps_assign (name : String) (v : Value) :
    Within (Preserving (Upright P)) (assign name v : Update R Unit) := by
  rintro ⟨s, r⟩ hx
  unfold after assign
  cases hfind : s.find? name with
  | none => simpa [hfind] using hx
  | some o =>
    cases ho : o.assign v with
    | error f => simpa [hfind, ho] using hx
    | ok o' =>
      have hsound := (hx.1 o (List.mem_of_find?_eq_some hfind)).assign ho
      simpa [hfind, ho] using ⟨soundTable_putInTable hsound hx.1, hx.2⟩

theorem keeps_assignAll (values : List (String × Value)) :
    Within (Preserving (Upright P)) (assignAll values : Update R Unit) := by
  induction values with
  | nil => exact within_pure ()
  | cons e rest ih => exact (keeps_assign e.1 e.2).bind fun _ => ih

theorem keeps_updateKnown (hl : Minds P l) (values : List (String × Value)) :
    Within (Preserving (Upright P)) (updateKnown l values) := by
  unfold updateKnown
  refine within_get.bind fun x => ?_
  dsimp only
  split
  · exact (keeps_withRollback hl _ true ((keeps_assignAll _).bind fun _ =>
      keeps_notify hl _)).bind fun _ => within_pure _
  · exact within_pure _

theorem keeps_update (hl : Minds P l) (values : List (String × Value)) :
    Within (Preserving (Upright P)) (update l values) := by
  refine (keeps_updateKnown hl values).bind fun unknown => ?_
  split
  · exact within_throw _
  · exact within_pure ()

theorem keeps_updateByName (hl : Minds P l) (values : List (String × Value)) :
    Within (Preserving (Upright P)) (updateByName l values) := by
  unfold updateByName
  split
  · exact within_throw _
  · exact keeps_update hl values

theorem keeps_updateOrDefer (hl : Minds P l) (values : List (String × Value)) :
    Within (Preserving (Upright P)) (updateOrDefer l values) := by
  refine (keeps_updateKnown hl values).bind fun unknown => keeps_of_table (fun x => ?_) fun _ h => h
  have hdefer : ∀ s : Settings, (unknown.foldl (fun s e => s.defer e.1 (.value e.2)) s).table =
      s.table := fun s => by
    rw [← table_deferAll (unknown.map fun e => (e.1, .value e.2)) s, deferAll, List.foldl_map]
  exact hdefer x.1

theorem keeps_setFromTexts (hl : Minds P l) (specs : List String) (putOff : Bool) :
    Within (Preserving (Upright P)) (setFromTexts l specs putOff) := by
  rintro ⟨s, r⟩ hx
  cases hread : s.readGroups (groupSpecs specs) with
  | error f => rwa [after_of_error (setFromTexts_of_unread hread l putOff r)]
  | ok values =>
    have hset := setFromTexts_of_read hread l putOff r
    split at hset
    · rwa [after_of_error hset]
    · rw [after_of_eq hset]
      exact keeps_updateByName hl values _ ⟨(table_deferAll _ s).symm ▸ hx.1, hx.2⟩

theorem keeps_processPutOff (hl : Minds P l) :
    Within (Preserving (Upright P)) (processPutOff l) := by
  unfold processPutOff
  refine within_get.bind fun x => ?_
  dsimp only
  split
  · exact (within_pure _).bind fun values => Within.bind (keeps_updateByName hl values) fun _ =>
      keeps_of_table (fun _ => rfl) fun _ h => h
  · exact fun _ h => h

theorem keeps_declareOnce (hl : Minds P l) {warn : String → R → R}
    (hwarn : ∀ message r, P r → P (warn message r)) (d : Declaration) :
    Within (Preserving (Upright P)) (declareOnce l warn d) := by
  unfold declareOnce
  split
  · exact fun _ h => h
  · refine within_get.bind fun x => ?_
    dsimp only
    split
    · exact keeps_declare hl d
    · split
      · exact Within.bind (keeps_of_table (fun _ => rfl) fun _ => hwarn _ _) fun _ =>
          keeps_declare hl d
      · exact within_pure ()

theorem keeps_load (hl : Minds P l) (homes : Path.Homes) (text : String) (base : Option Path) :
    Within (Preserving (Upright P)) (Config.load l homes text base) := by
  unfold Config.load
  split
  · exact keeps_updateOrDefer hl _
  · exact within_throw _

inductive Use where
  | declare (d : Declaration)
  /-- A declaration by an addon, which may repeat or replace an earlier one. -/
  | declareOnce (d : Declaration)
  | updateKnown (values : List (String × Value))
  | update (values : List (String × Value))
  | updateOrDefer (values : List (String × Value))
  | setFromTexts (specs : List String) (putOff : Bool)
  | processPutOff
  | load (homes : Path.Homes) (text : String) (base : Option Path)
  /-- Give a setting a value and tell nobody. -/
  | assign (name : String) (v : Value)
  | fail (f : Failure)
  /-- Do some things one after the other; where they fail they end, and nothing else does. -/
  | attempt (body : List Use)
  /-- Do some things one after the other, and take them back where they are refused. -/
  | rollback (names : List String) (passOn : Bool) (body : List Use)

namespace Use

variable (l : Listener R) (warn : String → R → R)

mutual

def run (u : Use) : Update R Unit :=
  match u with
  | .declare d => Settings.declare l d
  | .declareOnce d => Settings.declareOnce l warn d
  | .updateKnown values => do let _ ← Settings.updateKnown l values
  | .update values => updateByName l values
  | .updateOrDefer values => Settings.updateOrDefer l values
  | .setFromTexts specs putOff => Settings.setFromTexts l specs putOff
  | .processPutOff => Settings.processPutOff l
  | .load homes text base => Config.load l homes text base
  | .assign name v => Settings.assign name v
  | .fail f => throw f
  | .attempt body => fun x => .ok () (after (runAll body) x)
  | .rollback names passOn body => withRollback l names passOn (runAll body)
termination_by structural u

def runAll (us : List Use) : Update R Unit :=
  match us with
  | [] => pure ()
  | u :: us => do
    run u
    runAll us
termination_by structural us

end

variable {l warn}

mutual

theorem keeps_run (hl : Minds P l) (hwarn : ∀ message r, P r → P (warn message r)) (u : Use) :
    Within (Preserving (Upright P)) (run l warn u) := by
  cases u with
  | declare d => exact keeps_declare hl d
  | declareOnce d => exact keeps_declareOnce hl hwarn d
  | updateKnown values => exact (keeps_updateKnown hl values).bind fun _ => within_pure ()
  | update values => exact keeps_updateByName hl values
  | updateOrDefer values => exact keeps_updateOrDefer hl values
  | setFromTexts specs putOff => exact keeps_setFromTexts hl specs putOff
  | processPutOff => exact keeps_processPutOff hl
  | load homes text base => exact keeps_load hl homes text base
  | assign name v => exact keeps_assign name v
  | fail f => exact within_throw f
  | attempt body => exact keeps_runAll hl hwarn body
  | rollback names passOn body =>
    exact keeps_withRollback hl names passOn (keeps_runAll hl hwarn body)
termination_by structural u

theorem keeps_runAll (hl : Minds P l) (hwarn : ∀ message r, P r → P (warn message r))
    (us : List Use) : Within (Preserving (Upright P)) (runAll l warn us) := by
  cases us with
  | nil => exact within_pure ()
  | cons u us => exact (keeps_run hl hwarn u).bind fun _ => keeps_runAll hl hwarn us
termination_by structural us

end

end Use

/-- A listener that does the same and keeps the tables that it is told of, the latest first. -/
def noting (l : Listener R) : Listener (R × List (List Setting)) where
  changed table names := fun (r, tables) =>
    match l.changed table names r with
    | .ok _ r => .ok () (r, table :: tables)
    | .error f r => .error f (r, table :: tables)
  refused table f := fun (r, tables) =>
    match l.refused table f r with
    | .ok _ r => .ok () (r, table :: tables)
    | .error f r => .error f (r, table :: tables)

theorem minds_noting (l : Listener R) :
    Minds (fun x : R × List (List Setting) => ∀ table ∈ x.2, SoundTable table) (noting l) := by
  refine ⟨fun table names htable => ?_, fun table f htable => ?_⟩
  · rintro ⟨r, tables⟩ h
    unfold after noting
    cases hr : l.changed table names r <;> simpa [hr, htable] using h
  · rintro ⟨r, tables⟩ h
    unfold after noting
    cases hr : l.refused table f r <;> simpa [hr, htable] using h

/-- However settings are used, from the first declaration on: in the table that is left, and in each
that the listener has been told of on the way, every setting has a value of its type, and a value that
has been assigned to it is one of its choices. -/
theorem values_are_sound (l : Listener R) (warn : String → R → R) (uses : List Use) (r : R) :
    let x := after (Use.runAll (noting l) (fun message q => (warn message q.1, q.2)) uses)
      (.empty, (r, []))
    ∀ table ∈ x.1.table :: x.2.2, ∀ o ∈ table, o.Sound := by
  let warnOnly (message : String) (q : R × List (List Setting)) := (warn message q.1, q.2)
  have hwarn : ∀ message q, (∀ table ∈ q.2, SoundTable table) →
      ∀ table ∈ (warnOnly message q).2, SoundTable table := fun _ _ h => h
  have hend := Use.keeps_runAll (minds_noting l) hwarn uses (.empty, (r, []))
    ⟨by simp [SoundTable, empty], by simp⟩
  exact List.forall_mem_cons.mpr hend

/-- A text of two characters is a part of itself, and so it is assigned where the choices are its
characters. -/
theorem part_is_no_choice :
    ∃ o, (after (Use.runAll (noting (wary "interval")) (fun _ q => q)
        [.declare ⟨"letter", .str, .str "a", "", some (.partsOf "ab")⟩,
          .update [("letter", .str "ab")]]) (.empty, ([], []))).1.table = [o] ∧
      o.value = some (.str "ab") ∧
      o.choices.map (·.names) = some ["a", "b"] ∧ "ab" ∉ ["a", "b"] :=
  ⟨_, rfl, rfl, by decide, by decide⟩

end Settings
end Detour
