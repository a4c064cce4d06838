import Detour.Proofs.Signal
import Detour.Proofs.Settings.Latest
import Detour.Proofs.Settings.Step

/-!
# An audience for settings

The receivers of a signal are told of changes of the settings one after the other, up to the first
that refuses the change, and keep copies of the values that they accept. A change that is refused is
announced once more with the values restored, and so all copies are right after every update
(`Audience.InStep.update`, `Audience.stays_in_step`). Only where choices that are the parts of one text
are asked for a value that is no text, nobody is told (`Audience.parts_leave_copies_behind`).
-/
namespace Detour

/-- Names of settings, and the table in which their values are to be seen. -/
structure News where
  names : List String
  table : List Setting

def News.value? (news : News) (name : String) : Option Value :=
  (news.table.find? (·.name = name)).map (·.current)

/-- The values that a receiver accepts for settings, and how it refuses others. -/
structure Member where
  accepts : String → Value → Bool
  refusal : News → SettingFault

def Member.agrees (m : Member) (news : News) : Bool :=
  news.names.all fun name => (news.value? name).all (m.accepts name)

inductive Announcement where
  | changed (news : News)
  | refused (f : Failure)

/-- The receivers of changes, and all that has been announced, in order. -/
structure Audience where
  changes : Signal.State News
  announced : List Announcement

namespace Audience

variable (members : Signal.Receiver → Member)

/-- A receiver refuses news that it does not accept. -/
def behaviour : Signal.Behaviour News := fun _ r news =>
  if (members r).agrees news then [] else [.fail]

/-- Why the receiver that was called last has broken off a send. -/
def refusalIn (changes : Signal.State News) : Failure :=
  match changes.calls with
  | (r, news) :: _ => .setting ((members r).refusal news)
  | [] => .assertion

def listener : Listener Audience where
  changed table names := fun a =>
    let news := ⟨names, table⟩
    let announced := a.announced ++ [.changed news]
    match Signal.send (behaviour members) (a.changes.connected.length + 1) news a.changes with
    | (.finished, changes) => .ok () ⟨changes, announced⟩
    | (.failed, changes) => .error (refusalIn members changes) ⟨changes, announced⟩
  refused _ f := fun a => .ok () { a with announced := a.announced ++ [.refused f] }

/-- The value of a setting that a receiver has copied last, given all calls, the latest first. -/
def copyOf (first : Signal.Receiver → String → Option Value) (r : Signal.Receiver) (name : String) :
    List (Signal.Receiver × News) → Option Value
  | [] => first r name
  | (r', news) :: earlier =>
    if r' = r ∧ (members r).agrees news = true ∧ name ∈ news.names then news.value? name
    else copyOf first r name earlier

def told (a : Audience) (news : News) (rs : List Signal.Receiver) : Audience :=
  ⟨a.changes.called rs news, a.announced ++ [.changed news]⟩

def toldRefusal (a : Audience) (f : Failure) : Audience :=
  { a with announced := a.announced ++ [.refused f] }

variable {members} {first : Signal.Receiver → String → Option Value} {s t : Settings} {a : Audience}
  {names : List String} {table : List Setting} {values : List (String × Value)} {news : News}

theorem copyOf_told_first (rs : List Signal.Receiver) (r : Signal.Receiver) (name : String)
    (calls : List (Signal.Receiver × News)) :
    copyOf members first r name (rs.map (·, news) ++ calls) =
      if r ∈ rs ∧ (members r).agrees news = true ∧ name ∈ news.names then news.value? name
      else copyOf members first r name calls := by
  induction rs with
  | nil => simp
  | cons r' rest ih =>
    rw [List.map_cons, List.cons_append, copyOf, ih]
    by_cases hr : r' = r
    · subst hr
      by_cases h : (members r').agrees news = true ∧ name ∈ news.names <;> simp [h]
    · simp [hr, Ne.symm hr]

theorem copyOf_called (changes : Signal.State News) (rs : List Signal.Receiver)
    (r : Signal.Receiver) (name : String) :
    copyOf members first r name (changes.called rs news).calls =
      if r ∈ rs ∧ (members r).agrees news = true ∧ name ∈ news.names then news.value? name
      else copyOf members first r name changes.calls := by
  have hcalls : (changes.called rs news).calls = rs.reverse.map (·, news) ++ changes.calls := by
    rw [Signal.State.called, List.map_reverse]
  rw [hcalls, copyOf_told_first]
  simp only [List.mem_reverse]

/-- All agree, or there is one that is the first not to agree. -/
theorem agreement (members : Signal.Receiver → Member) (news : News) (rs : List Signal.Receiver) :
    (∀ r ∈ rs, (members r).agrees news = true) ∨ ∃ before r later, rs = before ++ r :: later ∧
      (∀ r' ∈ before, (members r').agrees news = true) ∧ (members r).agrees news = false := by
  cases h : rs.find? fun r => !(members r).agrees news with
  | none => exact .inl (by simpa using h)
  | some r =>
    obtain ⟨hr, before, later, hrs, hbefore⟩ := List.find?_eq_some_iff_append.mp h
    exact .inr ⟨before, r, later, hrs, by simpa using hbefore, by simpa using hr⟩

theorem behaviour_of_agrees {r : Signal.Receiver} (h : (members r).agrees news = true)
    (calls : List (Signal.Receiver × News)) : behaviour members calls r news = [] :=
  if_pos h

theorem changed_of_agreed (howned : ∀ r ∈ a.changes.connected, r ∈ a.changes.owned)
    (hall : ∀ r ∈ a.changes.connected, (members r).agrees ⟨names, table⟩ = true) :
    (listener members).changed table names a =
      .ok () (a.told ⟨names, table⟩ a.changes.connected) := by
  have hsend := Signal.send_of_quiet howned fun r hr => behaviour_of_agrees (hall r hr)
  simp only [listener, hsend]
  rfl

theorem changed_of_disagreed (howned : ∀ r ∈ a.changes.connected, r ∈ a.changes.owned)
    {before later : List Signal.Receiver} {r : Signal.Receiver}
    (hreceivers : a.changes.connected = before ++ r :: later)
    (hbefore : ∀ r' ∈ before, (members r').agrees ⟨names, table⟩ = true)
    (hr : (members r).agrees ⟨names, table⟩ = false) :
    (listener members).changed table names a =
      .error (.setting ((members r).refusal ⟨names, table⟩))
        (a.told ⟨names, table⟩ (before ++ [r])) := by
  have hfails : ∀ calls, behaviour members calls r ⟨names, table⟩ = [.fail] := fun _ =>
    if_neg (by simp [hr])
  have hsend := Signal.send_of_failing hreceivers howned
    (fun r' hr' => behaviour_of_agrees (hbefore r' hr')) hfails
  have hrefusal : refusalIn members (a.changes.called (before ++ [r]) ⟨names, table⟩) =
      .setting ((members r).refusal ⟨names, table⟩) := by
    simp [refusalIn, Signal.State.called]
  simp only [listener, hsend, hrefusal]
  rfl

variable (members first) in
/-- All receivers are there and accept the values of the settings, and but for some names they have
copies of these. -/
structure InStepBut (names : List String) (s : Settings) (a : Audience) : Prop where
  owned : ∀ r ∈ a.changes.connected, r ∈ a.changes.owned
  content : ∀ r ∈ a.changes.connected, ∀ name v,
    s.current? name = some v → (members r).accepts name v = true
  copies : ∀ r ∈ a.changes.connected, ∀ name, name ∉ names →
    copyOf members first r name a.changes.calls = s.current? name

variable (members first) in
/-- All receivers have copies of the values of all settings, and accept these. -/
abbrev InStep (s : Settings) (a : Audience) : Prop := InStepBut members first [] s a

theorem InStepBut.agrees (h : InStepBut members first names s a) {r : Signal.Receiver}
    (hr : r ∈ a.changes.connected) (names' : List String) :
    (members r).agrees ⟨names', s.table⟩ = true := by
  refine List.all_eq_true.mpr fun name _ => ?_
  cases hv : (⟨names', s.table⟩ : News).value? name with
  | none => rfl
  | some v => exact h.content r hr name v hv

theorem InStep.but (h : InStep members first s a) (names : List String) :
    InStepBut members first names s a :=
  ⟨h.owned, h.content, fun r hr name _ => h.copies r hr name (by simp)⟩

/-- Whoever is told of some settings, and whatever their values are, the other copies stay right. -/
theorem InStepBut.told (h : InStepBut members first names s a) (table : List Setting)
    (rs : List Signal.Receiver) : InStepBut members first names s (a.told ⟨names, table⟩ rs) := by
  refine ⟨h.owned, h.content, fun r hr name hname => ?_⟩
  refine (copyOf_called a.changes rs r name).trans ((if_neg ?_).trans (h.copies r hr name hname))
  exact fun hcopied => hname hcopied.2.2

/-- When all are told of the settings for which their copies are not right, they have copies of all. -/
theorem InStepBut.told_all (h : InStepBut members first names s a) :
    InStep members first s (a.told ⟨names, s.table⟩ a.changes.connected) := by
  refine ⟨h.owned, h.content, fun r hr name _ => ?_⟩
  refine (copyOf_called a.changes a.changes.connected r name).trans ?_
  by_cases hname : name ∈ names
  · exact if_pos ⟨hr, h.agrees hr names, hname⟩
  · exact (if_neg fun hcopied => hname hcopied.2.2).trans (h.copies r hr name hname)

/-- New values that all agree to are accepted by all, and the copies of the others are right. -/
theorem InStep.reassigned (h : InStep members first s a) (ht : s.Reassigned names t)
    (hall : ∀ r ∈ a.changes.connected, (members r).agrees ⟨names, t.table⟩ = true) :
    InStepBut members first names t a := by
  have hothers : ∀ name, name ∉ names → t.current? name = s.current? name := fun name hname => by
    rw [Settings.current?, Settings.current?, ht.others name hname]
  refine ⟨h.owned, fun r hr name v hv => ?_, fun r hr name hname => ?_⟩
  · by_cases hname : name ∈ names
    · have hagrees := List.all_eq_true.mp (hall r hr) name hname
      have hvalue : (⟨names, t.table⟩ : News).value? name = some v := hv
      simpa [hvalue] using hagrees
    · exact h.content r hr name v ((hothers name hname).symm.trans hv)
  · rw [hothers name hname]
    exact h.copies r hr name (by simp)

variable (members) in
/-- What an update of settings comes to. Without values nothing is sent. If it is accepted, the
settings have the values, and one change has been sent to all. If it is refused, they are as before:
the change may have been sent to some receivers up to the one that refuses it, and then the refusal
has been announced, and one change with the values restored has been sent to all. -/
inductive Outcome (values : List (String × Value)) (s : Settings) (a : Audience) :
    EStateM.Result Failure (Settings × Audience) Unit → Prop where
  | nothing (hvalues : values = []) : Outcome values s a (.ok () (s, a))
  | accepted {table : List Setting} (hvalues : values ≠ [])
      (hlatest : Settings.Latest values s { s with table }) :
      Outcome values s a
        (.ok () ({ s with table }, a.told ⟨values.map (·.1), table⟩ a.changes.connected))
  | refused {f : SettingFault} {asked : Audience}
      (hasked : asked = a ∨ ∃ table before r later, Settings.Latest values s { s with table } ∧
        a.changes.connected = before ++ r :: later ∧
        (members r).agrees ⟨values.map (·.1), table⟩ = false ∧
        f = (members r).refusal ⟨values.map (·.1), table⟩ ∧
        asked = a.told ⟨values.map (·.1), table⟩ (before ++ [r])) :
      Outcome values s a (.error (.setting f) (s, (asked.toldRefusal (.setting f)).told
        ⟨values.map (·.1), s.table⟩ a.changes.connected))

/-- Taking a change back announces the refusal, and tells all of the values restored. -/
theorem takeBack_told (h : InStepBut members first names s a) (f : SettingFault)
    (table : List Setting) :
    Settings.takeBack (listener members) names true s.table f ({ s with table }, a) =
        .error (.setting f) (s, (a.toldRefusal (.setting f)).told ⟨names, s.table⟩
          a.changes.connected) ∧
      InStep members first s ((a.toldRefusal (.setting f)).told ⟨names, s.table⟩
        a.changes.connected) := by
  have hrefused : InStepBut members first names s (a.toldRefusal (.setting f)) :=
    ⟨h.owned, h.content, h.copies⟩
  have htold : (listener members).refused table (.setting f) a =
      .ok () (a.toldRefusal (.setting f)) := rfl
  have hchanged := changed_of_agreed hrefused.owned fun r hr => hrefused.agrees hr names
  refine ⟨?_, hrefused.told_all⟩
  rw [Settings.takeBack_eq htold, bind_of_ok (Settings.notify_of_ok hchanged)]
  rfl

/-- All copies are right after a change, whatever it comes to. -/
theorem InStep.setAll (h : InStep members first s a) (hfit : s.Fitting values) :
    Outcome members values s a (Settings.setAll (listener members) values (s, a)) ∧
      InStep members first (after (Settings.setAll (listener members) values) (s, a)).1
        (after (Settings.setAll (listener members) values) (s, a)).2 ∧
      ∀ name, (after (Settings.setAll (listener members) values) (s, a)).1.declared? name =
        s.declared? name := by
  by_cases hempty : values = []
  · subst hempty
    exact ⟨.nothing rfl, h, fun _ => rfl⟩
  -- the values are assigned, or one of them is none of its choices and nobody is asked
  obtain ⟨table, hassign | ⟨f, hassign⟩⟩ := Settings.assignAll_of_fitting hfit a
  · have hassigned : s.Reassigned (values.map (·.1)) { s with table } :=
      Settings.reassigned_of_assignAll (fun _ => List.mem_map_of_mem) hassign
    have hlatest := Settings.latest_of_assignAll hassign
    rcases agreement members ⟨values.map (·.1), table⟩ a.changes.connected with
      hall | ⟨before, r, later, hreceivers, hbefore, hr⟩
    · have hset := Settings.setAll_of_accepted hempty hassign (changed_of_agreed h.owned hall)
      rw [after_of_ok hset, hset]
      exact ⟨.accepted hempty hlatest, (h.reassigned hassigned hall).told_all, hassigned.declared⟩
    · -- those told of the change have copied it, and are told of the same names once more
      have hchanged := changed_of_disagreed h.owned hreceivers hbefore hr
      obtain ⟨hback, hstep⟩ := takeBack_told ((h.but (values.map (·.1))).told table (before ++ [r]))
        ((members r).refusal ⟨values.map (·.1), table⟩) table
      have hset := (Settings.setAll_of_refused hempty hassign hchanged).trans hback
      rw [after_of_error hset, hset]
      exact ⟨.refused (.inr ⟨table, before, r, later, hlatest, hreceivers, hr, rfl, rfl⟩), hstep,
        fun _ => rfl⟩
  · obtain ⟨hback, hstep⟩ := takeBack_told (h.but (values.map (·.1))) f table
    have hset := (Settings.setAll_of_unchosen hempty hassign).trans hback
    rw [after_of_error hset, hset]
    exact ⟨.refused (.inl rfl), hstep, fun _ => rfl⟩

theorem InStep.update (h : InStep members first s a) (hfit : s.Fitting values) :
    Outcome members values s a (Settings.update (listener members) values (s, a)) ∧
      InStep members first (after (Settings.update (listener members) values) (s, a)).1
        (after (Settings.update (listener members) values) (s, a)).2 ∧
      ∀ name, (after (Settings.update (listener members) values) (s, a)).1.declared? name =
        s.declared? name := by
  have hset := Settings.update_of_known hfit.contains (listener members) a
  rw [after_of_eq hset, hset]
  exact h.setAll hfit

end Audience

def Settings.afterUpdates {R : Type} (l : Listener R) :
    List (List (String × Value)) → Settings × R → Settings × R
  | [], x => x
  | values :: later, x => afterUpdates l later (after (update l values) x)

namespace Audience

variable {members : Signal.Receiver → Member} {first : Signal.Receiver → String → Option Value}
  {x : Settings × Audience}

theorem InStep.afterUpdates (h : InStep members first x.1 x.2)
    {updates : List (List (String × Value))} (hfit : ∀ values ∈ updates, x.1.Fitting values) :
    InStep members first (Settings.afterUpdates (listener members) updates x).1
        (Settings.afterUpdates (listener members) updates x).2 ∧
      ∀ name, (Settings.afterUpdates (listener members) updates x).1.declared? name =
        x.1.declared? name := by
  induction updates generalizing x with
  | nil => exact ⟨h, fun _ => rfl⟩
  | cons values later ih =>
    obtain ⟨-, hstep, hdeclared⟩ := h.update (hfit values (by simp))
    have hlater := fun values' hvalues =>
      (hfit values' (List.mem_cons_of_mem _ hvalues)).of_declared hdeclared
    obtain ⟨hrest, hdeclared'⟩ := ih hstep hlater
    exact ⟨hrest, fun name => (hdeclared' name).trans (hdeclared name)⟩

/-- However many updates there have been, accepted or refused: all receivers have copies of the values
of all settings, the next update comes to one of the things that an update may come to, and the
copies are right again. -/
theorem stays_in_step {s : Settings} {a : Audience} (h : InStep members first s a)
    (done : List (List (String × Value))) (values : List (String × Value))
    (hfit : ∀ vs ∈ done ++ [values], s.Fitting vs) :
    ∃ t b, Settings.afterUpdates (listener members) done (s, a) = (t, b) ∧
      InStep members first t b ∧
      Outcome members values t b (Settings.update (listener members) values (t, b)) ∧
      InStep members first (after (Settings.update (listener members) values) (t, b)).1
        (after (Settings.update (listener members) values) (t, b)).2 := by
  have hdone : ∀ vs ∈ done, s.Fitting vs := fun vs hvs => hfit vs (List.mem_append_left _ hvs)
  obtain ⟨hstep, hdeclared⟩ := InStep.afterUpdates (x := (s, a)) h hdone
  have hvalues := (hfit values (by simp)).of_declared hdeclared
  obtain ⟨houtcome, hnext, -⟩ := hstep.update hvalues
  exact ⟨_, _, rfl, hstep, houtcome, hnext⟩

def gather (rs : List Signal.Receiver) : Audience := ⟨⟨rs, rs, []⟩, []⟩

/-- Receivers that accept the values of all settings are in step once they are connected. -/
theorem inStep_gather {s : Settings} {rs : List Signal.Receiver}
    (h : ∀ r ∈ rs, ∀ o ∈ s.table, (members r).accepts o.name o.current = true) :
    InStep members (fun _ => s.current?) s (gather rs) := by
  refine ⟨fun _ hr => hr, fun r hr name v hv => ?_, fun _ _ _ _ => rfl⟩
  obtain ⟨o, hfind, rfl⟩ := Option.map_eq_some_iff.mp hv
  obtain rfl := Settings.name_of_find? hfind
  exact h r hr o (List.mem_of_find?_eq_some hfind)

def pair : Signal.Receiver → Member
  | 1 => ⟨fun _ v => match v with | .int n => 0 < n | _ => true, fun _ => .other "not positive"⟩
  | _ => ⟨fun _ _ => true, fun _ => .other ""⟩

/-- One update is accepted, and then one is refused and taken back. -/
theorem pair_stays_in_step :
    ∃ t b, Settings.afterUpdates (listener pair) [[("cooldown", .int 500)]]
        (Settings.twoNumbers, gather [0, 1]) = (t, b) ∧
      InStep pair (fun _ => Settings.twoNumbers.current?) t b ∧
      ∃ f c, Settings.update (listener pair) [("cooldown", .int 600), ("interval", .int 0)] (t, b) =
          .error f (t, c) ∧
        copyOf pair (fun _ => Settings.twoNumbers.current?) 0 "cooldown" c.changes.calls =
          some (.int 500) := by
  have hstart : InStep pair (fun _ => Settings.twoNumbers.current?) Settings.twoNumbers
      (gather [0, 1]) := inStep_gather (by decide)
  have hfit : ∀ vs ∈ [[("cooldown", Value.int 500)]] ++
      [[("cooldown", .int 600), ("interval", .int 0)]], Settings.twoNumbers.Fitting vs := by
    simp only [List.cons_append, List.nil_append, List.forall_mem_cons, Settings.Fitting]
    exact ⟨⟨⟨_, rfl, rfl⟩, by simp⟩, ⟨⟨_, rfl, rfl⟩, ⟨_, rfl, rfl⟩, by simp⟩, by simp⟩
  obtain ⟨t, b, hdone, hstep, -⟩ := stays_in_step hstart _ _ hfit
  refine ⟨t, b, hdone, hstep, ?_⟩
  obtain ⟨rfl, rfl⟩ := Prod.mk.inj hdone.symm
  exact ⟨_, _, rfl, rfl⟩

/-- The parts of a text are no choices for a value that is no text: a value before it stays, and the
copies of it do not. -/
theorem parts_leave_copies_behind :
    InStep pair (fun _ => Settings.lettered.current?) Settings.lettered (gather [0, 1]) ∧
      (∀ e ∈ [("count", Value.int 5), ("letter", .null)],
        ∃ o, Settings.lettered.declared? e.1 = some o ∧ o.type.holds e.2 = true) ∧
      ∃ f s, Settings.update (listener pair) [("count", .int 5), ("letter", .null)]
          (Settings.lettered, gather [0, 1]) = .error f (s, gather [0, 1]) ∧
        s.current? "count" = some (.int 5) ∧
        copyOf pair (fun _ => Settings.lettered.current?) 0 "count" (gather [0, 1]).changes.calls =
          some (.int 1) := by
  refine ⟨inStep_gather (by decide), ?_, _, _, rfl, rfl, rfl⟩
  simp only [List.forall_mem_cons]
  exact ⟨⟨_, rfl, rfl⟩, ⟨_, rfl, rfl⟩, by simp⟩

end Audience
end Detour
