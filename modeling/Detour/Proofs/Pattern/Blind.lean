import Detour.Proofs.Pattern.Reading

/-!
# Reading a pattern with and without regard to letter case

Whether letter case is ignored makes no difference to how a pattern is read, only to the letters of
the expression: under both sets of flags it is refused for the same fault or denotes the same
expression up to that (`parse_bare`). A reader is `Blind` to letter case if on cursors that differ
only in it the runs come to the same; two readers `Agree` if that holds up to a view of what they
return.
-/
namespace Detour.Regex
open Text

namespace Flags

def bare (f : Flags) : Flags := { f with ignoreCase := false }

variable {f g : Flags}

theorem bare_union (f g : Flags) : (f.union g).bare = (f.bare.union g).bare := by
  simp [bare, union]

theorem bare_within (f on off : Flags) : (f.within on off).bare = (f.bare.within on off).bare := by
  simp only [bare, within, union]
  split <;> rfl

theorem union_congr (h : f.bare = g.bare) (on : Flags) : (f.union on).bare = (g.union on).bare := by
  rw [bare_union, h, ← bare_union]

theorem within_congr (h : f.bare = g.bare) (on off : Flags) :
    (f.within on off).bare = (g.within on off).bare := by
  rw [bare_within, h, ← bare_within]

theorem eq_of_bare (h : f.bare = g.bare) : f.multiline = g.multiline ∧ f.dotAll = g.dotAll ∧
    f.verbose = g.verbose ∧ f.ascii = g.ascii ∧ f.unicode = g.unicode ∧
      f.template = g.template := by
  simpa [bare] using h

end Flags

/-- The test but for how letters are compared. -/
def CharTest.bare : CharTest → CharTest
  | any newlines => any newlines
  | char _ negated c => char .exact negated c
  | set _ negated items => set .exact negated items

namespace Expr

/-- The expression but for how letters are compared. -/
def bare : Expr → Expr
  | empty => empty
  | one t => one t.bare
  | seq a b => seq a.bare b.bare
  | alt a b => alt a.bare b.bare
  | repeated g low high e => repeated g low high e.bare
  | group n e => group n e.bare
  | again _ n width => again .exact n width
  | place p => place p
  | ahead negated e => ahead negated e.bare
  | behind negated e => behind negated e.bare
  | atomic e => atomic e.bare
  | ifGroup n yes no => ifGroup n yes.bare no.bare

theorem width_bare (e : Expr) : e.bare.width = e.width := by
  induction e with
  | empty | one | again | place | ahead | behind => rfl
  | seq a b ha hb | alt a b ha hb | ifGroup n a b ha hb => simp only [bare, width, ha, hb]
  | repeated g low high e ih | group n e ih | atomic e ih => simp only [bare, width, ih]

theorem fault?_bare (template : Bool) (e : Expr) : e.bare.fault? template = e.fault? template := by
  induction e with
  | empty | one | again | place => rfl
  | seq a b ha hb | alt a b ha hb | ifGroup n a b ha hb => simp only [bare, fault?, ha, hb]
  | repeated g low high e ih | group n e ih | atomic e ih | ahead negated e ih =>
    simp only [bare, fault?, ih]
  | behind negated e ih => simp only [bare, fault?, ih, width_bare]

end Expr

def Part.bare : Part → Part
  | plain e => plain e.bare
  | place p => place p
  | repeated e => repeated e.bare

theorem Part.expr_bare (p : Part) : p.bare.expr = p.expr.bare := by
  cases p <;> rfl

theorem joined_bare (parts : List Part) : (joined parts).bare = joined (parts.map Part.bare) := by
  have hfold : ∀ (e : Expr), (parts.foldl (fun e p => .seq p.expr e) e).bare =
      (parts.map Part.bare).foldl (fun e p => .seq p.expr e) e.bare := by
    induction parts with
    | nil => exact fun e => rfl
    | cons p rest ih =>
      intro e
      rw [List.foldl_cons, ih, List.map_cons, List.foldl_cons, Part.expr_bare, Expr.bare]
  exact hfold .empty

theorem literal_bare {f g : Flags} (n : Nat) : (literal f n).bare = (literal g n).bare := by
  unfold literal
  split <;> rfl

theorem setTest_bare {f g : Flags} (negated : Bool) (items : List Item) :
    (setTest f negated items).bare = (setTest g negated items).bare := by
  unfold setTest
  split <;> rfl

namespace Cursor

def bare (c : Cursor) : Cursor := { c with flags := c.flags.bare }

/-- Cursors that differ only in letter case. -/
theorem bare_eq_iff {c d : Cursor} : c.bare = d.bare ↔ c.rest = d.rest ∧ c.widths = d.widths ∧
    c.names = d.names ∧ c.lookBehind = d.lookBehind ∧ c.asked = d.asked ∧
      c.flags.bare = d.flags.bare := by
  simp [bare]

end Cursor

section Readers
variable {α β γ δ : Type}

/-- On cursors that differ only in letter case both readers fail alike, or return what looks the
same and leave cursors that differ only in letter case. -/
def Agree (view : α → β) (p q : Parse α) : Prop :=
  ∀ c d : Cursor, c.bare = d.bare →
    (p.run c).map (fun x => (view x.1, x.2.bare)) = (q.run d).map fun x => (view x.1, x.2.bare)

/-- A reader to which letter case makes no difference. -/
def Blind (p : Parse α) : Prop := Agree id p p

variable {view : α → β} {p q : Parse α}

theorem agree_pure {a b : α} (h : view a = view b) : Agree view (pure a) (pure b) := by
  intro c d hcd
  change Except.ok (view a, c.bare) = Except.ok (view b, d.bare)
  rw [h, hcd]

theorem blind_pure (a : α) : Blind (pure a) := agree_pure rfl

theorem agree_throw (f : Fault) : Agree view (throw f) (throw f) := fun _ _ _ => rfl

theorem Agree.bind {view' : γ → δ} {k k' : α → Parse γ} (hp : Agree view p q)
    (hk : ∀ a b, view a = view b → Agree view' (k a) (k' b)) :
    Agree view' (p >>= k) (q >>= k') := by
  intro c d hcd
  have hrun := hp c d hcd
  rw [StateT.run_bind, StateT.run_bind]
  cases hpc : p.run c with
  | error f =>
    cases hqd : q.run d with
    | error g =>
      rw [hpc, hqd] at hrun
      cases hrun
      rfl
    | ok y =>
      rw [hpc, hqd] at hrun
      cases hrun
  | ok x =>
    cases hqd : q.run d with
    | error g =>
      rw [hpc, hqd] at hrun
      cases hrun
    | ok y =>
      rw [hpc, hqd] at hrun
      obtain ⟨hview, hcursor⟩ := Prod.ext_iff.mp (Except.ok.inj hrun)
      exact hk x.1 y.1 hview x.2 y.2 hcursor

theorem Blind.agree {view' : γ → δ} {k k' : α → Parse γ} (hp : Blind p)
    (hk : ∀ a, Agree view' (k a) (k' a)) : Agree view' (p >>= k) (p >>= k') :=
  Agree.bind hp fun a b hab => by
    obtain rfl : a = b := hab
    exact hk a

theorem Blind.bind {k : α → Parse γ} (hp : Blind p) (hk : ∀ a, Blind (k a)) : Blind (p >>= k) :=
  hp.agree hk

/-- Where letter case makes no difference, it makes none to what is seen of the result. -/
theorem Blind.seen (hp : Blind p) (view : α → β) : Agree view p p := by
  rw [← bind_pure p]
  exact hp.agree fun a => agree_pure rfl

theorem agree_get {k k' : Cursor → Parse α}
    (hk : ∀ c d, c.bare = d.bare → Agree view (k c) (k' d)) :
    Agree view (get >>= k) (get >>= k') :=
  fun c d hcd => hk c d hcd c d hcd

theorem agree_modify {f g : Cursor → Cursor}
    (h : ∀ c d, c.bare = d.bare → (f c).bare = (g d).bare) : Agree id (modify f) (modify g) :=
  fun c d hcd => congrArg (fun e => Except.ok ((), e)) (h c d hcd)

theorem blind_get {k : Cursor → Parse α} (hsame : ∀ c d, c.bare = d.bare → k c = k d)
    (hk : ∀ c, Blind (k c)) : Blind (get >>= k) :=
  agree_get fun c d hcd => hsame c d hcd ▸ hk c

theorem agree_ite {b : Prop} [Decidable b] {p' q' : Parse α} (hp : b → Agree view p q)
    (hq : ¬ b → Agree view p' q') :
    Agree view (if b then p else p') (if b then q else q') := by
  split
  · exact hp ‹_›
  · exact hq ‹_›

theorem Agree.check {b : Prop} [Decidable b] {fail : Parse γ} (hf : Blind fail)
    (hp : Agree view p q) :
    Agree view (if b then fail >>= fun _ => p else p) (if b then fail >>= fun _ => q else q) :=
  agree_ite (fun _ => hf.agree fun _ => hp) fun _ => hp

theorem Agree.checkNot {b : Prop} [Decidable b] {fail : Parse γ} (hf : Blind fail)
    (hp : Agree view p q) :
    Agree view (if b then p else fail >>= fun _ => p) (if b then q else fail >>= fun _ => q) :=
  agree_ite (fun _ => hp) fun _ => hf.agree fun _ => hp

theorem Blind.check {b : Prop} [Decidable b] {fail : Parse γ} (hf : Blind fail) (hp : Blind p) :
    Blind (if b then fail >>= fun _ => p else p) :=
  Agree.check hf hp

theorem Blind.checkNot {b : Prop} [Decidable b] {fail : Parse γ} (hf : Blind fail) (hp : Blind p) :
    Blind (if b then p else fail >>= fun _ => p) :=
  Agree.checkNot hf hp

theorem Blind.either {b : Prop} [Decidable b] {p q : Parse γ} {k : γ → Parse α} (hp : Blind p)
    (hq : Blind q) (hk : ∀ a, Blind (k a)) : Blind (if b then p >>= k else q >>= k) :=
  agree_ite (fun _ => hp.bind hk) fun _ => hq.bind hk

theorem rest_eq {c d : Cursor} (h : c.bare = d.bare) : c.rest = d.rest :=
  (Cursor.bare_eq_iff.mp h).1

theorem checkGroup_eq {c d : Cursor} (h : c.bare = d.bare) (n : Nat) :
    checkGroup c n = checkGroup d n := by
  rw [checkGroup, checkGroup, (Cursor.bare_eq_iff.mp h).2.1]

theorem blind_failBefore (problem : Problem) (offset : Nat) :
    Blind (failBefore problem offset : Parse α) :=
  blind_get (fun c d h => by rw [rest_eq h]) fun _ => agree_throw _

theorem blind_failHere (problem : Problem) : Blind (failHere problem : Parse α) :=
  blind_failBefore problem 0

theorem blind_failAt (problem : Problem) (left : Nat) : Blind (failAt problem left : Parse α) :=
  agree_throw _

theorem blind_peek : Blind peek :=
  blind_get (fun c d h => by rw [rest_eq h]) fun _ => blind_pure _

theorem blind_left : Blind left :=
  blind_get (fun c d h => by rw [rest_eq h]) fun _ => blind_pure _

theorem blind_moveTo (rest : List Char) : Blind (moveTo rest) := by
  refine .check (blind_failAt _ _) (agree_modify fun c d h => ?_)
  obtain ⟨-, hwidths, hnames, hlook, hasked, hflags⟩ := Cursor.bare_eq_iff.mp h
  exact Cursor.bare_eq_iff.mpr ⟨rfl, hwidths, hnames, hlook, hasked, hflags⟩

theorem blind_take : Blind take :=
  blind_peek.bind fun _ => blind_get (fun c d h => by rw [rest_eq h]) fun _ =>
    (blind_moveTo _).bind fun _ => blind_pure _

theorem blind_discard {p : Parse α} (hp : Blind p) : Blind (discard p) :=
  hp.bind fun _ => blind_pure ()

theorem blind_accept (c : Char) : Blind (accept c) := by
  refine blind_peek.bind fun token => ?_
  split
  · exact (blind_discard blind_take).bind fun _ => blind_pure true
  · exact blind_pure false

theorem blind_takeWhile (p : Char → Bool) (n : Nat) : Blind (takeWhile p n) := by
  induction n with
  | zero => exact blind_pure []
  | succ n ih =>
    refine blind_peek.bind fun token => ?_
    split
    · split
      · exact (blind_discard blind_take).bind fun _ => ih.bind fun _ => blind_pure _
      · exact blind_pure []
    · exact blind_pure []

theorem blind_takeUntil (closing : Char) (what : String) (read : List Char) (fuel : Nat) :
    Blind (takeUntil closing what read fuel) := by
  induction fuel generalizing read with
  | zero => exact blind_failHere _
  | succ fuel ih =>
    refine blind_take.bind fun token => ?_
    dsimp only
    have hgo : Blind (if token = [closing] then
          if read = [] then failBefore (α := Unit) (.missingName what) 1 >>= fun _ => pure read
          else pure read
        else takeUntil closing what (read ++ token) fuel) := by
      split
      · exact .check (blind_failBefore _ _) (blind_pure read)
      · exact ih _
    split
    · exact .check (blind_failHere _) ((blind_failBefore _ _).bind fun _ => hgo)
    · exact hgo

theorem blind_nameUntil (closing : Char) (what : String) : Blind (nameUntil closing what) :=
  blind_left.bind fun _ => blind_takeUntil closing what [] _

theorem blind_hexEscape (token : List Char) (count : Nat) : Blind (hexEscape token count) :=
  (blind_takeWhile _ count).bind fun _ =>
    .check (blind_failBefore _ _) (.check (blind_failBefore _ _) (blind_pure _))

theorem blind_namedEscape : Blind namedEscape := by
  refine (blind_accept _).bind fun opened => .checkNot (blind_failHere _) ?_
  refine (blind_nameUntil _ _).bind fun name => ?_
  split
  · exact blind_pure _
  · exact blind_failBefore _ _

theorem blind_commonEscape {token : List Char} {c : Char} {read : Parse Nat}
    (h : commonEscape? token c = some read) : Blind read := by
  unfold commonEscape? at h
  split at h <;> cases h
  · exact blind_hexEscape token 2
  · exact blind_hexEscape token 4
  · exact blind_hexEscape token 8
  · exact blind_namedEscape

theorem blind_badEscape (token : List Char) : Blind (badEscape token : Parse α) :=
  blind_failBefore _ _

theorem blind_octalTooLarge (text : List Char) : Blind (octalTooLarge text : Parse α) :=
  blind_failBefore _ _

theorem blind_setEscape (flags : Flags) (c : Char) : Blind (setEscape flags c) := by
  unfold setEscape
  dsimp only
  split
  · exact blind_pure _
  split
  · exact blind_pure _
  split
  · next read hread => exact (blind_commonEscape hread).bind fun _ => blind_pure _
  split
  · exact (blind_takeWhile _ 2).bind fun _ => .check (blind_octalTooLarge _) (blind_pure _)
  · exact .check (blind_badEscape _) (blind_pure _)

set_option linter.auxLemma false in
/-- A member of a set is an escape, or a point that does not depend on the flags. -/
theorem setMember_cases (token : List Char) :
    (∃ c, ∀ flags, setMember flags token = setEscape flags c) ∨
      ∃ n, ∀ flags, setMember flags token = pure (.point n) := by
  rcases token with _ | ⟨c, rest⟩
  · exact .inr ⟨0, fun _ => rfl⟩
  by_cases hc : c = '\\'
  · subst hc
    rcases rest with _ | ⟨d, _ | ⟨e, rest⟩⟩
    · exact .inr ⟨_, fun _ => rfl⟩
    · exact .inl ⟨d, fun _ => rfl⟩
    · exact .inr ⟨0, fun _ => rfl⟩
  · -- `split` finds no equations for the overlapping patterns, so the match is opened by hand.
    rcases rest with _ | ⟨d, rest⟩
    · refine .inr ⟨c.toNat, fun _ => ?_⟩
      delta setMember setMember.match_1
      exact dif_neg hc
    · refine .inr ⟨0, fun _ => ?_⟩
      delta setMember setMember.match_1
      exact dif_neg hc

theorem blind_setMember (flags : Flags) (token : List Char) : Blind (setMember flags token) := by
  rcases setMember_cases token with ⟨c, h⟩ | ⟨n, h⟩
  · rw [h]
    exact blind_setEscape flags c
  · rw [h]
    exact blind_pure _

theorem blind_setItems (flags : Flags) (opened : Nat) (items : List Item) (fuel : Nat) :
    Blind (setItems flags opened items fuel) := by
  induction fuel generalizing items with
  | zero => exact blind_failAt _ _
  | succ fuel ih =>
    refine blind_take.bind fun token => .check (blind_failAt _ _) ?_
    split
    · exact blind_pure items
    refine (blind_setMember flags token).bind fun low => (blind_accept '-').bind fun ranged => ?_
    split
    · refine blind_take.bind fun other => .check (blind_failAt _ _) ?_
      split
      · exact blind_pure _
      refine (blind_setMember flags other).bind fun high => ?_
      dsimp only
      split
      · exact .check (blind_failBefore _ _) (ih _)
      · exact blind_failBefore _ _
    · exact ih _

/-- The members of a set do not depend on whether letter case is ignored. -/
theorem setItems_congr {f g : Flags} (h : f.bare = g.bare) (opened : Nat) (items : List Item)
    (fuel : Nat) : setItems f opened items fuel = setItems g opened items fuel := by
  have hescape : ∀ c, setEscape f c = setEscape g c := fun c => by
    simp only [setEscape, (Flags.eq_of_bare h).2.2.2.1]
  have hmember : ∀ token, setMember f token = setMember g token := fun token => by
    rcases setMember_cases token with ⟨c, hc⟩ | ⟨n, hn⟩
    · rw [hc, hc, hescape]
    · rw [hn, hn]
  induction fuel generalizing items with
  | zero => rfl
  | succ fuel ih => simp only [setItems, hmember, ih]

theorem agree_bracket {f g : Flags} (h : f.bare = g.bare) :
    Agree Part.bare (bracket f) (bracket g) := by
  refine blind_left.agree fun opened => (blind_accept '^').agree fun negated => ?_
  rw [setItems_congr h]
  exact (blind_setItems g _ [] _).agree fun items => agree_pure
    (congrArg (fun t => Part.plain (.one t)) (setTest_bare negated items))

theorem blind_roundCount (digits : List Char) : Blind (roundCount digits) :=
  .check (agree_throw _) (.check (agree_throw _) (blind_pure _))

theorem blind_braces : Blind braces := by
  refine blind_get (fun c d h => by rw [rest_eq h]) fun c => blind_peek.bind fun token => ?_
  have hclose : ∀ low high : List Char, Blind (do
      unless ← accept '\x7d' do
        moveTo c.rest
        return none
      let least ← if low.isEmpty then pure 0 else roundCount low
      if high.isEmpty then return some (least, none)
      let most ← roundCount high
      if most < least then failAt .repeatOrder c.rest.length
      return some (least, some most)) := by
    refine fun low high => (blind_accept _).bind fun closed => ?_
    split
    · refine .either (blind_pure 0) (blind_roundCount low) fun least => ?_
      split
      · exact blind_pure _
      · exact (blind_roundCount high).bind fun most => .check (blind_failAt _ _) (blind_pure _)
    · exact (blind_moveTo _).bind fun _ => blind_pure none
  split
  · exact blind_pure none
  · exact (blind_takeWhile _ _).bind fun low => (blind_accept ',').bind fun comma =>
      .either (blind_takeWhile _ _) (blind_pure low) (hclose low)

theorem blind_bounds (c : Char) : Blind (bounds? c) := by
  unfold bounds?
  split
  · exact blind_pure _
  · exact blind_pure _
  · exact blind_pure _
  · exact blind_braces

theorem blind_flagOf (missing : Problem) (token : List Char) : Blind (flagOf missing token) := by
  unfold flagOf
  split
  · exact blind_failHere missing
  · split
    · exact blind_pure _
    · exact blind_failBefore _ 1
  · exact blind_failBefore missing _

theorem blind_flagsOn (on : Flags) (c : Char) (fuel : Nat) : Blind (flagsOn on c fuel) := by
  induction fuel generalizing on c with
  | zero => exact blind_failHere _
  | succ fuel ih =>
    refine .check (blind_failHere _) ((blind_flagOf _ _).bind fun flag => ?_)
    refine .check (blind_failHere _) (blind_take.bind fun token => ?_)
    split
    · exact blind_pure _
    · exact blind_pure _
    · exact blind_pure _
    · exact (blind_discard (blind_flagOf _ _)).bind fun _ => ih _ _

theorem blind_flagsOff (off : Flags) (token : List Char) (missing : Problem) (fuel : Nat) :
    Blind (flagsOff off token missing fuel) := by
  induction fuel generalizing off token missing with
  | zero => exact blind_failHere _
  | succ fuel ih =>
    refine (blind_flagOf _ _).bind fun flag => .check (blind_failHere _) ?_
    refine blind_take.bind fun token => ?_
    split
    · exact blind_pure _
    · exact ih _ _ _

theorem blind_flagGroup (c : Char) : Blind (flagGroup c) := by
  refine blind_left.bind fun fuel => .either (blind_pure _) (blind_flagsOn _ _ _) ?_
  rintro ⟨on, mark⟩
  dsimp only
  split
  · exact blind_pure _
  refine .check (blind_failBefore _ 1) ?_
  have hscoped : ∀ off : Flags, Blind (do
      if off.template then failBefore .globalFlagOff 1
      if on.overlap off then failBefore .flagOnAndOff 1
      return FlagGroup.scoped on off) :=
    fun off => .check (blind_failBefore _ 1) (.check (blind_failBefore _ 1) (blind_pure _))
  split
  · exact blind_take.bind fun token => (blind_flagsOff _ _ _ _).bind hscoped
  · exact (blind_pure _).bind hscoped

theorem agree_set {c d : Cursor} (h : c.bare = d.bare) :
    Agree id (set c : Parse PUnit) (set d) := fun _ _ _ => congrArg (fun e => Except.ok ((), e)) h

theorem blind_checkLookBehind (n : Nat) : Blind (checkLookBehind n) := by
  refine blind_get (fun c d h => ?_) fun c => ?_
  · obtain ⟨-, hwidths, -, hlook, -, -⟩ := Cursor.bare_eq_iff.mp h
    simp only [checkGroup, hwidths, hlook]
    rfl
  · split
    · refine .checkNot (blind_failHere _) ?_
      split
      · exact blind_failHere _
      · exact blind_pure ()
    · exact blind_pure ()

theorem blind_openGroup (name : Option (List Char)) : Blind (openGroup name) := by
  refine agree_get fun c d h => ?_
  obtain ⟨hrest, hwidths, hnames, hlook, hasked, hflags⟩ := Cursor.bare_eq_iff.mp h
  cases name with
  | none =>
    rw [hwidths]
    refine Agree.bind (agree_set ?_) fun _ _ _ => blind_pure _
    exact Cursor.bare_eq_iff.mpr ⟨hrest, rfl, hnames, hlook, hasked, hflags⟩
  | some name =>
    dsimp only
    rw [hwidths, hnames]
    cases d.names.find? fun e => e.1 = name with
    | none =>
      refine Agree.bind (agree_set ?_) fun _ _ _ => blind_pure _
      exact Cursor.bare_eq_iff.mpr ⟨hrest, rfl, rfl, hlook, hasked, hflags⟩
    | some earlier =>
      refine (blind_failBefore (α := Unit) _ _).agree fun _ =>
        Agree.bind (agree_set ?_) fun _ _ _ => blind_pure _
      exact Cursor.bare_eq_iff.mpr ⟨hrest, rfl, rfl, hlook, hasked, hflags⟩

theorem blind_closeGroup (n : Nat) (e : Expr) : Blind (closeGroup n e) :=
  agree_modify fun c d h => by
    obtain ⟨hrest, hwidths, hnames, hlook, hasked, hflags⟩ := Cursor.bare_eq_iff.mp h
    exact Cursor.bare_eq_iff.mpr ⟨hrest, by rw [hwidths], hnames, hlook, hasked, hflags⟩

theorem blind_checkName (name : List Char) : Blind (checkName name) := by
  unfold checkName
  split
  · exact blind_pure ()
  · exact blind_failBefore _ _

theorem blind_groupNamed (name : List Char) : Blind (groupNamed name) := by
  refine blind_get (fun c d h => ?_) fun c => ?_
  · rw [(Cursor.bare_eq_iff.mp h).2.2.1]
  · split
    · exact blind_pure _
    · exact blind_failBefore _ _

theorem blind_conditionGroup : Blind conditionGroup := by
  refine (blind_nameUntil _ _).bind fun name => ?_
  have hlook : ∀ n, Blind (do checkLookBehind n; return n) := fun n =>
    (blind_checkLookBehind n).bind fun _ => blind_pure n
  dsimp only
  split
  · exact (blind_groupNamed name).bind hlook
  · split
    · refine .check (blind_failBefore _ _) (.check (blind_failBefore _ _) ?_)
      refine Blind.bind (agree_modify fun c d h => ?_) fun _ => (blind_pure _).bind hlook
      obtain ⟨hrest, hwidths, hnames, hlook, hasked, hflags⟩ := Cursor.bare_eq_iff.mp h
      rw [hasked, hrest]
      split
      · exact h
      · exact Cursor.bare_eq_iff.mpr ⟨rfl, hwidths, hnames, hlook, rfl, hflags⟩
    · exact (blind_failBefore _ _).bind hlook

theorem blind_skipComment (opened fuel : Nat) : Blind (skipComment opened fuel) := by
  induction fuel with
  | zero => exact blind_failAt _ _
  | succ fuel ih =>
    refine blind_peek.bind fun token => .check (blind_failAt _ _) ?_
    refine blind_take.bind fun token => ?_
    split
    · exact blind_pure ()
    · exact ih

theorem blind_skipLine (fuel : Nat) : Blind (skipLine fuel) := by
  induction fuel with
  | zero => exact blind_pure ()
  | succ fuel ih =>
    refine blind_take.bind fun token => ?_
    split
    · exact blind_pure ()
    · exact ih

theorem blind_unknownExtension (before token : List Char) :
    Blind (unknownExtension before token : Parse α) :=
  blind_failBefore _ _

theorem blind_openingP : Blind openingP := by
  refine (blind_accept '<').bind fun named => ?_
  split
  · exact (blind_nameUntil _ _).bind fun name => (blind_checkName name).bind fun _ => blind_pure _
  refine (blind_accept '=').bind fun referring => ?_
  split
  · refine (blind_nameUntil _ _).bind fun name => (blind_checkName name).bind fun _ =>
      (blind_groupNamed name).bind fun n => blind_get (fun c d h => ?_) fun c =>
        .checkNot (blind_failBefore _ _) (blind_pure _)
    simp only [checkGroup_eq h]
  · exact blind_take.bind fun token => .check (blind_failHere _) (blind_unknownExtension _ token)

theorem blind_opening (opened : Nat) : Blind (opening opened) := by
  refine (blind_accept '?').bind fun extended => ?_
  split
  · refine blind_take.bind fun token => ?_
    split
    · exact blind_failHere _
    · exact blind_openingP
    · exact blind_pure _
    · exact blind_left.bind fun _ => (blind_skipComment opened _).bind fun _ => blind_pure _
    · exact blind_pure _
    · exact blind_pure _
    · refine blind_take.bind fun other => ?_
      split
      · exact blind_failHere _
      · exact blind_pure _
      · exact blind_pure _
      · exact blind_unknownExtension _ _
    · exact blind_conditionGroup.bind fun n => blind_pure _
    · exact blind_pure _
    · split
      · refine (blind_flagGroup _).bind fun group => ?_
        split
        · exact blind_pure _
        · exact blind_pure _
      · exact blind_unknownExtension _ _
    · exact blind_unknownExtension _ _
  · exact blind_pure _

theorem blind_closing (opened : Nat) : Blind (closing opened) := by
  refine (blind_accept ')').bind fun closed => ?_
  split
  · exact blind_pure ()
  · exact blind_failAt _ _

end Readers

end Detour.Regex
