import Detour.Proofs.Pattern.Blind

/-!
# Expressions read with and without regard to letter case

The flags at hand come into an expression only by how letters are compared, and letter case does not
come into what is checked of it. So a pattern is refused under both sets of flags for the same
fault, or denotes the same expression but for the letters (`parse_agrees`).
-/
namespace Detour.Regex
open Text

variable {f g : Flags} {parts parts' : List Part}

theorem agree_backReference (n : Nat) :
    Agree Part.bare (backReference f n) (backReference g n) := by
  refine (blind_checkLookBehind n).agree fun _ => agree_get fun c d h => ?_
  rw [(Cursor.bare_eq_iff.mp h).2.1]
  exact agree_pure rfl

theorem agree_literal (n : Nat) : Agree Part.bare (pure (.plain (.one (literal f n))) : Parse Part)
    (pure (.plain (.one (literal g n)))) :=
  agree_pure (congrArg (fun t => Part.plain (.one t)) (literal_bare n))

theorem agree_numberEscape (c : Char) : Agree Part.bare (numberEscape f c) (numberEscape g c) := by
  refine (blind_takeWhile _ 1).agree fun second => ?_
  refine agree_ite (fun _ => (blind_takeWhile _ 1).agree fun third => agree_ite
    (fun _ => .check (blind_octalTooLarge _) (agree_literal _)) fun _ => ?_) fun _ => ?_
  all_goals
    refine agree_get fun cursor cursor' h => ?_
    rw [(Cursor.bare_eq_iff.mp h).2.1, checkGroup_eq h]
    exact agree_ite (fun _ => .checkNot (blind_failBefore _ _) (agree_backReference _)) fun _ =>
      (blind_failBefore _ _).seen _

theorem agree_escape (h : f.bare = g.bare) (c : Char) :
    Agree Part.bare (escape f c) (escape g c) := by
  unfold escape
  dsimp only
  rw [(Flags.eq_of_bare h).2.2.2.1]
  cases placeEscape? g.ascii c with
  | some p => exact agree_pure rfl
  | none =>
  cases kindEscape? g.ascii c with
  | some i => exact agree_pure rfl
  | none =>
  cases controlEscape? c with
  | some n => exact agree_literal n
  | none =>
  dsimp only
  cases hread : commonEscape? ['\\', c] c with
  | some read => exact (blind_commonEscape hread).agree fun n => agree_literal n
  | none =>
  refine agree_ite (fun _ => (blind_takeWhile _ 2).agree fun digits => agree_literal _) fun _ => ?_
  refine agree_ite (fun _ => agree_numberEscape c) fun _ => ?_
  exact .check (blind_badEscape _) (agree_literal _)

theorem agree_repeatLatest (h : parts.map Part.bare = parts'.map Part.bare) (sign low : Nat)
    (high : Option Nat) : Agree (List.map Part.bare) (repeatLatest sign low high parts)
      (repeatLatest sign low high parts') := by
  cases parts with
  | nil =>
    obtain rfl : parts' = [] := by simpa using h.symm
    exact (blind_failAt _ _).seen _
  | cons p rest =>
    cases parts' with
    | nil => simp at h
    | cons p' rest' =>
      obtain ⟨hp, hrest⟩ := List.cons.inj h
      have hgreed : ∀ (greed : Greed) (e e' : Expr), e.bare = e'.bare →
          Agree (List.map Part.bare) (pure (.repeated (.repeated greed low high e) :: rest))
            (pure (.repeated (.repeated greed low high e') :: rest')) := fun greed e e' he =>
        agree_pure (by simp only [List.map_cons, Part.bare, Expr.bare, he, hrest])
      cases p with
      | place q =>
        cases p' with
        | place q' => exact (blind_failAt _ _).seen _
        | plain e | repeated e => cases hp
      | repeated e =>
        cases p' with
        | repeated e' => exact (blind_failAt _ _).seen _
        | plain e' | place q => cases hp
      | plain e =>
        cases p' with
        | repeated e' | place q => cases hp
        | plain e' =>
          have he : e.bare = e'.bare := Part.plain.inj hp
          refine (blind_accept '?').agree fun lazy =>
            agree_ite (fun _ => hgreed _ e e' he) fun _ => ?_
          refine (blind_accept '+').agree fun possessive => ?_
          exact agree_ite (fun _ => hgreed _ e e' he) fun _ => hgreed _ e e' he

theorem blind_turnOn (on : Flags) :
    Blind (modify fun c : Cursor => { c with flags := c.flags.union on }) :=
  agree_modify fun c d h => by
    obtain ⟨hrest, hwidths, hnames, hlook, hasked, hflags⟩ := Cursor.bare_eq_iff.mp h
    exact Cursor.bare_eq_iff.mpr
      ⟨hrest, hwidths, hnames, hlook, hasked, Flags.union_congr hflags on⟩

theorem blind_enterLookBehind :
    Blind (modify fun c : Cursor => { c with lookBehind := some c.widths.length }) :=
  agree_modify fun c d h => by
    obtain ⟨hrest, hwidths, hnames, hlook, hasked, hflags⟩ := Cursor.bare_eq_iff.mp h
    exact Cursor.bare_eq_iff.mpr ⟨hrest, hwidths, hnames, by rw [hwidths], hasked, hflags⟩

theorem blind_leaveLookBehind : Blind (modify fun c : Cursor => { c with lookBehind := none }) :=
  agree_modify fun c d h => by
    obtain ⟨hrest, hwidths, hnames, -, hasked, hflags⟩ := Cursor.bare_eq_iff.mp h
    exact Cursor.bare_eq_iff.mpr ⟨hrest, hwidths, hnames, rfl, hasked, hflags⟩

/-- With so many steps left, expressions and sequences are read alike. -/
structure ReadAlike (fuel : Nat) : Prop where
  alternatives : ∀ {f g : Flags}, f.bare = g.bare → ∀ top first,
    Agree Expr.bare (alternatives top f first fuel) (alternatives top g first fuel)
  sequence : ∀ {f g : Flags}, f.bare = g.bare → ∀ top first {parts parts' : List Part},
    parts.map Part.bare = parts'.map Part.bare →
      Agree Expr.bare (sequence top f first parts fuel) (sequence top g first parts' fuel)

variable {fuel : Nat}

theorem agree_joined (h : parts.map Part.bare = parts'.map Part.bare) :
    Agree Expr.bare (pure (joined parts)) (pure (joined parts')) :=
  agree_pure (by rw [joined_bare, h, ← joined_bare])

theorem readAlike_zero : ReadAlike 0 where
  alternatives _ _ _ := agree_pure rfl
  sequence _ _ _ _ _ h := agree_joined h

theorem agree_alternatives_succ (ih : ReadAlike fuel) (h : f.bare = g.bare) (top first : Bool) :
    Agree Expr.bare (alternatives top f first (fuel + 1))
      (alternatives top g first (fuel + 1)) := by
  unfold alternatives
  refine (ih.sequence h top first rfl).bind fun e e' he => (blind_accept '|').agree fun more => ?_
  refine agree_ite (fun _ => agree_get fun c d hcd => ?_) fun _ => agree_pure he
  have hflags : (if top then c.flags else f).bare = (if top then d.flags else g).bare := by
    cases top
    · exact h
    · exact (Cursor.bare_eq_iff.mp hcd).2.2.2.2.2
  refine (ih.alternatives hflags top false).bind fun a a' ha => agree_pure ?_
  rw [Expr.bare, he, ha, Expr.bare]

/-- What follows an opening bracket is read alike. -/
theorem agree_sequence_succ (ih : ReadAlike fuel) (h : f.bare = g.bare) (top first : Bool)
    (hparts : parts.map Part.bare = parts'.map Part.bare) :
    Agree Expr.bare (sequence top f first parts (fuel + 1))
      (sequence top g first parts' (fuel + 1)) := by
  obtain ⟨hmultiline, hdotAll, hverbose, -, -, -⟩ := Flags.eq_of_bare h
  have hgo : ∀ {p p' : Part}, p.bare = p'.bare →
      Agree Expr.bare (sequence top f first (p :: parts) fuel)
        (sequence top g first (p' :: parts') fuel) := fun hp =>
    ih.sequence h top first (by rw [List.map_cons, List.map_cons, hp, hparts])
  have hplain : ∀ {e e' : Expr}, e.bare = e'.bare →
      Agree Expr.bare (sequence top f first (.plain e :: parts) fuel)
        (sequence top g first (.plain e' :: parts') fuel) := fun he => hgo (congrArg Part.plain he)
  have hliteral : ∀ n, Agree Expr.bare
      (sequence top f first (.plain (.one (literal f n)) :: parts) fuel)
      (sequence top g first (.plain (.one (literal g n)) :: parts') fuel) := fun n =>
    hplain (congrArg Expr.one (literal_bare n))
  have hon := ih.sequence h top first hparts
  unfold sequence
  refine blind_peek.agree fun token => ?_
  rw [hmultiline, hdotAll, hverbose]
  split
  · exact agree_joined hparts
  · refine agree_ite (fun _ => agree_joined hparts) fun _ => ?_
    refine (blind_discard blind_take).agree fun _ => ?_
    refine agree_ite (fun _ => hon) fun _ => ?_
    refine agree_ite (fun _ => blind_left.agree fun _ => (blind_skipLine _).agree fun _ => hon)
      fun _ => ?_
    refine agree_ite (fun _ => (agree_bracket h).bind fun p p' hp => hgo hp) fun _ => ?_
    refine agree_ite (fun _ => blind_left.agree fun _ => (blind_bounds _).agree fun bounds => ?_)
      fun _ => ?_
    · cases bounds with
      | none => exact hliteral _
      | some bounds =>
        exact (agree_repeatLatest hparts _ _ _).bind fun l l' hl => ih.sequence h top first hl
    refine agree_ite (fun _ => hgo rfl) fun _ => agree_ite (fun _ => hgo rfl) fun _ =>
      agree_ite (fun _ => hgo rfl) fun _ => agree_ite (fun _ => ?_) fun _ => hliteral _
    refine blind_left.agree fun left => (blind_opening _).agree fun opening => ?_
    cases opening with
    | comment => exact hon
    | flags on =>
      have hempty : parts.isEmpty = parts'.isEmpty := by
        simpa using congrArg List.isEmpty hparts
      dsimp only
      rw [hempty]
      refine .checkNot (blind_failAt _ _) (Agree.bind (blind_turnOn on) fun _ _ _ => ?_)
      exact agree_get fun c d hcd =>
        ih.sequence (Cursor.bare_eq_iff.mp hcd).2.2.2.2.2 top first hparts
    | reference n => exact (agree_backReference n).bind fun p p' hp => hgo hp
    | look behind negated =>
      refine agree_get fun c d hcd => ?_
      dsimp only
      rw [(Cursor.bare_eq_iff.mp hcd).2.2.2.1]
      refine .check blind_enterLookBehind ?_
      refine (ih.alternatives h false false).bind fun e e' he => .check blind_leaveLookBehind ?_
      refine (blind_closing _).agree fun _ => hplain ?_
      cases behind
      · exact congrArg (Expr.ahead negated) he
      · exact congrArg (Expr.behind negated) he
    | condition n =>
      refine (ih.sequence h false false rfl).bind fun yes yes' hyes => ?_
      refine (blind_accept '|').agree fun more => ?_
      have hclose : ∀ no no' : Expr, no.bare = no'.bare → Agree Expr.bare
          (closing (left + 1) >>= fun _ =>
            sequence top f first (.plain (.ifGroup n yes no) :: parts) fuel)
          (closing (left + 1) >>= fun _ =>
            sequence top g first (.plain (.ifGroup n yes' no') :: parts') fuel) :=
        fun no no' hno => (blind_closing _).agree fun _ =>
          hplain (by rw [Expr.bare, hyes, hno, Expr.bare])
      refine agree_ite (fun _ => ?_) fun _ => hclose _ _ rfl
      refine (ih.sequence h false false rfl).bind fun no no' hno => blind_peek.agree fun token => ?_
      exact .check (blind_failHere _) (hclose no no' hno)
    | atomic =>
      exact (ih.alternatives h false false).bind fun e e' he => (blind_closing _).agree fun _ =>
        hplain (congrArg Expr.atomic he)
    | capture name =>
      refine (blind_openGroup name).agree fun n =>
        (ih.alternatives h false false).bind fun e e' he =>
        (blind_closing _).agree fun _ => ?_
      rw [closeGroup, closeGroup, ← e.width_bare, he, e'.width_bare]
      exact (blind_closeGroup n e').agree fun _ => hplain (congrArg (Expr.group n) he)
    | _ on off =>
      exact (ih.alternatives (Flags.within_congr h on off) false false).bind fun e e' he =>
        (blind_closing _).agree fun _ => hplain he
  · exact (blind_discard blind_take).agree fun _ => (agree_escape h _).bind fun p p' hp => hgo hp
  · exact agree_joined hparts

theorem readAlike (fuel : Nat) : ReadAlike fuel := by
  induction fuel with
  | zero => exact readAlike_zero
  | succ fuel ih =>
    exact ⟨fun h top first => agree_alternatives_succ ih h top first,
      fun h top first _ _ hparts => agree_sequence_succ ih h top first hparts⟩

theorem agree_wholePattern : Agree Expr.bare wholePattern wholePattern := by
  refine agree_get fun c d h => ?_
  rw [rest_eq h]
  refine (blind_moveTo _).agree fun _ => agree_get fun c d h => blind_left.agree fun left => ?_
  refine ((readAlike _).alternatives (Cursor.bare_eq_iff.mp h).2.2.2.2.2 true true).bind
    fun e e' he => agree_get fun c d h => ?_
  obtain ⟨hrest, hwidths, hnames, hlook, hasked, hflags⟩ := Cursor.bare_eq_iff.mp h
  obtain ⟨-, -, -, hascii, hunicode, htemplate⟩ := Flags.eq_of_bare hflags
  dsimp only
  rw [hrest, hwidths, hasked, hascii, hunicode, htemplate, ← e.fault?_bare, he, e'.fault?_bare]
  refine .check (agree_throw _) (.checkNot (blind_failHere _) ?_)
  cases d.asked.find? fun asked => d.widths.length < asked.1 with
  | some asked =>
    refine (blind_failAt (α := Unit) _ _).agree fun _ => ?_
    cases e'.fault? d.flags.template with
    | some p => exact agree_throw _
    | none => exact agree_pure he
  | none =>
    cases e'.fault? d.flags.template with
    | some p => exact agree_throw _
    | none => exact agree_pure he

/-- A pattern is refused for the same fault whether or not letter case is ignored, or denotes the
same expression but for the letters. -/
theorem parse_agrees (h : f.bare = g.bare) (pattern : List Char) :
    (parse f pattern).map Expr.bare = (parse g pattern).map Expr.bare := by
  have hcursor : (⟨pattern, [], [], none, [], f⟩ : Cursor).bare =
      (⟨pattern, [], [], none, [], g⟩ : Cursor).bare :=
    Cursor.bare_eq_iff.mpr ⟨rfl, rfl, rfl, rfl, rfl, h⟩
  have hview : ∀ r : Except Fault (Expr × Cursor), (r.map (·.1)).map Expr.bare =
      (r.map fun x => (x.1.bare, x.2.bare)).map (·.1) := fun r => by cases r <;> rfl
  rw [parse, parse, hview, hview]
  exact congrArg (Except.map (·.1)) (agree_wholePattern _ _ hcursor)

end Detour.Regex
