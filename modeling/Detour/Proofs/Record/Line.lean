import Detour.Engine.Run
import Detour.Proofs.Rule.Selection
import Mathlib.Algebra.Order.Field.Rat
import Mathlib.Data.Rat.Lemmas
import Mathlib.Tactic.Linarith
import Mathlib.Tactic.NormNum

/-!
# What the lines of a record say

A line is skipped (`Line.Skipped`), or it tells of one event or wait (`Line.Tells`), or it is invalid
(`Line.Invalid`); what a whole record tells of, up to the first invalid line, is `Recounts`. Where the
lengths of waits are within the range of floating-point numbers (`Line.Measured`), a line is read as
what it is, and every wait ends (`Line.pause_of_tells`).
-/
namespace Detour

open Value (field?)

/-- A finite number within the range of floating-point numbers. -/
def Value.InRange (v : Value) : Prop := ∃ q, v.toRat? = some q ∧ -2 ^ 1024 < q ∧ q < 2 ^ 1024

def Value.IsNumber (v : Value) : Prop := (∃ n, v.toInt? = some n) ∨ ∃ x, v = .float x

theorem Value.isNumber_of_toRat? {v : Value} {q : Rat} (h : v.toRat? = some q) : v.IsNumber := by
  cases v with
  | float x => exact .inr ⟨x, rfl⟩
  | int n => exact .inl ⟨n, rfl⟩
  | bool b => exact .inl ⟨_, rfl⟩
  | _ => simp [toRat?, toInt?] at h

instance (v : Value) : Decidable v.InRange :=
  match h : v.toRat? with
  | none => .isFalse fun ⟨_, hq, _⟩ => by simp [h] at hq
  | some q => decidable_of_iff (-2 ^ 1024 < q ∧ q < 2 ^ 1024)
    ⟨fun hrange => ⟨q, h, hrange⟩, fun ⟨_, hq, hrange⟩ => Option.some.inj (h.symm.trans hq) ▸ hrange⟩

def Value.isNumber : Value → Bool
  | .int _ | .bool _ | .float _ => true
  | _ => false

theorem Value.isNumber_iff {v : Value} : v.isNumber = true ↔ v.IsNumber := by
  cases v <;> simp [isNumber, IsNumber, toInt?]

theorem Id.ofValue?_eq_some_iff {v : Value} {i : Id} : Id.ofValue? v = some i ↔ v = i.toValue := by
  constructor
  · intro h
    cases v <;> simp only [Id.ofValue?, Option.some.injEq, reduceCtorEq] at h
    all_goals
      subst h
      rfl
  · rintro rfl
    cases i <;> rfl

namespace Command

theorem isWait_of_toRat? {v : Value} {q : Rat} (h : v.toRat? = some q) :
    isWait v = decide (0 ≤ q) := by
  cases v with
  | float x => cases x <;> simp_all [isWait, Value.toRat?, Binary64.toRat?]
  | _ => simp_all [isWait]

theorem isNumber_of_isWait {v : Value} (h : isWait v = true) : v.IsNumber := by
  cases v with
  | float x => exact .inr ⟨x, rfl⟩
  | int n => exact .inl ⟨n, rfl⟩
  | bool b => exact .inl ⟨_, rfl⟩
  | _ => simp [isWait, Value.toRat?, Value.toInt?] at h

end Command

namespace Line

def Skipped (line : String) : Prop :=
  Text.trim line.toList = [] ∨ (Text.trim line.toList).head? = some '#'

def Holds (line : String) (entries : List (Value × Value)) : Prop :=
  Json.read (String.ofList (Text.trim line.toList)) = .ok (.map entries)

/-- What the entries of an object say. -/
inductive Says (entries : List (Value × Value)) : Command → Prop
  | navigation (n : Navigation) (kind : field? "event" entries = some (.str "navigation"))
    (tab : field? "tabId" entries = some n.tab.toValue)
    (url : field? "url" entries = some (.str n.url))
    (frame : field? "frameId" entries = some n.frame.toValue ∨
      field? "frameId" entries = none ∧ n.frame = Navigation.mainFrame) :
    Says entries (.navigation n)
  | removed (tab : Id) (kind : field? "event" entries = some (.str "removed"))
    (given : field? "tabId" entries = some tab.toValue) : Says entries (.removed tab)
  | wait (ms : Value) (q : Rat) (kind : field? "event" entries = some (.str "wait"))
    (given : field? "ms" entries = some ms ∨ field? "ms" entries = none ∧ ms = .int 0)
    (number : ms.toRat? = some q) (nonneg : 0 ≤ q) : Says entries (.wait ms)

/-- The line is an object that says so. -/
def Tells (line : String) (c : Command) : Prop :=
  ¬ Skipped line ∧ ∃ entries, Holds line entries ∧ Says entries c

def Invalid (line : String) : Prop := ¬ Skipped line ∧ ∀ c, ¬ Tells line c

/-- The length of a wait, if that is a number at all, is finite and in range. -/
def Timed (entries : List (Value × Value)) : Prop :=
  field? "event" entries = some (.str "wait") →
    ∀ ms, field? "ms" entries = some ms → ms.IsNumber → ms.InRange

/-- So it is in the line, if that is an object. -/
def Measured (line : String) : Prop := ∀ entries, Holds line entries → Timed entries

variable {line : String} {c : Command} {entries : List (Value × Value)}

def isTimed (entries : List (Value × Value)) : Bool :=
  match field? "event" entries, field? "ms" entries with
  | some (.str "wait"), some ms => !ms.isNumber || decide ms.InRange
  | _, _ => true

theorem isTimed_iff : isTimed entries = true ↔ Timed entries := by
  unfold isTimed Timed
  split
  · next ms hevent hms =>
    constructor
    · intro h _ v hv hnumber
      obtain rfl := Option.some.inj (hms.symm.trans hv)
      simpa [Value.isNumber_iff.mpr hnumber] using h
    · intro h
      cases hnumber : ms.isNumber with
      | false => rfl
      | true => simpa using h hevent ms hms (Value.isNumber_iff.mp hnumber)
  · next hother => exact ⟨fun _ hevent ms hms => absurd hms (hother ms hevent), fun _ => rfl⟩

def isMeasured (line : String) : Bool :=
  match Json.read (String.ofList (Text.trim line.toList)) with
  | .ok (.map entries) => isTimed entries
  | _ => true

theorem isMeasured_iff : isMeasured line = true ↔ Measured line := by
  unfold isMeasured Measured Holds
  split
  · next entries hread =>
    rw [isTimed_iff]
    constructor
    · intro h others hothers
      rw [hread] at hothers
      cases hothers
      exact h
    · exact fun h => h entries hread
  · next hother => exact ⟨fun _ entries hread => absurd hread (hother entries), fun _ => rfl⟩

instance : DecidablePred Measured := fun _ => decidable_of_iff _ isMeasured_iff

theorem ofState_navigation_iff {n : Navigation} : Navigation.ofState entries = .ok n ↔
    field? "tabId" entries = some n.tab.toValue ∧ field? "url" entries = some (.str n.url) ∧
      (field? "frameId" entries = some n.frame.toValue ∨
        field? "frameId" entries = none ∧ n.frame = Navigation.mainFrame) := by
  have hframe : ∀ i : Id, Id.ofValue? ((field? "frameId" entries).getD Navigation.mainFrame.toValue) =
      some i ↔ field? "frameId" entries = some i.toValue ∨
        field? "frameId" entries = none ∧ i = Navigation.mainFrame := by
    intro i
    rw [Id.ofValue?_eq_some_iff]
    cases field? "frameId" entries with
    | some v => simp
    | none => cases i <;> simp [Id.toValue, Navigation.mainFrame, eq_comm]
  rw [← hframe]
  unfold Navigation.ofState
  cases htab : field? "tabId" entries with
  | none => simp
  | some tab =>
    cases hurl : field? "url" entries with
    | none => simp
    | some url =>
      generalize (field? "frameId" entries).getD Navigation.mainFrame.toValue = frame
      simp only [Option.some.injEq, ← Id.ofValue?_eq_some_iff]
      obtain ⟨ntab, nurl, nframe⟩ := n
      cases Id.ofValue? tab with
      | none => simp [throw, throwThe, MonadExceptOf.throw]
      | some i =>
        cases Id.ofValue? frame with
        | none => simp [throw, throwThe, MonadExceptOf.throw]
        | some j => cases url <;> simp [throw, throwThe, MonadExceptOf.throw, pure, Except.pure]

theorem field?_eq_of_getD {name text : String}
    (h : (field? name entries).getD .null = .str text) : field? name entries = some (.str text) := by
  cases hfield : field? name entries with
  | none =>
    rw [hfield] at h
    cases h
  | some v =>
    rw [hfield] at h
    exact congrArg some h

/-- A wait is told of if its length is a number that is not negative. -/
theorem says_of_isWait (htimed : Timed entries)
    (kind : field? "event" entries = some (.str "wait"))
    (h : Command.isWait ((field? "ms" entries).getD (.int 0)) = true) :
    Says entries (.wait ((field? "ms" entries).getD (.int 0))) := by
  cases hms : field? "ms" entries with
  | none => exact .wait (.int 0) 0 kind (.inr ⟨hms, rfl⟩) rfl le_rfl
  | some ms =>
    rw [hms, Option.getD_some] at h
    obtain ⟨q, hq, -⟩ := htimed kind ms hms (Command.isNumber_of_isWait h)
    rw [Command.isWait_of_toRat? hq] at h
    exact .wait ms q kind (.inl hms) hq (of_decide_eq_true h)

/-- An object is read as what its entries say. -/
theorem ofState_iff (htimed : Timed entries) : Command.ofState entries = .ok c ↔ Says entries c := by
  constructor
  · intro h
    unfold Command.ofState at h
    split at h
    case h_1 hkind =>
      cases hn : Navigation.ofState entries with
      | error f =>
        rw [hn] at h
        cases h
      | ok n =>
        rw [hn] at h
        cases h
        obtain ⟨tab, url, frame⟩ := ofState_navigation_iff.mp hn
        exact .navigation n (field?_eq_of_getD hkind) tab url frame
    case h_2 hkind =>
      cases htab : (field? "tabId" entries).bind Id.ofValue? with
      | none =>
        rw [htab] at h
        cases h
      | some tab =>
        rw [htab] at h
        cases h
        obtain ⟨v, hv, hid⟩ := Option.bind_eq_some_iff.mp htab
        obtain rfl := Id.ofValue?_eq_some_iff.mp hid
        exact .removed tab (field?_eq_of_getD hkind) hv
    case h_3 hkind =>
      dsimp only at h
      split at h
      · next hwait =>
        cases h
        exact says_of_isWait htimed (field?_eq_of_getD hkind) hwait
      · cases h
    case h_4 => cases h
  · intro h
    cases h with
    | navigation n kind tab url frame =>
      have hn := ofState_navigation_iff.mpr ⟨tab, url, frame⟩
      simp [Command.ofState, kind, hn]
    | removed tab kind given =>
      have htab := Id.ofValue?_eq_some_iff.mpr (rfl : tab.toValue = _)
      simp [Command.ofState, kind, given, htab]
    | wait ms q kind given number nonneg =>
      have hwait : Command.isWait ms = true := by
        rw [Command.isWait_of_toRat? number]
        exact decide_eq_true nonneg
      have hms : (field? "ms" entries).getD (.int 0) = ms := by
        rcases given with h | ⟨h, rfl⟩ <;> simp [h]
      simp [Command.ofState, kind, hms, hwait]

theorem ofLine_of_skipped (h : Skipped line) : Command.ofLine line = .ok none := by
  unfold Command.ofLine
  rcases h with h | h
  · rw [h]
  · obtain ⟨cs, hcs⟩ := List.head?_eq_some_iff.mp h
    rw [hcs]
    rfl

theorem ofLine_of_not_skipped (h : ¬ Skipped line) :
    Command.ofLine line = match Json.read (String.ofList (Text.trim line.toList)) with
      | .error message => .error (.syntaxError message)
      | .ok (.map entries) => (Command.ofState entries).map some
      | .ok _ => .error .notObject := by
  unfold Command.ofLine
  split
  · next hnil => exact absurd (.inl hnil) h
  · next hcomment => exact absurd (.inr (by rw [hcomment]; rfl)) h
  · rfl

theorem skipped_or_tells_or_invalid (line : String) :
    Skipped line ∨ (∃ c, Tells line c) ∨ Invalid line := by
  by_cases hskip : Skipped line
  · exact .inl hskip
  · by_cases htells : ∃ c, Tells line c
    · exact .inr (.inl htells)
    · exact .inr (.inr ⟨hskip, not_exists.mp htells⟩)

theorem ofLine_of_tells (h : Measured line) (htells : Tells line c) :
    Command.ofLine line = .ok (some c) := by
  obtain ⟨hskip, entries, hholds, hsays⟩ := htells
  have hstate := (ofState_iff (h entries hholds)).mpr hsays
  have hline := ofLine_of_not_skipped hskip
  rw [hholds] at hline
  dsimp only at hline
  rw [hline, hstate]
  rfl

theorem ofLine_of_invalid (h : Measured line) (hinvalid : Invalid line) :
    ∃ f, Command.ofLine line = .error f := by
  obtain ⟨hskip, htells⟩ := hinvalid
  have hline := ofLine_of_not_skipped hskip
  split at hline
  · exact ⟨_, hline⟩
  · next entries hholds =>
    cases hstate : Command.ofState entries with
    | error f => exact ⟨f, by rw [hline, hstate]; rfl⟩
    | ok c =>
      have hsays := (ofState_iff (h entries hholds)).mp hstate
      exact absurd ⟨hskip, entries, hholds, hsays⟩ (htells c)
  · exact ⟨_, hline⟩

end Line

namespace Binary64

theorem nonneg_of_finite {x : Rat} {m : Nat} {e : Int} (h : (finite false m e).toRat? = some x) :
    0 ≤ x := by
  obtain rfl := Option.some.inj h
  simp only [Bool.false_eq_true, if_false]
  split
  · exact Nat.cast_nonneg _
  · rw [Rat.mkRat_eq_div]
    exact div_nonneg (Nat.cast_nonneg _) (Nat.cast_nonneg _)

theorem exponentOf_le {num den k : Nat} (hnum : num ≠ 0)
    (h : num < 2 ^ (52 + k) * den) : exponentOf num den ≤ k := by
  have hlog : num.log2 < 52 + k + den.log2 + 1 := by
    refine (Nat.log2_lt hnum).mpr (h.trans_le ?_)
    have hlt : den < 2 ^ (den.log2 + 1) := Nat.lt_log2_self
    calc 2 ^ (52 + k) * den ≤ 2 ^ (52 + k) * 2 ^ (den.log2 + 1) :=
          Nat.mul_le_mul_left _ hlt.le
      _ = 2 ^ (52 + k + den.log2 + 1) := (pow_add 2 (52 + k) (den.log2 + 1)).symm
  unfold exponentOf minExponent
  dsimp only
  split <;> omega

variable {k : Nat}

theorem ofRatio_of_lt {num den : Nat} (hk : k ≤ 970)
    (h : num < 2 ^ (52 + k) * den) : ∃ m e, ofRatio false num den = finite false m e := by
  unfold ofRatio
  split
  · exact ⟨0, minExponent, rfl⟩
  · next hnum =>
    have hle := exponentOf_le hnum h
    dsimp only
    rw [if_neg]
    · exact ⟨_, _, rfl⟩
    · unfold maxExponent
      split <;> omega

/-- A number that is well within the range is not rounded to an infinite one. -/
theorem ofRat_of_lt {x : Rat} (hnonneg : 0 ≤ x) (hk : k ≤ 970) (hlt : x < 2 ^ (52 + k)) :
    ∃ m e, ofRat x = finite false m e := by
  have hsign : decide (x < 0) = false := decide_eq_false (not_lt.mpr hnonneg)
  have hnum : ((x.num.natAbs : Nat) : Rat) = x * x.den := by
    rw [Rat.mul_den_eq_num, Nat.cast_natAbs, abs_of_nonneg (Rat.num_nonneg.mpr hnonneg)]
  have hfit : x.num.natAbs < 2 ^ (52 + k) * x.den := by
    have hpos : (0 : Rat) < x.den := Nat.cast_pos.mpr x.den_pos
    have hlt' := mul_lt_mul_of_pos_right hlt hpos
    rw [← hnum] at hlt'
    exact_mod_cast hlt'
  rw [ofRat, hsign]
  exact ofRatio_of_lt hk hfit

end Binary64

theorem Pause.ofMillis_of_inRange {ms : Value} {q : Rat} (h : ms.toRat? = some q) (hnonneg : 0 ≤ q)
    (hrange : q < 2 ^ 1024) : ∃ s, Pause.ofMillis ms = .seconds s ∧ 0 ≤ s := by
  have hquotient : 0 ≤ q / 1000 := div_nonneg hnonneg (by norm_num)
  cases ms with
  | int n =>
    obtain rfl : (n : Rat) = q := Option.some.inj h
    have hlt : (n : Rat) / 1000 < 2 ^ (52 + 970) := by
      have hpower : (0 : Rat) < 2 ^ (52 + 970) := by positivity
      have hsum : 1024 = 52 + 970 + 2 := rfl
      rw [hsum, pow_add] at hrange
      generalize (2 : Rat) ^ (52 + 970) = p at hpower hrange ⊢
      rw [div_lt_iff₀ (by norm_num)]
      linarith
    obtain ⟨m, e, hfinite⟩ := Binary64.ofRat_of_lt hquotient le_rfl hlt
    obtain ⟨s, hs⟩ : ∃ s, (Binary64.finite false m e).toRat? = some s := ⟨_, rfl⟩
    refine ⟨s, ?_, Binary64.nonneg_of_finite hs⟩
    simp only [Pause.ofMillis, hfinite, hs, Option.getD_some]
  | float x =>
    cases x with
    | finite negative m e =>
      refine ⟨q / 1000, ?_, hquotient⟩
      rw [Pause.ofMillis, h, Option.getD_some] <;> simp
    | nan | infinite => cases h
  | bool b =>
    refine ⟨q / 1000, ?_, hquotient⟩
    rw [Pause.ofMillis, h, Option.getD_some] <;> simp
  | _ => simp [Value.toRat?, Value.toInt?] at h

namespace Line

variable {line : String}

/-- A wait that a line tells of ends, and is no shorter than nothing. -/
theorem pause_of_tells {ms : Value} (h : Measured line) (htells : Tells line (.wait ms)) :
    ∃ s, Pause.ofMillis ms = .seconds s ∧ 0 ≤ s := by
  obtain ⟨-, entries, hholds, hsays⟩ := htells
  cases hsays with
  | wait _ q kind given number nonneg =>
    refine Pause.ofMillis_of_inRange number nonneg ?_
    rcases given with given | ⟨-, rfl⟩
    · obtain ⟨q', hq', -, hlt⟩ := h entries hholds kind ms given (Value.isNumber_of_toRat? number)
      obtain rfl := Option.some.inj (number.symm.trans hq')
      exact hlt
    · obtain rfl : (((0 : Int) : Rat)) = q := Option.some.inj number
      positivity

theorem waitOf_of_wait {ms : Value} {s : Rat} (h : Measured line) (htells : Tells line (.wait ms))
    (hs : Pause.ofMillis ms = .seconds s) : Engine.waitOf line = s := by
  unfold Engine.waitOf
  rw [ofLine_of_tells h htells]
  dsimp only
  rw [hs]

theorem waitOf_nonneg (h : Measured line) : 0 ≤ Engine.waitOf line := by
  unfold Engine.waitOf
  rcases skipped_or_tells_or_invalid line with hskip | ⟨c, htells⟩ | hinvalid
  · rw [ofLine_of_skipped hskip]
  · rw [ofLine_of_tells h htells]
    cases c with
    | wait ms =>
      obtain ⟨s, hs, hnonneg⟩ := pause_of_tells h htells
      simpa only [hs] using hnonneg
    | navigation | removed => exact le_rfl
  · obtain ⟨f, hline⟩ := ofLine_of_invalid h hinvalid
    rw [hline]

end Line

theorem Engine.span_nonneg {lines : List String} (h : ∀ line ∈ lines, Line.Measured line) :
    0 ≤ Engine.span lines := by
  induction lines with
  | nil => exact le_rfl
  | cons line rest ih =>
    exact add_nonneg (Line.waitOf_nonneg (h line (by simp))) (ih fun l hl => h l (by simp [hl]))

/-- What the lines of a record tell of up to the first that is invalid, and the number of that, if
there is one. The first line has the number that is given. -/
inductive Recounts : Nat → List String → List Command → Option Nat → Prop
  | ended (number : Nat) : Recounts number [] [] none
  | skipped {number line rest told bad} (h : Line.Skipped line)
    (more : Recounts (number + 1) rest told bad) : Recounts number (line :: rest) told bad
  | told {number line c rest told bad} (h : Line.Tells line c)
    (more : Recounts (number + 1) rest told bad) : Recounts number (line :: rest) (c :: told) bad
  | invalid {number line} (h : Line.Invalid line) (rest : List String) :
    Recounts number (line :: rest) [] (some number)

theorem exists_recounts (number : Nat) (lines : List String) :
    ∃ told bad, Recounts number lines told bad := by
  induction lines generalizing number with
  | nil => exact ⟨[], none, .ended number⟩
  | cons line rest ih =>
    obtain ⟨told, bad, hrest⟩ := ih (number + 1)
    rcases Line.skipped_or_tells_or_invalid line with hskip | ⟨c, htells⟩ | hinvalid
    · exact ⟨told, bad, .skipped hskip hrest⟩
    · exact ⟨c :: told, bad, .told htells hrest⟩
    · exact ⟨[], some number, .invalid hinvalid rest⟩

end Detour
