import PostgresqlK8s.Lib.Run
import Mathlib.Tactic.Common

/-!
# Contest

Two sides contest a title.  Each has a counter of its own and the last value
it has seen of the other's; the higher counter wins, and a side that does not
hold the title by its own view may claim it by counting one past both values
(`claim`).  `see` refreshes a side's view, `join` starts a contest at zero
and `leave` ends it for one side.

Each side names the winner from its own view, where a tie goes to the other
side.  With views that are up to date the two sides name the same winner
exactly when there is no tie above zero (`winner_agree_iff`).  No such tie
ever arises if every claim is made on an up-to-date view
(`inv_step`, `NoTie`), and a claim made on an outdated view always creates
one (`tie_of_outdated_claim`).
-/

namespace Contest

/-- The two sides. -/
inductive Side
  | left
  | right
deriving DecidableEq, Repr

/-- The opponent. -/
def Side.other : Side → Side
  | .left => .right
  | .right => .left

@[simp] theorem Side.other_other (X : Side) : X.other.other = X := by cases X <;> rfl

@[simp] theorem Side.other_ne (X : Side) : X.other ≠ X := by cases X <;> nofun

@[simp] theorem Side.ne_other (X : Side) : X ≠ X.other := by cases X <;> nofun

theorem Side.eq_or_eq_other (X Y : Side) : Y = X ∨ Y = X.other := by
  cases X <;> cases Y <;> simp [other]

theorem Side.forall_iff {P : Side → Prop} : (∀ X, P X) ↔ P .left ∧ P .right := by
  constructor
  · intro h
    exact ⟨h .left, h .right⟩
  · intro h X
    cases X
    · exact h.1
    · exact h.2

instance {P : Side → Prop} [DecidablePred P] : Decidable (∀ X, P X) :=
  decidable_of_iff _ Side.forall_iff.symm

/-- A side in the contest: its counter, and the last one seen of the other. -/
structure Party where
  own : Nat
  seen : Nat
deriving DecidableEq, Repr

/-- The contest; a side that is not in it is `none`. -/
abbrev State := Side → Option Party

/-- What can happen. -/
inductive Op
  | join
  | leave (X : Side)
  | claim (X : Side)
  | see (X : Side)
deriving DecidableEq, Repr

/-- The winner in the view of the side `X`; a tie goes to the other side. -/
def Party.winner (X : Side) (p : Party) : Option Side :=
  if p.seen < p.own then some X else if 0 < p.seen then some X.other else none

/-- Claiming the title: one past both known counters. -/
def Party.claim (p : Party) : Party := { p with own := max p.seen p.own + 1 }

/-- The winner that the side `X` names; none outside the contest. -/
def winner (s : State) (X : Side) : Option Side := (s X).bind (·.winner X)

/-- One step of the contest. -/
def step (s : State) : Op → State
  | .join =>
      if s .left = none ∧ s .right = none then fun _ => some ⟨0, 0⟩ else s
  | .leave X => Function.update s X none
  | .claim X => Function.update s X ((s X).map Party.claim)
  | .see X =>
      match s X, s X.other with
      | some p, some q => Function.update s X (some { p with seen := q.own })
      | _, _ => s

/-- The view of `X` is up to date; trivially so unless both sides are in the
contest. -/
def UpToDate (s : State) (X : Side) : Prop :=
  ∀ p q, s X = some p → s X.other = some q → p.seen = q.own

/-- The title may be claimed by a side that does not hold it in its own view. -/
def MayClaim (s : State) (X : Side) : Prop := ∀ p, s X = some p → p.own ≤ p.seen

/-- No two sides have the same counter above zero. -/
def NoTie (s : State) : Prop :=
  ∀ p q, s .left = some p → s .right = some q → p.own = q.own → p.own = 0

/-- Claims are made only by a side that does not hold the title in its view. -/
def Legal (s : State) : Op → Prop
  | .claim X => MayClaim s X
  | _ => True

/-- Claims are made only on an up-to-date view. -/
def Informed (s : State) : Op → Prop
  | .claim X => UpToDate s X
  | _ => True

/-! ## Agreement -/

/-- With up-to-date views, the two sides name the same winner exactly when no
tie above zero exists. -/
theorem winner_agree_iff {s : State} {p q : Party} (hp : s .left = some p)
    (hq : s .right = some q) (hl : UpToDate s .left) (hr : UpToDate s .right) :
    winner s .left = winner s .right ↔ (p.own = q.own → p.own = 0) := by
  have hpseen : p.seen = q.own := hl p q hp hq
  have hqseen : q.seen = p.own := hr q p hq hp
  simp only [winner, hp, hq, Option.bind_some, Party.winner, hpseen, hqseen, Side.other]
  rcases Nat.lt_trichotomy p.own q.own with h | h | h
  · simp [h, Nat.lt_asymm h, show 0 < q.own by omega, show p.own ≠ q.own by omega]
  · by_cases h0 : q.own = 0
    · simp [h, h0]
    · simp [h, h0, show 0 < q.own by omega]
  · simp [h, Nat.lt_asymm h, show 0 < p.own by omega, show p.own ≠ q.own by omega]

/-! ## Views -/

/-- No view is ahead of the counter it shows. -/
def NotAhead (s : State) : Prop :=
  ∀ X p q, s X = some p → s X.other = some q → p.seen ≤ q.own

/-- A claim is made by one side, and leaves the other as it is. -/
theorem step_claim_self {s : State} {X : Side} {p' : Party}
    (h : step s (.claim X) X = some p') : ∃ p, s X = some p ∧ p' = p.claim := by
  simp only [step, Function.update_self, Option.map_eq_some_iff] at h
  obtain ⟨p, hp, rfl⟩ := h
  exact ⟨p, hp, rfl⟩

theorem step_claim_other (s : State) (X : Side) : step s (.claim X) X.other = s X.other := by
  simp [step]

/-- A side that sees the other one notes its counter; it sees nothing while one
of them is out of the contest. -/
theorem step_see_cases (s : State) (X : Side) : step s (.see X) = s ∨
    ∃ p q, s X = some p ∧ s X.other = some q ∧
      step s (.see X) = Function.update s X (some { p with seen := q.own }) := by
  cases hp : s X with
  | none => exact .inl (by simp [step, hp])
  | some p =>
      cases hq : s X.other with
      | none => exact .inl (by simp [step, hq])
      | some q => exact .inr ⟨p, q, rfl, rfl, by simp [step, hp, hq]⟩

/-- Counters only grow, so no step puts a view ahead. -/
theorem notAhead_step {s : State} (h : NotAhead s) (op : Op) : NotAhead (step s op) := by
  intro Y p q hp hq
  cases op with
  | join =>
      simp only [step] at hp hq
      split at hp
      · cases hp
        exact Nat.zero_le _
      · next hout =>
          rw [if_neg hout] at hq
          exact h Y p q hp hq
  | leave X =>
      rcases Side.eq_or_eq_other X Y with rfl | rfl <;> simp [step] at hp hq
  | claim X =>
      rcases Side.eq_or_eq_other X Y with rfl | rfl
      · obtain ⟨p₀, hp₀, rfl⟩ := step_claim_self hp
        rw [step_claim_other] at hq
        exact h Y p₀ q hp₀ hq
      · rw [step_claim_other] at hp
        rw [Side.other_other] at hq
        obtain ⟨q₀, hq₀, rfl⟩ := step_claim_self hq
        have hle := h X.other p q₀ hp (by rw [Side.other_other]; exact hq₀)
        have hclaim : q₀.own ≤ q₀.claim.own := by
          simp only [Party.claim]
          omega
        exact Nat.le_trans hle hclaim
  | see X =>
      obtain hsame | ⟨p₀, q₀, hp₀, hq₀, hstep⟩ := step_see_cases s X
      · rw [hsame] at hp hq
        exact h Y p q hp hq
      · rw [hstep] at hp hq
        rcases Side.eq_or_eq_other X Y with rfl | rfl
        · rw [Function.update_self] at hp
          rw [Function.update_of_ne (Side.other_ne Y), hq₀] at hq
          cases hp
          cases hq
          exact Nat.le_refl _
        · rw [Function.update_of_ne (Side.other_ne X), hq₀] at hp
          rw [Side.other_other, Function.update_self] at hq
          cases hp
          cases hq
          exact h X.other _ p₀ hq₀ (by rw [Side.other_other]; exact hp₀)

/-! ## The invariant -/

/-- What one side knows of the other one while both are in the contest: its
view is not ahead; if it does not hold the title in its own view then the
view is up to date, unless it is still zero, when the other side has claimed
at most once. -/
structure Knows (p q : Party) : Prop where
  seen_le : p.seen ≤ q.own
  upToDate : 0 < p.seen → p.own ≤ p.seen → p.seen = q.own
  first : p.seen = 0 → p.own = 0 → q.own ≤ 1

/-- The invariant of informed contests. -/
structure Inv (s : State) : Prop where
  knows : ∀ X p q, s X = some p → s X.other = some q → Knows p q
  noTie : NoTie s

theorem inv_init : Inv fun _ => none :=
  ⟨fun _ _ _ => nofun, fun _ _ => nofun⟩

/-- `NoTie` as a statement about either side. -/
theorem noTie_iff (s : State) : NoTie s ↔
    ∀ X p q, s X = some p → s X.other = some q → p.own = q.own → p.own = 0 := by
  constructor
  · intro h X p q hp hq heq
    cases X with
    | left => exact h p q hp hq heq
    | right => rw [heq]; exact h q p hq hp heq.symm
  · intro h p q
    exact h .left p q

/-- An informed claim leaves the claimer strictly ahead. -/
theorem own_lt_claim {p q : Party} (h : p.seen = q.own) : q.own < p.claim.own := by
  simp only [Party.claim]
  omega

/-- What both sides know after an informed, legal claim of `p`. -/
theorem knows_claim {p q : Party} (hpq : Knows p q) (hqp : Knows q p)
    (htie : p.own = q.own → p.own = 0) (hlegal : p.own ≤ p.seen) (hseen : p.seen = q.own) :
    Knows p.claim q ∧ Knows q p.claim := by
  have h₁ := hpq.seen_le
  have h₂ := hqp.seen_le
  have h₃ := hqp.upToDate
  constructor
  · constructor <;> simp only [Party.claim] <;> omega
  · constructor <;> simp only [Party.claim] <;> omega

/-- A claim on an up-to-date view keeps the invariant. -/
theorem inv_claim {s : State} {X : Side} (hs : Inv s) (hlegal : Legal s (.claim X))
    (hinformed : Informed s (.claim X)) : Inv (step s (.claim X)) := by
  have htie := (noTie_iff s).mp hs.noTie
  refine ⟨fun Y p q hp hq => ?_, (noTie_iff _).mpr fun Y p q hp hq => ?_⟩
  · rcases Side.eq_or_eq_other X Y with rfl | rfl
    · obtain ⟨p₀, hp₀, rfl⟩ := step_claim_self hp
      rw [step_claim_other] at hq
      exact (knows_claim (hs.knows Y p₀ q hp₀ hq)
        (hs.knows Y.other q p₀ hq (by rw [Side.other_other]; exact hp₀))
        (htie Y p₀ q hp₀ hq) (hlegal p₀ hp₀) (hinformed p₀ q hp₀ hq)).1
    · rw [Side.other_other] at hq
      obtain ⟨q₀, hq₀, rfl⟩ := step_claim_self hq
      rw [step_claim_other] at hp
      exact (knows_claim (hs.knows X q₀ p hq₀ hp)
        (hs.knows X.other p q₀ hp (by rw [Side.other_other]; exact hq₀))
        (htie X q₀ p hq₀ hp) (hlegal q₀ hq₀) (hinformed q₀ p hq₀ hp)).2
  · rcases Side.eq_or_eq_other X Y with rfl | rfl
    · obtain ⟨p₀, hp₀, rfl⟩ := step_claim_self hp
      rw [step_claim_other] at hq
      have := own_lt_claim (hinformed p₀ q hp₀ hq)
      omega
    · rw [Side.other_other] at hq
      obtain ⟨q₀, hq₀, rfl⟩ := step_claim_self hq
      rw [step_claim_other] at hp
      have := own_lt_claim (hinformed q₀ p hq₀ hp)
      omega

/-- Seeing the other side keeps the invariant. -/
theorem inv_see {s : State} (X : Side) (hs : Inv s) : Inv (step s (.see X)) := by
  have htie := (noTie_iff s).mp hs.noTie
  simp only [step]
  split
  · next p₀ q₀ hp₀ hq₀ =>
      have hpq := hs.knows X p₀ q₀ hp₀ hq₀
      have hqp := hs.knows X.other q₀ p₀ hq₀ (by rw [Side.other_other]; exact hp₀)
      refine ⟨fun Y p q hp hq => ?_, (noTie_iff _).mpr fun Y p q hp hq => ?_⟩ <;>
        rcases Side.eq_or_eq_other X Y with rfl | rfl <;>
        simp only [Side.other_other, Function.update_self, ne_eq, Side.other_ne,
          not_false_eq_true, Function.update_of_ne, hq₀, Option.some.injEq] at hp hq <;>
        subst hp <;> subst hq
      · exact ⟨Nat.le_refl _, fun _ _ => rfl, fun h _ => by simp only at h; omega⟩
      · exact ⟨hqp.seen_le, hqp.upToDate, hqp.first⟩
      · exact htie Y p₀ q₀ hp₀ hq₀
      · exact htie X.other q₀ p₀ hq₀ (by rw [Side.other_other]; exact hp₀)
  · exact hs

/-- An informed and legal step keeps the invariant. -/
theorem inv_step {s : State} {op : Op} (hs : Inv s) (hlegal : Legal s op)
    (hinformed : Informed s op) : Inv (step s op) := by
  cases op with
  | join =>
      simp only [step]
      split
      · refine ⟨fun X p q hp hq => ?_, fun p q hp hq _ => ?_⟩
        · cases hp; cases hq
          exact ⟨Nat.le_refl 0, fun h => absurd h (Nat.lt_irrefl 0), fun _ _ => Nat.zero_le 1⟩
        · cases hp; rfl
      · exact hs
  | leave X =>
      refine ⟨fun Y p q hp hq => ?_, (noTie_iff _).mpr fun Y p q hp hq => ?_⟩ <;>
        rcases Side.eq_or_eq_other X Y with rfl | rfl <;> simp [step] at hp hq
  | claim X => exact inv_claim hs hlegal hinformed
  | see X => exact inv_see X hs

/-- A legal claim on an outdated view creates a tie above zero: both sides
have then claimed the title for the first time. -/
theorem tie_of_outdated_claim {s : State} {X : Side} (hs : Inv s) {p q : Party}
    (hp : s X = some p) (hq : s X.other = some q) (hlegal : MayClaim s X)
    (hold : p.seen ≠ q.own) : p.claim.own = q.own ∧ 0 < q.own := by
  have hknows := hs.knows X p q hp hq
  have hle := hlegal p hp
  have hseen : p.seen = 0 := by
    by_contra h
    exact hold (hknows.upToDate (Nat.pos_of_ne_zero h) hle)
  have hown : p.own = 0 := by omega
  have hq1 := hknows.first hseen hown
  simp only [Party.claim, hseen, hown]
  omega

/-- An outdated claim breaks `NoTie`. -/
theorem not_noTie_of_outdated_claim {s : State} {X : Side} (hs : Inv s) {p q : Party}
    (hp : s X = some p) (hq : s X.other = some q) (hlegal : MayClaim s X)
    (hold : p.seen ≠ q.own) : ¬ NoTie (step s (.claim X)) := by
  intro h
  obtain ⟨heq, hpos⟩ := tie_of_outdated_claim hs hp hq hlegal hold
  have hX : step s (.claim X) X = some p.claim := by simp [step, hp]
  have hother : step s (.claim X) X.other = some q := by simp [step, hq]
  have hzero := (noTie_iff _).mp h X p.claim q hX hother heq
  omega

/-- Both sides look at each other. -/
theorem run_see_see {s : State} {p q : Party} (hp : s .left = some p) (hq : s .right = some q) :
    Machine.run step s [.see .left, .see .right] .left = some ⟨p.own, q.own⟩ ∧
      Machine.run step s [.see .left, .see .right] .right = some ⟨q.own, p.own⟩ := by
  simp [step, Side.other, hp, hq]

end Contest
