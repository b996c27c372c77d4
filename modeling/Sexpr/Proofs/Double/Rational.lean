import Mathlib.Algebra.Order.Field.Power
import Mathlib.Tactic.Linarith
import Mathlib.Tactic.NormNum
import Mathlib.Tactic.Positivity
import Mathlib.Tactic.Ring
import Sexpr.Proofs.Double.Decimal
/-!
Doubles as rational numbers. Main statements: below the middle between the largest double and the one that
would follow it, a numeral denotes the one double that is nearest to its value; from there on it denotes
none.
-/
namespace Sexpr.Double

def exponent (x : Double) : Nat :=
  x.rank / binade

def fraction (x : Double) : Nat :=
  x.rank % binade

/-- The number that a finite double stands for. With the least exponent there is no leading one. -/
def value (x : Double) : ℚ :=
  let unsigned : ℚ :=
    if x.exponent = 0 then x.fraction * (2 : ℚ) ^ (-1074 : ℤ)
    else (binade + x.fraction) * (2 : ℚ) ^ (x.exponent - 1075 : ℤ)
  if x.negative then -unsigned else unsigned

/-- The finite double without sign that is as near to a number as any finite double. If another one is as
near to it, the significand is even; the leading one has no part in that. -/
structure IsNearest (q : ℚ) (x : Double) : Prop where
  finite : x.isFinite = true
  unsigned : x.negative = false
  nearest : ∀ y : Double, y.isFinite = true → |x.value - q| ≤ |y.value - q|
  even_of_tie : ∀ y : Double, y.isFinite = true → |y.value - q| = |x.value - q| →
    y.value ≠ x.value → x.fraction % 2 = 0

/-- The middle between the largest double and the one that would follow it, if exponents had no upper
limit. -/
def overflowLimit : ℚ :=
  2 ^ 1024 - 2 ^ 970

def rankValue (rank : Nat) : ℚ :=
  units rank / 2 ^ finest

theorem rankValue_strictMono : StrictMono rankValue := by
  intro first second less
  have positive : (0 : ℚ) < 2 ^ finest := by positivity
  exact div_lt_div_of_pos_right (Nat.cast_lt.mpr (units_strictMono less)) positive

theorem rankValue_nonneg (rank : Nat) : 0 ≤ rankValue rank := by
  unfold rankValue
  positivity

theorem units_least {rank : Nat} (least : rank / binade = 0) : units rank = rank % binade := by
  have whole := Nat.div_add_mod rank binade
  have below := Nat.mod_lt rank (show 0 < binade by decide)
  have block : units (0 * binade + rank % binade) = rank % binade * 2 ^ 0 :=
    units_block (Or.inl rfl) (by omega)
  rw [least] at whole
  rw [Nat.zero_mul] at block
  rw [Nat.mul_zero] at whole
  rwa [whole, Nat.pow_zero, Nat.mul_one] at block

theorem units_later {rank place : Nat} (later : rank / binade = place + 1) :
    units rank = (binade + rank % binade) * 2 ^ place := by
  have whole := Nat.div_add_mod rank binade
  have below := Nat.mod_lt rank (show 0 < binade by decide)
  have block : units (place * binade + (binade + rank % binade)) = (binade + rank % binade) * 2 ^ place :=
    units_block (Or.inr (by omega)) (by omega)
  have same : place * binade + (binade + rank % binade) = rank := by
    rw [later, Nat.mul_comm, Nat.succ_mul] at whole
    omega
  rwa [same] at block

theorem value_eq (x : Double) :
    x.value = if x.negative then -rankValue x.rank else rankValue x.rank := by
  have two : (2 : ℚ) ≠ 0 := by norm_num
  have fields : rankValue x.rank = if x.exponent = 0 then x.fraction * (2 : ℚ) ^ (-1074 : ℤ)
      else (binade + x.fraction) * (2 : ℚ) ^ (x.exponent - 1075 : ℤ) := by
    cases place : x.exponent with
    | zero =>
        have least : units x.rank = x.fraction := units_least place
        have power : (-1074 : ℤ) = -(finest : ℤ) := rfl
        rw [if_pos rfl, rankValue, least, power, zpow_neg, zpow_natCast, div_eq_mul_inv]
    | succ place' =>
        have later : units x.rank = (binade + x.fraction) * 2 ^ place' := units_later place
        have power : ((place' + 1 : ℕ) - 1075 : ℤ) = place' - finest := by
          simp only [finest]
          push_cast
          ring
        rw [if_neg (Nat.succ_ne_zero _), rankValue, later, power, zpow_sub₀ two, zpow_natCast,
          zpow_natCast]
        push_cast
        ring
  rw [value, fields]

theorem value_cases (rank : Nat) (y : Double) :
    y.value = rankValue rank ∨ rankValue (rank + 1) ≤ y.value ∨ y.value ≤ rankValue (rank - 1) := by
  rw [value_eq]
  split
  · have first := rankValue_nonneg y.rank
    have second := rankValue_nonneg (rank - 1)
    exact Or.inr (Or.inr (by linarith))
  · rcases Nat.lt_trichotomy rank y.rank with above | same | below
    · exact Or.inr (Or.inl (rankValue_strictMono.monotone above))
    · exact Or.inl (congrArg rankValue same.symm)
    · exact Or.inr (Or.inr (rankValue_strictMono.monotone (Nat.le_sub_one_of_lt below)))

theorem value_of_unsigned {x : Double} (unsigned : x.negative = false) : x.value = rankValue x.rank := by
  rw [value_eq, unsigned, if_neg Bool.false_ne_true]

theorem fraction_parity (x : Double) : x.fraction % 2 = x.rank % 2 :=
  Nat.mod_mod_of_dvd x.rank (by decide)

/-! Which of two numbers is nearer to a third. -/

section Nearer

variable {q here there : ℚ}

theorem nearer_than_above (above : here ≤ there) (low : 2 * q ≤ here + there) :
    |here - q| ≤ |there - q| :=
  (abs_le.mpr ⟨by linarith, by linarith⟩).trans (le_abs_self (there - q))

theorem nearer_than_below (below : there ≤ here) (high : here + there ≤ 2 * q) :
    |here - q| ≤ |there - q| :=
  (abs_le.mpr ⟨by linarith, by linarith⟩).trans (neg_le_abs (there - q))

theorem middle_of_tie (tie : |there - q| = |here - q|) (other : there ≠ here) : here + there = 2 * q := by
  rcases abs_eq_abs.mp tie with same | mirrored
  · exact absurd (sub_left_injective same) other
  · linarith

end Nearer

theorem rankValue_add (first second : Nat) :
    rankValue first + rankValue second = (units first + units second : ℕ) / 2 ^ finest := by
  rw [rankValue, rankValue, ← add_div, Nat.cast_add]

section Quotient

variable {numerator denominator rank : Nat}

theorem le_quotient_iff (positive : 0 < denominator) (numerator first second : Nat) :
    rankValue first + rankValue second ≤ 2 * (numerator / denominator) ↔
      denominator * (units first + units second) ≤ 2 * (numerator <<< finest) := by
  rw [rankValue_add, ← mul_div_assoc, div_le_div_iff₀ (by positivity) (by exact_mod_cast positive),
    Nat.shiftLeft_eq, mul_comm denominator, ← mul_assoc 2]
  norm_cast

theorem quotient_le_iff (positive : 0 < denominator) (numerator first second : Nat) :
    2 * (numerator / denominator) ≤ rankValue first + rankValue second ↔
      2 * (numerator <<< finest) ≤ denominator * (units first + units second) := by
  rw [rankValue_add, ← mul_div_assoc, div_le_div_iff₀ (by exact_mod_cast positive) (by positivity),
    Nat.shiftLeft_eq, mul_comm denominator, ← mul_assoc 2]
  norm_cast

structure InReach (q : ℚ) (rank : Nat) : Prop where
  low : rankValue (rank - 1) + rankValue rank ≤ 2 * q
  high : 2 * q ≤ rankValue rank + rankValue (rank + 1)
  even_of_low : rankValue (rank - 1) + rankValue rank = 2 * q → rank % 2 = 0
  even_of_high : 2 * q = rankValue rank + rankValue (rank + 1) → rank % 2 = 0

theorem RoundsTo.inReach (positive : 0 < denominator)
    (rounds : RoundsTo (numerator <<< finest) denominator rank) :
    InReach (numerator / denominator) rank := by
  constructor
  · exact (le_quotient_iff positive _ _ _).mpr rounds.low
  · exact (quotient_le_iff positive _ _ _).mpr rounds.high
  · intro tie
    have turned := (quotient_le_iff positive _ _ _).mp tie.ge
    exact rounds.even_of_low (Nat.le_antisymm rounds.low turned)
  · intro tie
    have turned := (le_quotient_iff positive _ _ _).mp tie.ge
    exact rounds.even_of_high (Nat.le_antisymm rounds.high turned)

end Quotient

namespace InReach

variable {q : ℚ} {rank : Nat}

theorem isNearest (reach : InReach q rank) (finite : rank < infinityRank)
    (rank_lt : rank < 0x8000000000000000) : IsNearest q ⟨false, rank, rank_lt⟩ := by
  have here : value ⟨false, rank, rank_lt⟩ = rankValue rank := value_of_unsigned rfl
  have below : rankValue (rank - 1) ≤ rankValue rank := rankValue_strictMono.monotone (Nat.sub_le rank 1)
  have above : rankValue rank ≤ rankValue (rank + 1) := rankValue_strictMono.monotone (Nat.le_succ rank)
  refine ⟨decide_eq_true finite, rfl, fun y _ => ?_, fun y _ tie other => ?_⟩
  · rw [here]
    rcases value_cases rank y with same | after | before
    · rw [same]
    · exact nearer_than_above (above.trans after) (reach.high.trans (by linarith))
    · exact nearer_than_below (before.trans below) (le_trans (by linarith) reach.low)
  · rw [fraction_parity]
    rw [here] at tie other
    have middle := middle_of_tie tie other
    rcases value_cases rank y with same | after | before
    · exact absurd same other
    · exact reach.even_of_high (le_antisymm reach.high (by linarith))
    · exact reach.even_of_low (le_antisymm reach.low (by linarith))

end InReach

theorem overflowLimit_eq :
    rankValue (infinityRank - 1) + rankValue infinityRank = 2 * overflowLimit := by
  have last : units (infinityRank - 1) = (2 * binade - 1) * 2 ^ 2045 :=
    @units_block 2045 (2 * binade - 1) (Or.inr (by decide)) (by decide)
  have after : units infinityRank = 2 * binade * 2 ^ 2045 :=
    @units_block 2045 (2 * binade) (Or.inr (by decide)) (by decide)
  have large : (2 : ℚ) ^ 2045 = 2 ^ 970 * 2 * 2 ^ finest := by
    rw [← pow_succ, ← pow_add]
    rfl
  have limit : (2 : ℚ) ^ 1024 = 2 ^ 970 * 2 ^ 54 := (pow_add 2 970 54)
  have positive : (2 : ℚ) ^ finest ≠ 0 := by positivity
  rw [rankValue_add, last, after, ← Nat.add_mul, Nat.cast_mul, Nat.cast_pow, Nat.cast_ofNat, large,
    ← mul_assoc, mul_div_cancel_right₀ _ positive, overflowLimit, limit]
  generalize (2 : ℚ) ^ 970 = step
  norm_num [binade]
  ring

theorem InReach.finite_iff {q : ℚ} {rank : Nat} (reach : InReach q rank) :
    rank < infinityRank ↔ q < overflowLimit := by
  have limit := overflowLimit_eq
  constructor
  · intro finite
    have here : rankValue rank ≤ rankValue (infinityRank - 1) :=
      rankValue_strictMono.monotone (Nat.le_sub_one_of_lt finite)
    have next : rankValue (rank + 1) ≤ rankValue infinityRank := rankValue_strictMono.monotone finite
    have high := reach.high
    by_contra large
    have tie : 2 * q = rankValue rank + rankValue (rank + 1) := by linarith
    have last : rank + 1 = infinityRank := rankValue_strictMono.injective (by linarith)
    -- The rank of the largest double is odd, so the middle behind it does not round to it.
    have even := reach.even_of_high tie
    simp only [infinityRank, binade] at last
    omega
  · intro small
    by_contra infinite
    rw [Nat.not_lt] at infinite
    have here : rankValue infinityRank ≤ rankValue rank := rankValue_strictMono.monotone infinite
    have before : rankValue (infinityRank - 1) ≤ rankValue (rank - 1) :=
      rankValue_strictMono.monotone (Nat.sub_le_sub_right infinite 1)
    have low := reach.low
    linarith

namespace IsNearest

variable {q : ℚ} {x y : Double}

theorem rank_le (near : IsNearest q x) (also : IsNearest q y) : y.rank ≤ x.rank := by
  by_contra after
  rw [Nat.not_le] at after
  have here := value_of_unsigned near.unsigned
  have there := value_of_unsigned also.unsigned
  have less : x.value < y.value := by
    rw [here, there]
    exact rankValue_strictMono after
  have tie : |y.value - q| = |x.value - q| :=
    le_antisymm (also.nearest x near.finite) (near.nearest y also.finite)
  have middle := middle_of_tie tie less.ne'
  have even := near.even_of_tie y also.finite tie less.ne'
  have otherEven := also.even_of_tie x near.finite tie.symm less.ne
  rw [fraction_parity] at even otherEven
  -- Both ranks are even, so a third double lies between the two, and it is nearer.
  have between : x.rank + 1 < y.rank := by omega
  let z : Double := ⟨false, x.rank + 1, between.trans y.rank_lt⟩
  have finite : z.isFinite = true := decide_eq_true (between.trans (of_decide_eq_true also.finite))
  have place : z.value = rankValue (x.rank + 1) := value_of_unsigned rfl
  have above : x.value < z.value := by
    rw [here, place]
    exact rankValue_strictMono (Nat.lt_succ_self x.rank)
  have below : z.value < y.value := by
    rw [there, place]
    exact rankValue_strictMono between
  have far : |x.value - q| = q - x.value := by
    rw [abs_of_nonpos (by linarith), neg_sub]
  have nearer : |z.value - q| < q - x.value := abs_lt.mpr ⟨by linarith, by linarith⟩
  have least := near.nearest z finite
  linarith

theorem unique (near : IsNearest q x) (also : IsNearest q y) : x = y := by
  have ranks : x.rank = y.rank := Nat.le_antisymm (also.rank_le near) (near.rank_le also)
  have signs : x.negative = y.negative := near.unsigned.trans also.unsigned.symm
  cases x
  cases y
  simp only at ranks signs
  subst ranks signs
  rfl

end IsNearest

section Nearest

variable {numerator denominator : Nat}

theorem nearest?_eq_some_iff (positive : 0 < denominator) {x : Double} :
    nearest? numerator denominator = some x ↔
      (numerator / denominator : ℚ) < overflowLimit ∧ IsNearest (numerator / denominator) x := by
  have reach := (nearestRank_rounds numerator positive).inReach positive
  simp only [nearest?]
  constructor
  · intro found
    split at found
    · next finite =>
        cases found
        exact ⟨reach.finite_iff.mp finite, reach.isNearest finite _⟩
    · cases found
  · rintro ⟨small, near⟩
    have finite := reach.finite_iff.mpr small
    rw [dif_pos finite]
    exact congrArg some ((reach.isNearest finite _).unique near)

theorem nearest?_eq_none_iff (positive : 0 < denominator) :
    nearest? numerator denominator = none ↔ overflowLimit ≤ (numerator / denominator : ℚ) := by
  have reach := (nearestRank_rounds numerator positive).inReach positive
  rw [← not_lt, ← reach.finite_iff]
  simp [nearest?]

end Nearest

/-- The value of a numeral: digits count tenfold for each digit behind them, and those behind a point are
counted in parts of as many tenths. -/
inductive Decimal : Text → ℚ → Prop
  | whole {digits : Text} : Digits digits → Decimal digits (Nat.ofDigitChars 10 digits 0)
  | pointed {digits fraction : Text} : Digits digits → Digits fraction →
      Decimal (digits ++ '.' :: fraction)
        (Nat.ofDigitChars 10 digits 0 + Nat.ofDigitChars 10 fraction 0 / 10 ^ fraction.length)

theorem exists_decimal {text : Text} (numeral : Numeral text) : ∃ q, Decimal text q := by
  cases numeral with
  | whole digits => exact ⟨_, .whole digits⟩
  | pointed digits fraction => exact ⟨_, .pointed digits fraction⟩

namespace Decimal

variable {text : Text} {q : ℚ}

theorem numeral (decimal : Decimal text q) : Numeral text := by
  cases decimal with
  | whole digits => exact .whole digits
  | pointed digits fraction => exact .pointed digits fraction

theorem exists_quotient (decimal : Decimal text q) :
    ∃ numerator denominator : Nat, 0 < denominator ∧ q = numerator / denominator ∧
      ofNumeral? text = nearest? numerator denominator := by
  cases decimal with
  | whole digits => exact ⟨_, 1, Nat.one_pos, by simp, ofNumeral?_digits digits⟩
  | @pointed digits fraction isWhole isFraction =>
      refine ⟨_, _, Nat.pow_pos (by decide), ?_, ofNumeral?_pointed isWhole isFraction⟩
      have positive : (10 : ℚ) ^ fraction.length ≠ 0 := by positivity
      have joined : Nat.ofDigitChars 10 (digits ++ fraction) 0 =
          10 ^ fraction.length * Nat.ofDigitChars 10 digits 0 + Nat.ofDigitChars 10 fraction 0 := by
        rw [Nat.ofDigitChars_append]
        exact Nat.ofDigitChars_eq_ofDigitChars_zero
      rw [joined]
      push_cast
      rw [add_div, mul_div_cancel_left₀ _ positive]

theorem ofNumeral?_eq_some_iff (decimal : Decimal text q) {x : Double} :
    ofNumeral? text = some x ↔ q < overflowLimit ∧ IsNearest q x := by
  obtain ⟨numerator, denominator, positive, rfl, same⟩ := decimal.exists_quotient
  rw [same, nearest?_eq_some_iff positive]

theorem ofNumeral?_eq_none_iff (decimal : Decimal text q) :
    ofNumeral? text = none ↔ overflowLimit ≤ q := by
  obtain ⟨numerator, denominator, positive, rfl, same⟩ := decimal.exists_quotient
  rw [same, nearest?_eq_none_iff positive]

end Decimal

end Sexpr.Double
