import Mathlib.Tactic.ByContra
import Mathlib.Tactic.Linarith
import Mathlib.Tactic.Ring
import Sexpr.Double.Nearest
/-!
The doubles that quotients round to. A quotient, counted in least positive doubles, rounds to a rank if
it lies between the midpoints to the two neighbours, which themselves round to the even side. Main
statements: `nearestRank` is the one such rank, and it grows with the quotient.
-/
namespace Sexpr.Double

theorem units_block {block m : Nat} (low : block = 0 ∨ binade ≤ m) (high : m ≤ 2 * binade) :
    units (block * binade + m) = m * 2 ^ block := by
  rcases Nat.lt_or_eq_of_le high with inside | top
  · have place : scale (block * binade + m) = block := by
      simp only [scale, binade] at *
      omega
    rw [units, significand, place, Nat.shiftLeft_eq, Nat.add_sub_cancel_left]
  · have place : scale (block * binade + m) = block + 1 := by
      simp only [scale, binade] at *
      omega
    have left : block * binade + m - (block + 1) * binade = binade := by
      simp only [binade] at *
      omega
    rw [units, significand, place, Nat.shiftLeft_eq, left, top, pow_succ]
    ring

theorem block_of_rank (rank : Nat) :
    ∃ block m, rank = block * binade + m ∧ (block = 0 ∨ binade ≤ m) ∧ m < 2 * binade := by
  refine ⟨scale rank, significand rank, ?_, ?_, ?_⟩ <;> simp only [scale, significand, binade] <;> omega

theorem units_lt_succ (rank : Nat) : units rank < units (rank + 1) := by
  obtain ⟨block, m, rfl, low, high⟩ := block_of_rank rank
  rw [Nat.add_assoc, units_block low (Nat.le_of_lt high), units_block (by omega) (by omega)]
  exact Nat.mul_lt_mul_of_pos_right (Nat.lt_succ_self m) (Nat.two_pow_pos block)

theorem units_strictMono : StrictMono units :=
  strictMono_nat_of_lt_succ units_lt_succ

/-- The quotient lies in the interval that rounds to the double at `rank`; the ends of the interval
belong to it if the rank is even. -/
structure RoundsTo (numerator denominator rank : Nat) : Prop where
  low : denominator * (units (rank - 1) + units rank) ≤ 2 * numerator
  high : 2 * numerator ≤ denominator * (units rank + units (rank + 1))
  even_of_low : denominator * (units (rank - 1) + units rank) = 2 * numerator → rank % 2 = 0
  even_of_high : 2 * numerator = denominator * (units rank + units (rank + 1)) → rank % 2 = 0

namespace RoundsTo

theorem mono {numerator denominator rank other otherDenominator otherRank : Nat}
    (positive : 0 < denominator) (otherPositive : 0 < otherDenominator)
    (le : numerator * otherDenominator ≤ other * denominator)
    (rounds : RoundsTo numerator denominator rank)
    (others : RoundsTo other otherDenominator otherRank) : rank ≤ otherRank := by
  by_contra after
  rw [Nat.not_le] at after
  -- the interval of the smaller rank has ended where that of the larger one starts, or ends there
  have upper : units otherRank ≤ units (rank - 1) := units_strictMono.monotone (by omega)
  have step : units (otherRank + 1) ≤ units rank := units_strictMono.monotone after
  have apart : units otherRank + units (otherRank + 1) ≤ units (rank - 1) + units rank := by omega
  have scaled := Nat.mul_pos positive otherPositive
  have start := Nat.mul_le_mul_left otherDenominator rounds.low
  have stop := Nat.mul_le_mul_left denominator others.high
  have reach := Nat.mul_le_mul_left (denominator * otherDenominator) apart
  have meet : denominator * otherDenominator * (units (rank - 1) + units rank) =
      denominator * otherDenominator * (units otherRank + units (otherRank + 1)) := by linarith
  have sums := Nat.eq_of_mul_eq_mul_left scaled meet
  have neighbour : rank = otherRank + 1 := units_strictMono.injective (by omega)
  have even := rounds.even_of_low
    (Nat.eq_of_mul_eq_mul_left otherPositive (Nat.le_antisymm start (by linarith)))
  have otherEven := others.even_of_high
    (Nat.eq_of_mul_eq_mul_left positive (Nat.le_antisymm stop (by linarith)))
  omega

theorem unique {numerator denominator rank other : Nat} (positive : 0 < denominator)
    (rounds : RoundsTo numerator denominator rank) (others : RoundsTo numerator denominator other) :
    rank = other :=
  Nat.le_antisymm (rounds.mono positive positive (Nat.le_refl _) others)
    (others.mono positive positive (Nat.le_refl _) rounds)

end RoundsTo

/-- The whole number next to a quotient is at most half away, and even if exactly that. -/
structure RoundedHalfEven (numerator denominator result : Nat) : Prop where
  low : denominator * (2 * result) ≤ 2 * numerator + denominator
  high : 2 * numerator ≤ denominator * (2 * result + 1)
  even_of_low : denominator * (2 * result) = 2 * numerator + denominator → result % 2 = 0
  even_of_high : 2 * numerator = denominator * (2 * result + 1) → result % 2 = 0

theorem roundHalfEven_rounded (numerator : Nat) {denominator : Nat} (positive : 0 < denominator) :
    RoundedHalfEven numerator denominator (roundHalfEven numerator denominator) := by
  have parts := Nat.div_add_mod numerator denominator
  have bound := Nat.mod_lt numerator positive
  simp only [roundHalfEven]
  generalize numerator / denominator = below at parts ⊢
  generalize numerator % denominator = remainder at parts bound ⊢
  have double (n : Nat) : denominator * (2 * n) = 2 * (denominator * n) := by ring
  have doubleSucc (n : Nat) : denominator * (2 * n + 1) = 2 * (denominator * n) + denominator := by
    ring
  split
  · constructor <;> simp only [double, doubleSucc] <;> omega
  · split
    · constructor <;> simp only [doubleSucc, Nat.mul_succ] <;> omega
    · rcases Nat.mod_two_eq_zero_or_one below with even | odd
      · rw [even, Nat.add_zero]
        constructor <;> simp only [double, doubleSucc] <;> omega
      · rw [odd]
        constructor <;> simp only [doubleSucc, Nat.mul_succ] <;> omega

namespace RoundedHalfEven

variable {scaled denominator block m : Nat}

/-- With the block that the size of a quotient says, the rounded quotient fits the block, but for the
one rank after it. -/
theorem fits_block (positive : 0 < denominator) (size : block = (scaled / denominator).log2 - 52)
    (rounded : RoundedHalfEven scaled (denominator * 2 ^ block) m) :
    (block = 0 ∨ (binade ≤ m ∧ denominator * (binade * 2 ^ block) ≤ scaled)) ∧ m ≤ 2 * binade := by
  have step : 0 < denominator * 2 ^ block := Nat.mul_pos positive (Nat.two_pow_pos block)
  have upper : scaled < denominator * 2 ^ block * (2 * binade) := by
    have bits : scaled / denominator < 2 ^ (block + 53) :=
      Nat.lt_of_lt_of_le Nat.lt_log2_self (Nat.pow_le_pow_right (by decide) (by omega))
    have := (Nat.div_lt_iff_lt_mul positive).mp bits
    rw [pow_add] at this
    simp only [binade]
    linarith
  constructor
  · by_cases first : block = 0
    · exact Or.inl first
    · have large : (scaled / denominator).log2 = block + 52 := by omega
      have bits : 2 ^ (block + 52) ≤ scaled / denominator := by
        rw [← large]
        apply Nat.log2_self_le
        intro none
        simp [none] at large
      have lower : denominator * (binade * 2 ^ block) ≤ scaled := by
        have := (Nat.le_div_iff_mul_le positive).mp bits
        rw [pow_add] at this
        simp only [binade]
        linarith
      refine Or.inr ⟨?_, lower⟩
      have reach : denominator * 2 ^ block * (2 * binade) ≤ denominator * 2 ^ block * (2 * m + 1) := by
        have := rounded.high
        linarith
      have := Nat.le_of_mul_le_mul_left reach step
      omega
  · have reach : denominator * 2 ^ block * (2 * m) < denominator * 2 ^ block * (2 * (2 * binade) + 1) := by
      have := rounded.low
      linarith
    have := Nat.lt_of_mul_lt_mul_left reach
    omega

theorem units_above (place : block = 0 ∨ binade ≤ m) (high : m ≤ 2 * binade) :
    (m + 1) * 2 ^ block ≤ units (block * binade + m + 1) := by
  rcases Nat.lt_or_eq_of_le high with inside | rfl
  · rw [Nat.add_assoc, units_block (by omega) (by omega)]
  -- Behind the last rank of a block a step is twice as wide.
  · have next : block * binade + 2 * binade + 1 = (block + 1) * binade + (binade + 1) := by ring
    rw [next, units_block (by omega) (by simp only [binade]; omega), pow_succ]
    have := Nat.two_pow_pos block
    nlinarith

theorem units_below (place : block = 0 ∨ binade ≤ m) (high : m ≤ 2 * binade) :
    block * binade + m = 0 ∨ units (block * binade + m - 1) + 2 ^ block = m * 2 ^ block ∨
      (block ≠ 0 ∧ m = binade) := by
  by_cases first : block ≠ 0 ∧ m = binade
  · exact Or.inr (Or.inr first)
  · by_cases zero : m = 0
    · refine Or.inl ?_
      rcases place with rfl | place
      · rw [zero, Nat.zero_mul]
      · simp only [binade] at place
        omega
    · refine Or.inr (Or.inl ?_)
      obtain ⟨less, rfl⟩ := Nat.exists_eq_succ_of_ne_zero zero
      rw [Nat.add_succ_sub_one, units_block (by omega) (by omega), Nat.succ_mul]

theorem reaches_from_below (positive : 0 < denominator)
    (rounded : RoundedHalfEven scaled (denominator * 2 ^ block) m)
    (place : block = 0 ∨ (binade ≤ m ∧ denominator * (binade * 2 ^ block) ≤ scaled))
    (high : m ≤ 2 * binade) :
    denominator * (units (block * binade + m - 1) + units (block * binade + m)) ≤ 2 * scaled ∧
      (denominator * (units (block * binade + m - 1) + units (block * binade + m)) = 2 * scaled →
        m % 2 = 0) := by
  have fits : block = 0 ∨ binade ≤ m := place.imp_right And.left
  have here := units_block fits high
  rcases units_below fits high with zero | step | first
  · rw [zero] at here ⊢
    have none : units 0 = 0 := by decide
    have even : m % 2 = 0 := by omega
    simp [none, even]
  · have same : denominator * (units (block * binade + m - 1) + units (block * binade + m)) +
        denominator * 2 ^ block = denominator * 2 ^ block * (2 * m) := by
      calc _ = denominator * (units (block * binade + m - 1) + 2 ^ block + m * 2 ^ block) := by
            rw [here]
            ring
        _ = denominator * (m * 2 ^ block + m * 2 ^ block) := by rw [step]
        _ = _ := by ring
    have low := rounded.low
    constructor
    · omega
    · intro tie
      exact rounded.even_of_low (by omega)
  · -- The step down is half a step here, but the quotient itself is not below the first rank.
    have large := (place.resolve_left first.1).2
    have before := units_lt_succ (block * binade + m - 1)
    rw [Nat.sub_add_cancel (by rw [first.2]; simp only [binade]; omega), here] at before
    have short : denominator * (units (block * binade + m - 1) + units (block * binade + m)) <
        denominator * (m * 2 ^ block + m * 2 ^ block) :=
      Nat.mul_lt_mul_of_pos_left (by omega) positive
    rw [← first.2] at large
    rw [Nat.mul_add _ (m * 2 ^ block)] at short
    constructor
    · omega
    · intro tie
      omega

theorem reaches_from_above (rounded : RoundedHalfEven scaled (denominator * 2 ^ block) m)
    (fits : block = 0 ∨ binade ≤ m) (high : m ≤ 2 * binade) :
    2 * scaled ≤ denominator * (units (block * binade + m) + units (block * binade + m + 1)) ∧
      (2 * scaled = denominator * (units (block * binade + m) + units (block * binade + m + 1)) →
        m % 2 = 0) := by
  have upper : denominator * 2 ^ block * (2 * m + 1) ≤
      denominator * (units (block * binade + m) + units (block * binade + m + 1)) := by
    have above := units_above fits high
    rw [units_block fits high, Nat.mul_assoc]
    exact Nat.mul_le_mul_left _ (by linarith)
  constructor
  · exact rounded.high.trans upper
  · intro tie
    exact rounded.even_of_high (Nat.le_antisymm rounded.high (tie ▸ upper))

theorem roundsTo (positive : 0 < denominator)
    (rounded : RoundedHalfEven scaled (denominator * 2 ^ block) m)
    (place : block = 0 ∨ (binade ≤ m ∧ denominator * (binade * 2 ^ block) ≤ scaled))
    (high : m ≤ 2 * binade) : RoundsTo scaled denominator (block * binade + m) := by
  have parity : (block * binade + m) % 2 = m % 2 := by
    simp only [binade]
    omega
  have below := rounded.reaches_from_below positive place high
  have above := rounded.reaches_from_above (place.imp_right And.left) high
  rw [← parity] at below above
  exact ⟨below.1, above.1, below.2, above.2⟩

end RoundedHalfEven

theorem nearestRank_rounds (numerator : Nat) {denominator : Nat} (positive : 0 < denominator) :
    RoundsTo (numerator <<< finest) denominator (nearestRank numerator denominator) := by
  have step (block : Nat) : 0 < denominator * 2 ^ block :=
    Nat.mul_pos positive (Nat.two_pow_pos block)
  have rounded := roundHalfEven_rounded (numerator <<< finest)
    (step ((numerator <<< finest / denominator).log2 - 52))
  obtain ⟨place, high⟩ := rounded.fits_block positive rfl
  have rounds := rounded.roundsTo positive place high
  rwa [← Nat.shiftLeft_eq] at rounds

theorem nearestRank_eq_iff {numerator denominator rank : Nat} (positive : 0 < denominator) :
    nearestRank numerator denominator = rank ↔
      RoundsTo (numerator <<< finest) denominator rank := by
  constructor
  · rintro rfl
    exact nearestRank_rounds numerator positive
  · exact (nearestRank_rounds numerator positive).unique positive

theorem nearestRank_mono {numerator denominator other otherDenominator : Nat}
    (positive : 0 < denominator) (otherPositive : 0 < otherDenominator)
    (le : numerator * otherDenominator ≤ other * denominator) :
    nearestRank numerator denominator ≤ nearestRank other otherDenominator := by
  refine (nearestRank_rounds numerator positive).mono positive otherPositive ?_
    (nearestRank_rounds other otherPositive)
  rw [Nat.shiftLeft_eq, Nat.shiftLeft_eq, Nat.mul_right_comm, Nat.mul_right_comm other]
  exact Nat.mul_le_mul_right _ le

theorem RoundsTo.of_cross {numerator denominator other otherDenominator rank : Nat}
    (positive : 0 < denominator) (otherPositive : 0 < otherDenominator)
    (same : other * denominator = numerator * otherDenominator)
    (rounds : RoundsTo numerator denominator rank) : RoundsTo other otherDenominator rank := by
  have twice : denominator * (2 * other) = otherDenominator * (2 * numerator) := by linarith
  have low (sum : Nat) : denominator * sum ≤ 2 * numerator ↔ otherDenominator * sum ≤ 2 * other := by
    rw [← Nat.mul_le_mul_left_iff otherPositive, ← twice, Nat.mul_left_comm otherDenominator,
      Nat.mul_le_mul_left_iff positive]
  have high (sum : Nat) : 2 * numerator ≤ denominator * sum ↔ 2 * other ≤ otherDenominator * sum := by
    rw [← Nat.mul_le_mul_left_iff otherPositive, ← twice, Nat.mul_left_comm otherDenominator,
      Nat.mul_le_mul_left_iff positive]
  constructor
  · exact (low _).mp rounds.low
  · exact (high _).mp rounds.high
  · intro tie
    exact rounds.even_of_low (Nat.le_antisymm ((low _).mpr tie.le) ((high _).mpr tie.ge))
  · intro tie
    exact rounds.even_of_high (Nat.le_antisymm ((high _).mpr tie.le) ((low _).mpr tie.ge))

end Sexpr.Double
