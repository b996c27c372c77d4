import Mathlib.Tactic.Linarith
import Mathlib.Tactic.Ring
import Sexpr.Double.Shortest
import Sexpr.Proofs.Double.Rounding
import Sexpr.Proofs.Token.Spelling
/-!
Decimal texts of doubles. Main statements: the text of a finite double without sign is a numeral, and it
denotes this very double; and a numeral that is too large for a double is so with more digits too.
-/
namespace Sexpr.Double

theorem ofNumeral?_digits {digits : Text} (isDigits : Digits digits) :
    ofNumeral? digits = nearest? (Nat.ofDigitChars 10 digits 0) 1 := by
  have stop : ∀ c ∈ ([] : Text).head?, c.isDigit = false := by simp
  have kept := takeWhile_of_boundary isDigits.2 stop
  have left := dropWhile_of_boundary isDigits.2 stop
  rw [List.append_nil] at kept left
  simp only [ofNumeral?, kept, left, if_neg isDigits.1]

theorem ofNumeral?_pointed {whole fraction : Text} (isWhole : Digits whole)
    (isFraction : Digits fraction) :
    ofNumeral? (whole ++ '.' :: fraction) =
      nearest? (Nat.ofDigitChars 10 (whole ++ fraction) 0) (Nat.pow 10 fraction.length) := by
  have stop : ∀ c ∈ ('.' :: fraction).head?, c.isDigit = false := by simp
  have places : fraction.all Char.isDigit = true := List.all_eq_true.mpr isFraction.2
  simp only [ofNumeral?, takeWhile_of_boundary isWhole.2 stop, dropWhile_of_boundary isWhole.2 stop,
    if_neg isWhole.1]
  rw [if_pos ⟨trivial, isFraction.1, places⟩]

theorem nearest?_of_roundsTo {numerator denominator rank : Nat} (positive : 0 < denominator)
    (rounds : RoundsTo (numerator <<< finest) denominator rank) (finite : rank < infinityRank)
    (rank_lt : rank < 0x8000000000000000) :
    nearest? numerator denominator = some ⟨false, rank, rank_lt⟩ := by
  have same := (nearestRank_eq_iff positive).mpr rounds
  simp only [nearest?, same, dif_pos finite]

/-! The digits that are chosen round to the double. -/

theorem five_pow_pos (n : Nat) : 0 < Nat.pow 5 n := Nat.pow_pos (by decide)

theorem roundsTo_iff {rank decimal : Nat} :
    roundsTo rank decimal = true ↔ RoundsTo decimal (Nat.pow 5 finest) rank := by
  have lowEq : size (rank - 1) + size rank =
      Nat.pow 5 finest * (units (rank - 1) + units rank) := by
    simp only [size]
    ring
  have highEq : size rank + size (rank + 1) =
      Nat.pow 5 finest * (units rank + units (rank + 1)) := by
    simp only [size]
    ring
  simp only [roundsTo, lowEq, highEq]
  -- The ends of the interval count for even ranks only.
  by_cases even : rank % 2 = 0
  · simp only [if_pos even, Bool.and_eq_true, decide_eq_true_eq]
    constructor
    · rintro ⟨low, high⟩
      exact ⟨low, high, fun _ => even, fun _ => even⟩
    · intro rounds
      exact ⟨rounds.low, rounds.high⟩
  · simp only [if_neg even, Bool.and_eq_true, decide_eq_true_eq]
    constructor
    · rintro ⟨low, high⟩
      exact ⟨low.le, high.le, fun tie => absurd tie low.ne, fun tie => absurd tie high.ne⟩
    · intro rounds
      exact ⟨lt_of_le_of_ne rounds.low fun tie => even (rounds.even_of_low tie),
        lt_of_le_of_ne rounds.high fun tie => even (rounds.even_of_high tie)⟩

theorem roundsTo_size (rank : Nat) : roundsTo rank (size rank) = true := by
  have positive := five_pow_pos finest
  have below : units (rank - 1) ≤ units rank := units_strictMono.monotone (Nat.sub_le rank 1)
  have above := units_lt_succ rank
  have twice : 2 * size rank = Nat.pow 5 finest * (units rank + units rank) := by
    simp only [size]
    ring
  rw [roundsTo_iff]
  constructor
  · rw [twice]
    exact Nat.mul_le_mul_left _ (by omega)
  · rw [twice]
    exact Nat.mul_le_mul_left _ (by omega)
  · intro tie
    rw [twice] at tie
    have sums := Nat.eq_of_mul_eq_mul_left positive tie
    have same : rank - 1 = rank := units_strictMono.injective (by omega)
    omega
  · intro tie
    rw [twice] at tie
    have sums := Nat.eq_of_mul_eq_mul_left positive tie
    omega

theorem multipleOf?_roundsTo {rank power digits : Nat}
    (found : multipleOf? rank power = some digits) :
    roundsTo rank (digits * Nat.pow 10 power) = true := by
  simp only [multipleOf?] at found
  split at found
  · cases found
  · next hit _ =>
      cases found
      exact hit
  · next _ hit =>
      cases found
      exact hit
  · next below above =>
      split at found
      · cases found
        exact below
      · cases found
        exact above

theorem coarsest_roundsTo (rank power : Nat) :
    roundsTo rank ((coarsest rank power).1 * Nat.pow 10 (coarsest rank power).2) = true := by
  induction power with
  | zero => simpa [coarsest] using roundsTo_size rank
  | succ power ih =>
      simp only [coarsest]
      split
      · next found => exact multipleOf?_roundsTo found
      · exact ih

/-! The text of the digits denotes them. -/

theorem digits_toDigits (n : Nat) : Digits (Nat.toDigits 10 n) :=
  ⟨Nat.toDigits_ne_nil, fun _ member => Nat.isDigit_of_mem_toDigits (by decide) (by decide) member⟩

theorem isDigit_of_mem_zeros {count : Nat} : ∀ c ∈ List.replicate count '0', c.isDigit = true := by
  intro c member
  rw [List.eq_of_mem_replicate member]
  decide

theorem positional_whole (digits : Nat) {power : Nat} (large : finest ≤ power) :
    Digits (positional digits power) ∧
      Nat.ofDigitChars 10 (positional digits power) 0 = digits * Nat.pow 10 (power - finest) := by
  simp only [positional, if_pos large]
  constructor
  · exact (digits_toDigits digits).append isDigit_of_mem_zeros
  · rw [Nat.ofDigitChars_append, Nat.ofDigitChars_ten_toDigits, Nat.ofDigitChars_replicate_zero,
      Nat.mul_comm, Nat.pow_eq]

theorem positional_pointed (digits : Nat) {power : Nat} (small : power < finest) :
    ∃ whole fraction, positional digits power = whole ++ '.' :: fraction ∧ Digits whole ∧
      Digits fraction ∧ fraction.length = finest - power ∧
        Nat.ofDigitChars 10 (whole ++ fraction) 0 = digits := by
  simp only [positional, if_neg (Nat.not_le_of_lt small)]
  generalize paddedEq : List.replicate (finest - power + 1 - (Nat.toDigits 10 digits).length) '0' ++
    Nat.toDigits 10 digits = padded
  have long : finest - power < padded.length := by
    rw [← paddedEq, List.length_append, List.length_replicate]
    omega
  have isDigit : ∀ c ∈ padded, c.isDigit = true := by
    intro c member
    rw [← paddedEq] at member
    rcases List.mem_append.mp member with member | member
    · exact isDigit_of_mem_zeros c member
    · exact (digits_toDigits digits).2 c member
  obtain ⟨isWhole, isFraction⟩ := Digits.cut isDigit (by omega) long
  refine ⟨_, _, rfl, isWhole, isFraction, ?_, ?_⟩
  · rw [List.length_drop]
    omega
  · rw [List.take_append_drop, ← paddedEq, Nat.ofDigitChars_append,
      Nat.ofDigitChars_replicate_zero, Nat.mul_zero, Nat.ofDigitChars_ten_toDigits]

theorem two_pow_mul_five_pow (n : Nat) : 2 ^ n * Nat.pow 5 n = Nat.pow 10 n :=
  (Nat.mul_pow 2 5 n).symm

theorem ten_pow_mul_ten_pow (m n : Nat) : Nat.pow 10 m * Nat.pow 10 n = Nat.pow 10 (m + n) :=
  (Nat.pow_add 10 m n).symm

theorem RoundsTo.of_decimal {digits power numerator denominator rank : Nat}
    (positive : 0 < denominator)
    (same : numerator * Nat.pow 10 finest = digits * Nat.pow 10 power * denominator)
    (rounds : roundsTo rank (digits * Nat.pow 10 power) = true) :
    RoundsTo (numerator <<< finest) denominator rank := by
  apply (roundsTo_iff.mp rounds).of_cross (five_pow_pos finest) positive
  rw [← same, Nat.shiftLeft_eq, Nat.mul_assoc, two_pow_mul_five_pow]

theorem zero_reads_back : ofNumeral? ['0'] = some ⟨false, 0, by decide⟩ := by decide

theorem magnitude_reads_back {rank : Nat} (finite : rank < infinityRank)
    (rank_lt : rank < 0x8000000000000000) :
    Numeral (magnitude rank) ∧ ofNumeral? (magnitude rank) = some ⟨false, rank, rank_lt⟩ := by
  by_cases zero : rank = 0
  · subst zero
    rw [magnitude, if_pos rfl]
    exact ⟨.whole ⟨by simp, by simp⟩, zero_reads_back⟩
  · have rounds := coarsest_roundsTo rank (exceedingPower rank)
    rw [magnitude, if_neg zero]
    -- That the digits round to the double is all that reading them back asks for.
    generalize coarsest rank (exceedingPower rank) = chosen at rounds ⊢
    obtain ⟨digits, power⟩ := chosen
    simp only at rounds ⊢
    rcases Nat.lt_or_ge power finest with small | large
    · obtain ⟨whole, fraction, same, isWhole, isFraction, places, value⟩ :=
        positional_pointed digits small
      rw [same]
      refine ⟨.pointed isWhole isFraction, ?_⟩
      have positive : 0 < Nat.pow 10 fraction.length := Nat.pow_pos (by decide)
      rw [ofNumeral?_pointed isWhole isFraction, value]
      apply nearest?_of_roundsTo positive _ finite
      apply RoundsTo.of_decimal positive _ rounds
      rw [places, Nat.mul_assoc, ten_pow_mul_ten_pow, Nat.add_sub_cancel' (Nat.le_of_lt small)]
    · obtain ⟨isDigits, value⟩ := positional_whole digits large
      refine ⟨.whole isDigits, ?_⟩
      rw [ofNumeral?_digits isDigits, value]
      apply nearest?_of_roundsTo Nat.one_pos _ finite
      apply RoundsTo.of_decimal Nat.one_pos _ rounds
      rw [Nat.mul_one, Nat.mul_assoc, ten_pow_mul_ten_pow, Nat.sub_add_cancel large]

/-- The text of a finite double without sign denotes this double. -/
theorem text_reads_back {x : Double} (finite : x.isFinite = true) (unsigned : x.negative = false) :
    Numeral x.text ∧ ofNumeral? x.text = some x := by
  obtain ⟨negative, rank, rank_lt⟩ := x
  have below : rank < infinityRank := of_decide_eq_true finite
  have number : isNaN ⟨negative, rank, rank_lt⟩ = false :=
    decide_eq_false (Nat.not_lt.mpr (Nat.le_of_lt below))
  simp only at unsigned
  subst unsigned
  simp only [text, number, finite, if_true, Bool.false_eq_true, if_false]
  exact magnitude_reads_back below rank_lt

/-! More digits make no number smaller. -/

theorem mul_ten_pow_le_ofDigitChars (digits : Text) (value : Nat) :
    value * Nat.pow 10 digits.length ≤ Nat.ofDigitChars 10 digits value := by
  induction digits generalizing value with
  | nil => simp
  | cons c digits ih =>
      have tenfold : Nat.pow 10 (c :: digits).length = 10 * Nat.pow 10 digits.length := Nat.pow_succ'
      rw [Nat.ofDigitChars_cons, tenfold]
      calc value * (10 * Nat.pow 10 digits.length) = 10 * value * Nat.pow 10 digits.length := by ring
        _ ≤ (10 * value + (c.toNat - '0'.toNat)) * Nat.pow 10 digits.length :=
          Nat.mul_le_mul_right _ (Nat.le_add_right _ _)
        _ ≤ _ := ih _

theorem ofDigitChars_mul_le_append (digits more : Text) :
    Nat.ofDigitChars 10 digits 0 * Nat.pow 10 more.length ≤
      Nat.ofDigitChars 10 (digits ++ more) 0 := by
  rw [Nat.ofDigitChars_append]
  exact mul_ten_pow_le_ofDigitChars more _

theorem nearest?_eq_none_of_le {numerator denominator other otherDenominator : Nat}
    (positive : 0 < denominator) (otherPositive : 0 < otherDenominator)
    (le : numerator * otherDenominator ≤ other * denominator)
    (large : nearest? numerator denominator = none) : nearest? other otherDenominator = none := by
  have grows := nearestRank_mono positive otherPositive le
  simp only [nearest?] at large ⊢
  split at large
  · cases large
  · next infinite => rw [dif_neg (by omega)]

theorem nearest?_eq_none_of_more_digits {digits : Text} (more fraction : Text)
    (large : nearest? (Nat.ofDigitChars 10 digits 0) 1 = none) :
    nearest? (Nat.ofDigitChars 10 (digits ++ more ++ fraction) 0) (Nat.pow 10 fraction.length) =
      none := by
  refine nearest?_eq_none_of_le Nat.one_pos (Nat.pow_pos (by decide)) ?_ large
  have scaled : Nat.pow 10 fraction.length ≤ Nat.pow 10 (more ++ fraction).length :=
    Nat.pow_le_pow_right (by decide) (by simp)
  rw [List.append_assoc, Nat.mul_one]
  exact Nat.le_trans (Nat.mul_le_mul_left _ scaled) (ofDigitChars_mul_le_append digits _)

theorem nearest?_eq_none_of_more_places {whole fraction : Text} (more : Text)
    (large : nearest? (Nat.ofDigitChars 10 (whole ++ fraction) 0) (Nat.pow 10 fraction.length) = none) :
    nearest? (Nat.ofDigitChars 10 (whole ++ (fraction ++ more)) 0)
      (Nat.pow 10 (fraction ++ more).length) = none := by
  refine nearest?_eq_none_of_le (Nat.pow_pos (by decide)) (Nat.pow_pos (by decide)) ?_ large
  rw [← List.append_assoc, List.length_append, ← ten_pow_mul_ten_pow, Nat.mul_left_comm, Nat.mul_comm]
  exact Nat.mul_le_mul_right _ (ofDigitChars_mul_le_append _ more)

theorem ofNumeral?_eq_none_of_append {text more : Text} (numeral : Numeral text)
    (longer : Numeral (text ++ more)) (large : ofNumeral? text = none) :
    ofNumeral? (text ++ more) = none := by
  rcases numeral.append_cases longer with ⟨digits, longerDigits⟩ |
    ⟨gained, fraction, rfl, digits, longerDigits, places⟩ |
    ⟨whole, fraction, rfl, digits, places, longerPlaces⟩
  · rw [ofNumeral?_digits digits] at large
    rw [ofNumeral?_digits longerDigits]
    simpa using nearest?_eq_none_of_more_digits more [] large
  · rw [ofNumeral?_digits digits] at large
    rw [← List.append_assoc, ofNumeral?_pointed longerDigits places]
    exact nearest?_eq_none_of_more_digits gained fraction large
  · rw [ofNumeral?_pointed digits places] at large
    rw [List.append_assoc, List.cons_append, ofNumeral?_pointed digits longerPlaces]
    exact nearest?_eq_none_of_more_places more large

theorem isFinite_of_ofNumeral? {text : Text} {x : Double} (found : ofNumeral? text = some x) :
    x.isFinite = true ∧ x.negative = false := by
  simp only [ofNumeral?] at found
  split at found
  · cases found
  · split at found
    · exact isFinite_of_nearest? found
    · split at found
      · exact isFinite_of_nearest? found
      · cases found

end Sexpr.Double
