import Sexpr.Proofs.Double.Rational
/-!
Equality of doubles as numbers. Main statements: finite doubles are equal if they stand for one rational
number, which two of them do only if they are the two zeros; and equality is reflexive but for what is not a
number.
-/
namespace Sexpr.Double

def negativeZero : Double := ⟨true, 0, by decide⟩

theorem rankValue_eq_zero_iff {rank : Nat} : rankValue rank = 0 ↔ rank = 0 := by
  have zero : rankValue 0 = 0 := by simp [rankValue, units, significand]
  rw [← zero]
  exact rankValue_strictMono.injective.eq_iff

theorem value_eq_iff {x y : Double} :
    x.value = y.value ↔ x.rank = y.rank ∧ (x.negative = y.negative ∨ x.rank = 0) := by
  have first := rankValue_nonneg x.rank
  have second := rankValue_nonneg y.rank
  have ranks : rankValue x.rank = rankValue y.rank ↔ x.rank = y.rank :=
    rankValue_strictMono.injective.eq_iff
  -- Values of unlike signs are equal only if both are zero.
  have opposite : rankValue x.rank = -rankValue y.rank ↔ x.rank = y.rank ∧ x.rank = 0 := by
    constructor
    · intro equal
      have none : rankValue x.rank = 0 := by linarith
      have also : rankValue y.rank = 0 := by linarith
      rw [rankValue_eq_zero_iff] at none also
      exact ⟨none.trans also.symm, none⟩
    · rintro ⟨same, none⟩
      rw [← same, rankValue_eq_zero_iff.mpr none, neg_zero]
  rw [value_eq, value_eq]
  cases x.negative <;> cases y.negative
  · simp [ranks]
  · simpa using opposite
  · rw [if_pos rfl, if_neg Bool.false_ne_true, neg_eq_iff_eq_neg, opposite]
    simp
  · simp [ranks]

/-- Doubles that are equal as numbers: finite ones by their value, infinite ones by their sign. -/
inductive EqualNumbers (x y : Double) : Prop
  | finite : x.isFinite = true → y.isFinite = true → x.value = y.value → EqualNumbers x y
  | infinite : x.rank = infinityRank → y.rank = infinityRank → x.negative = y.negative →
      EqualNumbers x y

theorem same_iff {x y : Double} : x.same y = true ↔ x.EqualNumbers y := by
  simp only [same, Bool.and_eq_true, Bool.or_eq_true, Bool.not_eq_true', decide_eq_true_eq, isNaN,
    decide_eq_false_iff_not, Nat.not_lt]
  constructor
  · rintro ⟨⟨number, ranks⟩, signs⟩
    rcases Nat.lt_or_eq_of_le number with finite | infinite
    · have also : y.rank < infinityRank := ranks ▸ finite
      exact .finite (decide_eq_true finite) (decide_eq_true also) (value_eq_iff.mpr ⟨ranks, signs⟩)
    · have positive : x.rank ≠ 0 := infinite ▸ by decide
      exact .infinite infinite (ranks ▸ infinite) (signs.resolve_right positive)
  · rintro (⟨finite, _, values⟩ | ⟨infinite, also, signs⟩)
    · obtain ⟨ranks, signs⟩ := value_eq_iff.mp values
      exact ⟨⟨Nat.le_of_lt (of_decide_eq_true finite), ranks⟩, signs⟩
    · exact ⟨⟨infinite.le, infinite.trans also.symm⟩, Or.inl signs⟩

namespace EqualNumbers

variable {x y z : Double}

theorem symm (equal : x.EqualNumbers y) : y.EqualNumbers x := by
  cases equal with
  | finite first second values => exact .finite second first values.symm
  | infinite first second signs => exact .infinite second first signs.symm

theorem trans (equal : x.EqualNumbers y) (next : y.EqualNumbers z) : x.EqualNumbers z := by
  cases equal with
  | finite first second values =>
      cases next with
      | finite _ third others => exact .finite first third (values.trans others)
      | infinite infinite _ _ => exact absurd infinite (of_decide_eq_true second).ne
  | infinite first second signs =>
      cases next with
      | finite finite _ _ => exact absurd second (of_decide_eq_true finite).ne
      | infinite _ third others => exact .infinite first third (signs.trans others)

theorem itself_iff : x.EqualNumbers x ↔ x.isNaN = false := by
  simp [← same_iff, same]

end EqualNumbers

theorem eq_of_same {x y : Double} (same : x.same y = true) (first : x ≠ negativeZero)
    (second : y ≠ negativeZero) : x = y := by
  obtain ⟨⟨_, ranks⟩, signs⟩ : (_ ∧ x.rank = y.rank) ∧ (x.negative = y.negative ∨ x.rank = 0) := by
    simpa [Double.same] using same
  obtain ⟨negative, rank, rank_lt⟩ := x
  obtain ⟨negative', rank', rank_lt'⟩ := y
  simp only at ranks signs
  subst ranks
  rcases signs with rfl | rfl
  · rfl
  · cases negative with
    | true => exact absurd rfl first
    | false =>
        cases negative' with
        | true => exact absurd rfl second
        | false => rfl

end Sexpr.Double
