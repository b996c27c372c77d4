import Sexpr.Double
import Sexpr.Text
/-!
Rounding a quotient to the nearest double, ties to the even significand. The quotient is exact, so a
digit arbitrarily far out can still decide a tie.
-/
namespace Sexpr.Double

def roundHalfEven (numerator denominator : Nat) : Nat :=
  let below := numerator / denominator
  let remainder := numerator % denominator
  if 2 * remainder < denominator then below
  else if denominator < 2 * remainder then below + 1
  else below + below % 2

/-- The rank of the double nearest to a quotient, if exponents had no upper limit.

The quotient is taken in least positive doubles. From `2 * binade` of them on, a double keeps the 53
leading bits only, so it is rounded to a multiple of a power of two. -/
def nearestRank (numerator denominator : Nat) : Nat :=
  let scaled := numerator <<< finest
  let scale := (scaled / denominator).log2 - 52
  scale * binade + roundHalfEven scaled (denominator <<< scale)

/-- The nearest double, unless the quotient rounds to infinity. -/
def nearest? (numerator denominator : Nat) : Option Double :=
  let rank := nearestRank numerator denominator
  if finite : rank < infinityRank then
    some ⟨false, rank, Nat.lt_trans finite (by decide)⟩
  else none

def ofNumeral? (text : Text) : Option Double :=
  let whole := text.takeWhile Char.isDigit
  if whole = [] then none
  else
    match text.dropWhile Char.isDigit with
    | [] => nearest? (Nat.ofDigitChars 10 whole 0) 1
    | point :: fraction =>
      if point = '.' ∧ fraction ≠ [] ∧ fraction.all Char.isDigit then
        nearest? (Nat.ofDigitChars 10 (whole ++ fraction) 0) (Nat.pow 10 fraction.length)
      else none

theorem isFinite_of_nearest? {numerator denominator : Nat} {x : Double}
    (found : nearest? numerator denominator = some x) :
    x.isFinite = true ∧ x.negative = false := by
  simp only [nearest?] at found
  split at found
  · next finite =>
      cases found
      exact ⟨decide_eq_true finite, rfl⟩
  · cases found

end Sexpr.Double
