import Sexpr.Double
import Sexpr.Text
/-!
Writing a double in decimal: the fewest digits that read back as the same double, and of those the
closest to it, always positional.

All sizes here are whole numbers, in units of ten to the power `-finest`. Every double has one, as
the least positive double is `5 ^ finest` such units. A decimal with few digits is then a multiple of
a large power of ten. Of the multiples of one power, only the two around a double can be the closest
ones that round to it.
-/
namespace Sexpr.Double

def size (rank : Nat) : Nat :=
  units rank * Nat.pow 5 finest

/-- Whether a decimal size rounds to the double at `rank`: it lies between the midpoints to the two
neighbours, which themselves round to the even side. -/
def roundsTo (rank decimal : Nat) : Bool :=
  let low := size (rank - 1) + size rank
  let high := size rank + size (rank + 1)
  if rank % 2 = 0 then low ≤ 2 * decimal && 2 * decimal ≤ high
  else low < 2 * decimal && 2 * decimal < high

/-- The multiple of `10 ^ power` that stands for the double at `rank`, if one rounds to it: the
closest, and of two equally close ones the larger. -/
def multipleOf? (rank power : Nat) : Option Nat :=
  let step := Nat.pow 10 power
  let below := size rank / step
  match roundsTo rank (below * step), roundsTo rank ((below + 1) * step) with
  | false, false => none
  | true, false => some below
  | false, true => some (below + 1)
  | true, true => some (if 2 * size rank < (2 * below + 1) * step then below else below + 1)

def coarsest (rank : Nat) : Nat → Nat × Nat
  | 0 => (size rank, 0)
  | power + 1 =>
    match multipleOf? rank (power + 1) with
    | some digits => (digits, power + 1)
    | none => coarsest rank power

/-- A power of ten that exceeds all that rounds to the double at `rank`. The logarithm of two lies
just below 0.30103. -/
def exceedingPower (rank : Nat) : Nat :=
  (size (rank + 1)).log2 * 30103 / 100000 + 2

/-- The decimal notation of `digits * 10 ^ power`. There are digits before the point, and after it
when the power leaves places to fill. -/
def positional (digits power : Nat) : Text :=
  let shown := Nat.toDigits 10 digits
  if finest ≤ power then shown ++ List.replicate (power - finest) '0'
  else
    let places := finest - power
    let padded := List.replicate (places + 1 - shown.length) '0' ++ shown
    padded.take (padded.length - places) ++ '.' :: padded.drop (padded.length - places)

def magnitude (rank : Nat) : Text :=
  if rank = 0 then ['0']
  else
    let (digits, power) := coarsest rank (exceedingPower rank)
    positional digits power

/-- The text of a double; zero keeps its sign, and what is not a number has none. -/
def text (x : Double) : Text :=
  if x.isNaN then "NaN".toList
  else
    let unsigned := if x.isFinite then magnitude x.rank else "inf".toList
    if x.negative then '-' :: unsigned else unsigned

end Sexpr.Double
