/-!
Binary floating point numbers of 64 bits.

A double is a sign and a rank: its exponent and fraction fields read as one number. The ranks below
`infinityRank` count the finite non-negative doubles in the order of their size, so that a neighbour
of a double is one rank away, and `units` gives the size itself as a whole number of the least
positive double.
-/
namespace Sexpr

structure Double where
  negative : Bool
  rank : Nat
  rank_lt : rank < 0x8000000000000000
  deriving DecidableEq

namespace Double

def binade : Nat := 0x10000000000000

/-- Of the 2048 exponents the last is kept for infinity and what is not a number. -/
def infinityRank : Nat := 2047 * binade

/-- The least positive double is two to the power `-finest`. -/
def finest : Nat := 1074

def scale (rank : Nat) : Nat :=
  rank / binade - 1

def significand (rank : Nat) : Nat :=
  rank - scale rank * binade

/-- The size of the double at a finite rank, counted in least positive doubles. At `infinityRank`
it is the size that the largest double would be followed by. -/
def units (rank : Nat) : Nat :=
  significand rank <<< scale rank

def isNaN (x : Double) : Bool :=
  infinityRank < x.rank

def isFinite (x : Double) : Bool :=
  x.rank < infinityRank

/-- Equality of numbers: the two zeros are equal, and what is not a number equals nothing. -/
def same (x y : Double) : Bool :=
  !x.isNaN && x.rank = y.rank && (x.negative = y.negative || x.rank = 0)

def ofBits (bits : UInt64) : Double :=
  ⟨0x8000000000000000 ≤ bits.toNat, bits.toNat % 0x8000000000000000, Nat.mod_lt _ (by decide)⟩

def toBits (x : Double) : UInt64 :=
  .ofNat ((if x.negative then 0x8000000000000000 else 0) + x.rank)

theorem toBits_ofBits (bits : UInt64) : (ofBits bits).toBits = bits := by
  have size := bits.toNat_lt
  apply UInt64.toNat.inj
  by_cases high : 0x8000000000000000 ≤ bits.toNat <;> simp only [ofBits, toBits, high] <;> simp <;> omega

end Double

end Sexpr
