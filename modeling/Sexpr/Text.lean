/-!
Texts. The library reads and writes lists of characters; a `String` is met only in messages and at
the outer edge.
-/
namespace Sexpr

abbrev Text := List Char

def inRanges (ranges : List (Nat × Nat)) (c : Char) : Bool :=
  ranges.any fun (low, high) => low ≤ c.toNat && c.toNat ≤ high

end Sexpr
