import Mathlib.Algebra.Group.Nat.Even
import Sexpr.Proofs.Token.Gap
/-!
Where a string ends, told by the backslashes in front of its quotes. Main statements: splitting stands
behind an escape exactly where an odd number of backslashes stands in front; so the scanner ends a string
at its first quote behind an even number of them, and finds an open string where there is none.
-/
namespace Sexpr

def backslashesAtEnd (text : Text) : Nat :=
  (text.reverse.takeWhile (· = '\\')).length

theorem backslashesAtEnd_append_backslash (text : Text) :
    backslashesAtEnd (text ++ ['\\']) = backslashesAtEnd text + 1 := by
  simp [backslashesAtEnd]

theorem backslashesAtEnd_append_other {c : Char} (other : c ≠ '\\') (text : Text) :
    backslashesAtEnd (text ++ [c]) = 0 := by
  simp [backslashesAtEnd, other]

/-- The first quote of a text behind an even number of backslashes: `inside` stands in front of it and
`beyond` behind it. Backslashes at the end of `before`, which comes in front of the text, count too. -/
structure ClosesAt (before text inside beyond : Text) : Prop where
  here : text = inside ++ '"' :: beyond
  even : Even (backslashesAtEnd (before ++ inside))
  first : ∀ earlier later, text = earlier ++ '"' :: later →
    Even (backslashesAtEnd (before ++ earlier)) → inside.length ≤ earlier.length

section Steps
variable {before text inside beyond : Text}

theorem not_closesAt_nil : ¬ ClosesAt before [] inside beyond := by
  intro closes
  simpa using closes.here

theorem closesAt_quote_iff (even : Even (backslashesAtEnd before)) :
    ClosesAt before ('"' :: text) inside beyond ↔ inside = [] ∧ beyond = text := by
  constructor
  · rintro ⟨here, _, first⟩
    have none := first [] text rfl (by simpa using even)
    have empty : inside = [] := List.eq_nil_of_length_eq_zero (Nat.le_zero.mp none)
    subst empty
    exact ⟨rfl, (List.cons.inj here).2.symm⟩
  · rintro ⟨rfl, rfl⟩
    exact ⟨rfl, by simpa using even, by simp⟩

theorem closesAt_cons_iff {c : Char} (open' : c = '"' → ¬ Even (backslashesAtEnd before)) :
    ClosesAt before (c :: text) inside beyond ↔
      ∃ later, inside = c :: later ∧ ClosesAt (before ++ [c]) text later beyond := by
  constructor
  · rintro ⟨here, even, first⟩
    cases inside with
    | nil =>
        obtain ⟨quote, _⟩ := List.cons.inj here
        exact absurd (by simpa using even) (open' quote)
    | cons d later =>
        obtain ⟨rfl, same⟩ := List.cons.inj here
        refine ⟨later, rfl, same, by simpa using even, ?_⟩
        intro earlier rest split evenEarlier
        have bound := first (c :: earlier) rest (by simp [split]) (by simpa using evenEarlier)
        simpa using bound
  · rintro ⟨later, rfl, same, even, first⟩
    refine ⟨by simp [same], by simpa using even, ?_⟩
    intro earlier rest split evenEarlier
    cases earlier with
    | nil =>
        obtain ⟨quote, _⟩ := List.cons.inj split
        exact absurd (by simpa using evenEarlier) (open' quote)
    | cons d earlier =>
        obtain ⟨rfl, behind⟩ := List.cons.inj split
        have bound := first earlier rest behind (by simpa using evenEarlier)
        simpa using bound

end Steps

theorem escapes_iff {escaped : Bool} {before : Text}
    (odd : escaped = true ↔ ¬ Even (backslashesAtEnd before)) (c : Char) :
    (c = '\\' && !escaped) = true ↔ ¬ Even (backslashesAtEnd (before ++ [c])) := by
  by_cases backslash : c = '\\'
  · subst backslash
    rw [backslashesAtEnd_append_backslash, Nat.even_add_one]
    cases escaped <;> simp_all
  · simp [backslash, backslashesAtEnd_append_other backslash]

/-- While a string is split, `escaped` says whether the backslashes in front are odd in number. -/
theorem splitString_eq_some_iff {escaped : Bool} {before text body beyond : Text}
    (odd : escaped = true ↔ ¬ Even (backslashesAtEnd before)) :
    splitString escaped text = some (body, beyond) ↔
      ∃ inside, body = inside ++ ['"'] ∧ ClosesAt before text inside beyond := by
  induction text generalizing escaped before body with
  | nil => simp [splitString, not_closesAt_nil]
  | cons c rest ih =>
      by_cases closing : c = '"' ∧ Even (backslashesAtEnd before)
      · obtain ⟨rfl, even⟩ := closing
        have unescaped : escaped = false := by simpa [even] using odd
        simp only [splitString, unescaped, closesAt_quote_iff even]
        constructor
        · rintro ⟨⟩
          exact ⟨[], rfl, rfl, rfl⟩
        · rintro ⟨_, rfl, rfl, rfl⟩
          rfl
      · have open' : c = '"' → ¬ Even (backslashesAtEnd before) := fun quote even => closing ⟨quote, even⟩
        have going : ¬ (c = '"' && !escaped) = true := by
          simp only [Bool.and_eq_true, decide_eq_true_eq, Bool.not_eq_true', not_and]
          intro quote
          simpa using odd.mpr (open' quote)
        -- The character is inside of the string, and what follows is split with it in front.
        rw [splitString, if_neg going, Option.map_eq_some_iff]
        simp only [closesAt_cons_iff open']
        constructor
        · rintro ⟨⟨later, after⟩, split, same⟩
          cases same
          obtain ⟨inside, rfl, closes⟩ := (ih (escapes_iff odd c)).mp split
          exact ⟨c :: inside, rfl, inside, rfl, closes⟩
        · rintro ⟨_, rfl, inside, rfl, closes⟩
          exact ⟨(inside ++ ['"'], beyond), (ih (escapes_iff odd c)).mpr ⟨inside, rfl, closes⟩, rfl⟩

namespace Scanner

theorem next_quote (rest : Text) (position : Position) :
    next ⟨'"' :: rest, position⟩ =
      match splitString false rest with
      | some (body, beyond) =>
        (.ok ⟨.string, '"' :: body, position⟩, ⟨beyond, position.through ('"' :: body)⟩)
      | none => (.error ⟨.unterminatedString, position⟩, ⟨[], position.through ('"' :: rest)⟩) := by
  have notGap : opensGap '"' = false := by decide
  simp only [next, splitGap_of_not_opensGap notGap, Position.through_nil, Head.of, if_true]
  cases splitString false rest <;> rfl

/-- A string goes from its opening quote through the first quote behind an even number of backslashes, all
characters as they are, and the scanner is then behind it. Where there is no such quote, the string is open:
the fault is reported at its opening quote, and no text is left. -/
theorem string_ends_at_even_quote (scanner : Scanner) (gap rest : Text) (isGap : Gap gap)
    (here : scanner.rest = gap ++ '"' :: rest) :
    (∀ inside beyond, ClosesAt [] rest inside beyond →
      scanner.next =
        (.ok ⟨.string, '"' :: (inside ++ ['"']), scanner.position.through gap⟩,
          ⟨beyond, (scanner.position.through gap).through ('"' :: (inside ++ ['"']))⟩)) ∧
    ((¬ ∃ inside beyond, ClosesAt [] rest inside beyond) →
      scanner.next =
        (.error ⟨.unterminatedString, scanner.position.through gap⟩,
          ⟨[], (scanner.position.through gap).through ('"' :: rest)⟩)) := by
  obtain ⟨text, position⟩ := scanner
  subst here
  have unescaped : false = true ↔ ¬ Even (backslashesAtEnd []) := by decide
  simp only [next_behind_gap isGap, next_quote]
  constructor
  · intro inside beyond closes
    rw [(splitString_eq_some_iff unescaped).mpr ⟨inside, rfl, closes⟩]
  · intro never
    cases split : splitString false rest with
    | none => rfl
    | some parts =>
        obtain ⟨body, beyond⟩ := parts
        obtain ⟨inside, _, closes⟩ := (splitString_eq_some_iff unescaped).mp split
        exact absurd ⟨inside, beyond, closes⟩ never

theorem string_ends_behind_escaped_backslash :
    next ⟨",\"\\\"\\\\\"x".toList, ⟨0, 0⟩⟩ =
      (.ok ⟨.string, "\"\\\"\\\\\"".toList, ⟨0, 1⟩⟩, ⟨['x'], ⟨0, 7⟩⟩) := by
  have comma : Gap [','] := .white (by decide) .empty
  have closes : ClosesAt [] "\\\"\\\\\"x".toList "\\\"\\\\".toList ['x'] := by
    refine ⟨rfl, by decide, ?_⟩
    intro earlier later same even
    rcases earlier with _ | ⟨a, _ | ⟨b, _ | ⟨c, _ | ⟨d, earlier⟩⟩⟩⟩ <;> simp at same ⊢
    obtain ⟨rfl, _⟩ := same
    exact absurd even (by decide)
  exact (string_ends_at_even_quote ⟨_, ⟨0, 0⟩⟩ [','] _ comma rfl).1 _ _ closes

end Scanner

end Sexpr
