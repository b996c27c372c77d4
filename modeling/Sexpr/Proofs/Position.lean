import Mathlib.Data.List.Induction
import Sexpr.Position
/-!
Positions as a function of the text in front. Main statements: the position behind a text is its number
of line feeds and the length of its last line; and positions grow with every character.
-/
namespace Sexpr.Position

def Before (p q : Position) : Prop :=
  p.line < q.line ∨ (p.line = q.line ∧ p.column < q.column)

theorem Before.trans {p q r : Position} (first : Before p q) (second : Before q r) : Before p r := by
  rcases first with lines | ⟨lines, columns⟩ <;> rcases second with lines' | ⟨lines', columns'⟩
  · exact Or.inl (Nat.lt_trans lines lines')
  · exact Or.inl (lines' ▸ lines)
  · exact Or.inl (lines ▸ lines')
  · exact Or.inr ⟨lines.trans lines', Nat.lt_trans columns columns'⟩

theorem Before.ne {p q : Position} (before : Before p q) : p ≠ q := by
  rintro rfl
  rcases before with lines | ⟨_, columns⟩
  · exact Nat.lt_irrefl _ lines
  · exact Nat.lt_irrefl _ columns

theorem before_after (p : Position) (c : Char) : Before p (p.after c) := by
  by_cases feed : c = '\n'
  · exact Or.inl (by simp [after, feed])
  · exact Or.inr (by simp [after, feed])

theorem before_through {text : Text} (present : text ≠ []) (p : Position) :
    Before p (p.through text) := by
  induction text generalizing p with
  | nil => exact absurd rfl present
  | cons c rest ih =>
      rw [through_cons]
      by_cases more : rest = []
      · rw [more]
        exact before_after p c
      · exact (before_after p c).trans (ih more (p.after c))

theorem before_through_append {more : Text} (present : more ≠ []) (p : Position) (text : Text) :
    Before (p.through text) (p.through (text ++ more)) := by
  rw [through_append]
  exact before_through present _

def lastLine (text : Text) : Text :=
  text.reverse.takeWhile (· ≠ '\n')

theorem through_start_eq (text : Text) :
    start.through text = ⟨text.count '\n', (lastLine text).length⟩ := by
  induction text using List.reverseRecOn with
  | nil => rfl
  | append_singleton text c ih =>
      rw [through_append, ih]
      by_cases feed : c = '\n'
      · simp [through_cons, through_nil, after, lastLine, feed]
      · simp [through_cons, through_nil, after, lastLine, feed]

theorem line_add_column_le (text : Text) (p : Position) :
    (p.through text).line + (p.through text).column ≤ p.line + p.column + text.length := by
  induction text generalizing p with
  | nil => exact Nat.le_refl _
  | cons c rest ih =>
      have later := ih (p.after c)
      have here : (p.after c).line + (p.after c).column ≤ p.line + p.column + 1 := by
        by_cases feed : c = '\n' <;> simp only [after, feed, if_true, if_false] <;> omega
      rw [through_cons, List.length_cons]
      omega

end Sexpr.Position
