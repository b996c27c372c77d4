import Mathlib.Data.List.Forall2
import Sexpr.Proofs.Token.Run
/-!
Texts put one behind another with gaps between them. Main statement: where every one of them is scanned
as tokens of its own whenever a boundary follows, the whole is scanned as these tokens in order, and so it
is with gaps around it.
-/
namespace Sexpr

/-- The texts of some items in order. A gap that is not empty parts each from the next. -/
inductive Spaced {α : Type} (text : α → Text) : List α → Text → Prop
  | none : Spaced text [] []
  | one {item : α} : Spaced text [item] (text item)
  | more {item next : α} {items : List α} {gap whole : Text} : Gap gap → gap ≠ [] →
      Spaced text (next :: items) whole →
      Spaced text (item :: next :: items) (text item ++ (gap ++ whole))

theorem Gap.boundary {gap : Text} (isGap : Gap gap) (present : gap ≠ []) (beyond : Text) :
    Boundary (gap ++ beyond) := by
  cases isGap with
  | empty => exact absurd rfl present
  | white white _ => exact .of_opensGap (by simp [opensGap, white]) _
  | comment _ _ => exact .of_opensGap rfl _

namespace Scanner

/-- Where a boundary follows, a text is scanned as certain tokens, and the scanner is then behind it. -/
def ScansAs (text : Text) (Found : List Token → Prop) : Prop :=
  ∀ beyond, Boundary beyond → ∀ position, ∃ tokens, Found tokens ∧
    Yields ⟨text ++ beyond, position⟩ tokens ⟨beyond, position.through text⟩

theorem scansAs_lexeme {kind : Kind} {lexeme : Text} (isLexeme : Lexeme kind lexeme) :
    ScansAs lexeme fun tokens => ∃ position, tokens = [⟨kind, lexeme, position⟩] :=
  fun _ boundary position => ⟨_, ⟨position, rfl⟩, Yields.lexeme isLexeme boundary position⟩

end Scanner

open Scanner (ScansAs Yields)

theorem Spaced.scansAs {α : Type} {text : α → Text} {Found : α → List Token → Prop} {items : List α}
    {whole : Text} (spaced : Spaced text items whole)
    (each : ∀ item ∈ items, ScansAs (text item) (Found item))
    (some : ∀ item ∈ items, ∀ tokens, Found item tokens → tokens ≠ []) :
    ScansAs whole fun tokens => ∃ parts, tokens = parts.flatten ∧ List.Forall₂ Found items parts := by
  induction spaced with
  | none =>
      intro beyond _ position
      exact ⟨[], ⟨[], rfl, .nil⟩, .done⟩
  | @one item =>
      intro beyond boundary position
      obtain ⟨tokens, found, yields⟩ := each item (by simp) beyond boundary position
      exact ⟨tokens, ⟨[tokens], by simp, .cons found .nil⟩, yields⟩
  | @more item next items gap whole isGap present _ ih =>
      intro beyond boundary position
      obtain ⟨first, found, yields⟩ := each item (by simp) (gap ++ (whole ++ beyond))
        (isGap.boundary present _) position
      obtain ⟨tokens, ⟨parts, rfl, all⟩, later⟩ :=
        ih (fun item member => each item (List.mem_cons_of_mem _ member))
          (fun item member => some item (List.mem_cons_of_mem _ member)) beyond boundary
          ((position.through (text item)).through gap)
      -- The next item has a token, and the gap goes with it.
      have nonempty : parts.flatten ≠ [] := by
        cases all with
        | cons head _ => simp [some next (by simp) _ head]
      refine ⟨first ++ parts.flatten, ⟨first :: parts, rfl, .cons found all⟩, ?_⟩
      have both := yields.append (later.behind_gap isGap nonempty)
      simpa [Position.through_append] using both

namespace Scan

theorem ofScanner_behind_gap {gap : Text} (isGap : Gap gap) (text : Text) (position : Position) :
    ofScanner ⟨gap ++ text, position⟩ = ofScanner ⟨text, position.through gap⟩ :=
  ofScanner_congr (Scanner.next_behind_gap isGap text position)

theorem ofText_between_gaps {lead text trail : Text} {Found : List Token → Prop}
    (scansAs : ScansAs text Found) (isLead : Gap lead) (isTrail : Gap trail) :
    ∃ tokens position, Found tokens ∧
      ofText (lead ++ (text ++ trail)) = ⟨tokens, .ok (.eof position)⟩ := by
  have boundary : Boundary trail := by
    by_cases empty : trail = []
    · simp [empty, Boundary.nil]
    · simpa using isTrail.boundary empty []
  obtain ⟨tokens, found, yields⟩ := scansAs trail boundary (Position.start.through lead)
  have last := Scanner.next_finished (.closed isTrail) ((Position.start.through lead).through text)
  have scan : ofText (lead ++ (text ++ trail)) = _ :=
    (ofScanner_behind_gap isLead (text ++ trail) .start).trans (ofScanner_of_yields yields)
  rw [ofScanner_finished last rfl, List.append_nil] at scan
  exact ⟨tokens, _, found, scan⟩

end Scan

end Sexpr
