import Mathlib.Data.List.Basic
import Sexpr.Proofs.Token.Continuation
/-!
Scanning a text with whitespace behind it. Main statement: whatever the text ends with, an open comment or
an open string among them, the whitespace changes nothing but the place of the end token.
-/
namespace Sexpr

theorem FinalGap.append_white {gap : Text} {c : Char} (final : FinalGap gap)
    (white : isWhitespace c = true) : FinalGap (gap ++ [c]) := by
  cases final with
  | closed isGap => exact .closed (isGap.append (.white white .empty))
  | commented isGap inside =>
      by_cases feed : c = '\n'
      · subst feed
        exact .closed (FinalGap.commented isGap inside).append_feed
      · rw [List.append_assoc, List.cons_append]
        exact .commented isGap (by simp [inside, Ne.symm feed])

theorem FinalGap.append_blank {gap blank : Text} (final : FinalGap gap)
    (white : ∀ c ∈ blank, isWhitespace c = true) : FinalGap (gap ++ blank) := by
  induction blank generalizing gap with
  | nil => simpa using final
  | cons c rest ih =>
      have first := final.append_white (white c (by simp))
      simpa using ih first fun d member => white d (List.mem_cons_of_mem c member)

theorem Boundary.of_blank {blank : Text} (white : ∀ c ∈ blank, isWhitespace c = true) :
    Boundary blank := by
  intro c head
  have opens : opensGap c = true := by simp [opensGap, white c (List.mem_of_head? head)]
  exact not_isSymbolChar_of_opensGap opens

namespace Scanner

theorem OpenString.append {body more : Text} (isOpen : OpenString body) (noQuote : '"' ∉ more) :
    OpenString (body ++ more) := by
  intro string beyond isString same
  rcases List.append_eq_append_iff.mp same with ⟨inside, rfl, rfl⟩ | ⟨later, rfl, _⟩
  · by_cases none : inside = []
    · subst none
      rw [List.append_nil] at isString
      exact isOpen body [] isString (List.append_nil body).symm
    · have last := isString.getLast?_cons '"'
      rw [← List.cons_append, List.getLast?_append_of_ne_nil _ none] at last
      exact noQuote (List.mem_append_left _ (List.mem_of_getLast? last))
  · exact isOpen string later isString rfl

theorem next_openString {gap body : Text} (isGap : Gap gap) (isOpen : OpenString body)
    (position : Position) :
    next ⟨gap ++ '"' :: body, position⟩ = (.error ⟨.unterminatedString, position.through gap⟩,
      ⟨[], (position.through gap).through ('"' :: body)⟩) := by
  have noGap : opensGap '"' = false := by decide
  rw [next_behind_gap isGap]
  simp only [next, splitGap_of_not_opensGap noGap, Position.through_nil, Head.of_openString isOpen]

end Scanner

namespace Scan

theorem ofText_append_blank (text : Text) {blank : Text}
    (white : ∀ c ∈ blank, isWhitespace c = true) :
    ofText (text ++ blank) = { ofText text with
      ending := (ofText text).ending.map fun _ => .eof (.through .start (text ++ blank)) } := by
  obtain ⟨covered, rest, whole, _, yields, ending, closed⟩ := ofText_stops text
  have goesOn := ofScanner_of_yields (yields.followedBy (Or.inr (.of_blank white)))
  -- What the scanner stopped at, it meets again, or the end behind the whitespace.
  suffices stops : ofScanner (Scanner.followedBy ⟨rest, .through .start covered⟩ blank) =
      ⟨[], (ofText text).ending.map fun _ => .eof (.through .start (text ++ blank))⟩ by
    rw [stops, List.append_nil] at goesOn
    exact goesOn
  have step := Scanner.next_step ⟨rest, .through .start covered⟩
  rw [ending] at step
  generalize (ofText text).ending = found at step closed
  generalize (Scanner.next ⟨rest, .through .start covered⟩).2 = after at step
  cases step with
  | finished final =>
      have last := Scanner.next_finished (final.append_blank white) (.through .start covered)
      rw [← Position.through_append, ← List.append_assoc, ← whole] at last
      exact ofScanner_finished last rfl
  | lexeme _ isLexeme => exact absurd (closed _ rfl) isLexeme.kind_ne_eof
  | @openString gap body _ isGap isOpen =>
      have noQuote : '"' ∉ blank := fun member => absurd (white '"' member) (by decide)
      have again := Scanner.next_openString isGap (isOpen.append noQuote) (.through .start covered)
      have failed := ofScanner_failed again
      simpa [Scanner.followedBy, Except.map] using failed
  | @stray gap beyond c _ isGap isStray =>
      have again := Scanner.next_stray isGap isStray (beyond ++ blank) (.through .start covered)
      have failed := ofScanner_failed again
      simpa [Scanner.followedBy, Except.map] using failed

end Scan

end Sexpr
