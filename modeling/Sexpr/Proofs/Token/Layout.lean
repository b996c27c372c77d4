import Sexpr.Proofs.Position
import Sexpr.Proofs.Token.Run
/-!
How a scan covers its text. Main statements: after any number of steps a scanner stands behind some part
of the text, at the position of what follows; and the text is the texts of the tokens found, in order,
with nothing but gaps between them, up to the end or up to the place of the fault.
-/
namespace Sexpr

namespace Scanner

def afterSteps (scanner : Scanner) : Nat → Scanner
  | 0 => scanner
  | count + 1 => scanner.next.2.afterSteps count

theorem Step.moves {scanner after : Scanner} {outcome : Except (Located ScanFault) Token}
    (step : Step scanner outcome after) :
    ∃ taken, scanner.rest = taken ++ after.rest ∧
      after.position = scanner.position.through taken := by
  cases step with
  | @finished gap _ _ => exact ⟨gap, by simp, rfl⟩
  | @lexeme gap lexeme _ _ _ _ _ =>
      exact ⟨gap ++ lexeme, by simp, by simp only [Position.through_append]⟩
  | @openString gap body _ _ _ =>
      exact ⟨gap ++ '"' :: body, by simp, by simp only [Position.through_append]⟩
  | @stray gap _ _ _ _ _ => exact ⟨gap, rfl, rfl⟩

theorem afterSteps_moves (scanner : Scanner) (count : Nat) :
    ∃ taken, scanner.rest = taken ++ (scanner.afterSteps count).rest ∧
      (scanner.afterSteps count).position = scanner.position.through taken := by
  induction count generalizing scanner with
  | zero => exact ⟨[], rfl, rfl⟩
  | succ count ih =>
      obtain ⟨first, text, position⟩ := (next_step scanner).moves
      obtain ⟨later, rest, final⟩ := ih scanner.next.2
      refine ⟨first ++ later, ?_, ?_⟩
      · rw [text, rest, List.append_assoc]
        rfl
      · rw [Position.through_append, ← position]
        exact final

/-- A scanner of a text has passed some of it: the rest is still to come, and its position is the fold
over what it passed, which counts its line feeds and its last line. Line and column together are no
larger than the number of characters, so that they fit where that number fits. -/
structure HasPassed (text passed : Text) (scanner : Scanner) : Prop where
  split : text = passed ++ scanner.rest
  position : scanner.position = .through .start passed
  counted : scanner.position = ⟨passed.count '\n', (Position.lastLine passed).length⟩
  bounded : scanner.position.line + scanner.position.column ≤ passed.length

theorem afterSteps_hasPassed (text : Text) (count : Nat) :
    ∃ passed, HasPassed text passed ((ofText text).afterSteps count) := by
  obtain ⟨passed, rest, position⟩ := afterSteps_moves (ofText text) count
  have fold : ((ofText text).afterSteps count).position = .through .start passed := position
  have small := Position.line_add_column_le passed .start
  refine ⟨passed, rest, fold, ?_, ?_⟩
  · rw [fold, Position.through_start_eq]
  · rw [fold]
    simpa [Position.start] using small

end Scanner

/-- Tokens behind a text that ends at the last of them: in front of each token stands a gap, and its
position is that of everything before it. -/
inductive LaidOut : Text → List Token → Text → Prop
  | done {before : Text} : LaidOut before [] before
  | token {before gap whole : Text} {token : Token} {tokens : List Token} : Gap gap →
      Lexeme token.kind token.text → token.position = .through .start (before ++ gap) →
      LaidOut (before ++ gap ++ token.text) tokens whole → LaidOut before (token :: tokens) whole

/-- What is left of a text behind the last token: a gap, and what the scanner stopped at if it is not the
end of the text. -/
inductive Ends (before : Text) : Text → Except (Located ScanFault) Token → Prop
  | finished {gap : Text} : FinalGap gap →
      Ends before gap (.ok (.eof (.through .start (before ++ gap))))
  | openString {gap body : Text} : Gap gap → Scanner.OpenString body →
      Ends before (gap ++ '"' :: body)
        (.error ⟨.unterminatedString, .through .start (before ++ gap)⟩)
  | stray {gap beyond : Text} {c : Char} : Gap gap → Scanner.Stray c →
      Ends before (gap ++ c :: beyond)
        (.error ⟨.unexpectedChar c, .through .start (before ++ gap)⟩)

open Scanner (Yields Step)

theorem Lexeme.ne_nil {kind : Kind} {lexeme : Text} (isLexeme : Lexeme kind lexeme) : lexeme ≠ [] := by
  obtain ⟨c, rest, same, _⟩ := isLexeme.exists_cons
  simp [same]

theorem Scanner.Yields.laidOut {scanner last : Scanner} {tokens : List Token}
    (yields : Yields scanner tokens last) {before : Text}
    (position : scanner.position = .through .start before) :
    ∃ covered, LaidOut before tokens covered ∧ before ++ scanner.rest = covered ++ last.rest ∧
      last.position = .through .start covered := by
  induction yields generalizing before with
  | done => exact ⟨before, .done, rfl, position⟩
  | @found scanner middle last token tokens found more _ ih =>
      have step := next_step scanner
      rw [found] at step
      cases step with
      | finished => exact absurd rfl more
      | @lexeme gap lexeme beyond kind start isGap isLexeme =>
          -- The position moves over the gap and the lexeme as the fold over the text does.
          have here : start.through gap = .through .start (before ++ gap) := by
            rw [Position.through_append, ← position]
          have behind : (start.through gap).through lexeme =
              .through .start (before ++ gap ++ lexeme) := by
            rw [Position.through_append, ← here]
          obtain ⟨covered, laidOut, text, final⟩ := ih behind
          exact ⟨covered, .token isGap isLexeme here laidOut, by simpa using text, final⟩

theorem Scanner.Step.ends {before text : Text} {after : Scanner}
    {outcome : Except (Located ScanFault) Token}
    (step : Step ⟨text, .through .start before⟩ outcome after)
    (last : ∀ token, outcome = .ok token → token.kind = .eof) : Ends before text outcome := by
  cases step with
  | finished final =>
      rw [← Position.through_append]
      exact .finished final
  | lexeme _ isLexeme => exact absurd (last _ rfl) isLexeme.kind_ne_eof
  | openString isGap isOpen =>
      rw [← Position.through_append]
      exact .openString isGap isOpen
  | stray isGap isStray =>
      rw [← Position.through_append]
      exact .stray isGap isStray

def itemPosition : Except (Located ScanFault) Token → Position
  | .ok token => token.position
  | .error fault => fault.position

theorem Ends.position {before tail : Text} {ending : Except (Located ScanFault) Token}
    (ends : Ends before tail ending) : ∃ gap, itemPosition ending = .through .start (before ++ gap) := by
  cases ends with
  | finished _ => exact ⟨_, rfl⟩
  | openString _ _ => exact ⟨_, rfl⟩
  | stray _ _ => exact ⟨_, rfl⟩

namespace LaidOut

variable {before whole : Text} {tokens : List Token}

theorem append (laidOut : LaidOut before tokens whole) : ∃ more, whole = before ++ more := by
  induction laidOut with
  | done => exact ⟨[], by simp⟩
  | @token _ gap _ token _ _ _ _ _ ih =>
      obtain ⟨more, same⟩ := ih
      exact ⟨gap ++ token.text ++ more, by simp [same]⟩

theorem text_subset (laidOut : LaidOut before tokens whole) : ∀ token ∈ tokens, token.text ⊆ whole := by
  induction laidOut with
  | done => simp
  | @token before gap whole first tokens _ _ _ later ih =>
      obtain ⟨rest, same⟩ := later.append
      have here : first.text ⊆ whole := by
        intro c member
        simp [same, member]
      exact List.forall_mem_cons.mpr ⟨here, ih⟩

theorem position (laidOut : LaidOut before tokens whole) :
    ∀ token ∈ tokens, ∃ more beyond, token.position = .through .start (before ++ more) ∧
      whole = before ++ more ++ beyond ∧ beyond ≠ [] := by
  induction laidOut with
  | done => simp
  | @token before gap whole first tokens isGap isLexeme start later ih =>
      intro token member
      rcases List.mem_cons.mp member with rfl | inside
      · obtain ⟨rest, same⟩ := later.append
        exact ⟨gap, token.text ++ rest, start, by simp [same], by simp [isLexeme.ne_nil]⟩
      · obtain ⟨more, beyond, position, same, present⟩ := ih token inside
        exact ⟨gap ++ first.text ++ more, beyond, by simpa using position, by simp [same], present⟩

theorem pairwise (laidOut : LaidOut before tokens whole) :
    tokens.Pairwise fun first second => first.position.Before second.position := by
  induction laidOut with
  | done => exact .nil
  | @token before gap whole first tokens isGap isLexeme start later ih =>
      apply List.Pairwise.cons _ ih
      intro second member
      obtain ⟨more, _, position, _, _⟩ := later.position second member
      rw [start, position, List.append_assoc (before ++ gap)]
      exact Position.before_through_append (by simp [isLexeme.ne_nil]) _ _

end LaidOut

namespace Scan

theorem ofText_stops (text : Text) :
    ∃ covered rest, text = covered ++ rest ∧ LaidOut [] (ofText text).lexemes covered ∧
      Yields (.ofText text) (ofText text).lexemes ⟨rest, .through .start covered⟩ ∧
      (Scanner.next ⟨rest, .through .start covered⟩).1 = (ofText text).ending ∧
      ∀ token, (ofText text).ending = .ok token → token.kind = .eof := by
  obtain ⟨⟨rest, position⟩, yields, ending, closed⟩ := ofText_run text
  obtain ⟨covered, laidOut, same, rfl⟩ : ∃ covered, LaidOut [] (ofText text).lexemes covered ∧
      text = covered ++ rest ∧ position = .through .start covered := yields.laidOut rfl
  exact ⟨covered, rest, same, laidOut, yields, ending, closed⟩

theorem covers (text : Text) :
    ∃ covered tail, text = covered ++ tail ∧ LaidOut [] (ofText text).lexemes covered ∧
      Ends covered tail (ofText text).ending := by
  obtain ⟨covered, rest, same, laidOut, _, ending, closed⟩ := ofText_stops text
  refine ⟨covered, rest, same, laidOut, ?_⟩
  have step := Scanner.next_step ⟨rest, .through .start covered⟩
  rw [ending] at step
  exact step.ends closed

theorem stop_eq {text : Text} {lexemes : List Token} {stop : Token}
    (scan : ofText text = ⟨lexemes, .ok stop⟩) : stop = .eof (.through .start text) := by
  obtain ⟨covered, tail, same, _, ends⟩ := covers text
  rw [scan] at ends
  generalize found : Except.ok stop = ending at ends
  cases ends with
  | finished _ =>
      cases found
      rw [same]
  | openString _ _ => cases found
  | stray _ _ => cases found

theorem finds_nothing_iff {text : Text} : (∃ stop, ofText text = ⟨[], .ok stop⟩) ↔ FinalGap text := by
  constructor
  · rintro ⟨stop, nothing⟩
    obtain ⟨covered, tail, same, laidOut, ends⟩ := covers text
    rw [nothing] at laidOut ends
    cases laidOut
    cases ends with
    | finished final => exact same ▸ final
  · intro final
    exact ⟨_, ofScanner_finished (Scanner.next_finished final .start) rfl⟩

theorem lexemes_text_subset (text : Text) : ∀ token ∈ (ofText text).lexemes, token.text ⊆ text := by
  obtain ⟨covered, tail, same, laidOut, _⟩ := covers text
  intro token member c inside
  rw [same]
  exact List.mem_append_left _ (laidOut.text_subset token member inside)

theorem positions_pairwise {covered tail : Text} {scan : Scan}
    (laidOut : LaidOut [] scan.lexemes covered) (ends : Ends covered tail scan.ending) :
    (scan.items.map itemPosition).Pairwise Position.Before := by
  rw [items, List.map_append, List.map_map]
  apply List.pairwise_append.mpr
  refine ⟨List.pairwise_map.mpr laidOut.pairwise, List.pairwise_singleton _ _, ?_⟩
  intro first member second last
  obtain ⟨token, inside, rfl⟩ := List.mem_map.mp member
  obtain ⟨gap, final⟩ := ends.position
  obtain ⟨more, beyond, position, same, present⟩ := laidOut.position token inside
  have ending : second = itemPosition scan.ending := by simpa using last
  have start : (itemPosition ∘ Except.ok) token = .through .start ([] ++ more) := position
  rw [ending, final, start, same, List.append_assoc _ beyond]
  exact Position.before_through_append (by simp [present]) _ _

/-- Nothing is lost and nothing invented, neither by the scanner after any number of steps, nor in a scan
up to its end or its fault; and positions grow strictly up to there. -/
theorem accounts_for_text (text : Text) :
    (∀ count, ∃ passed, Scanner.HasPassed text passed ((Scanner.ofText text).afterSteps count)) ∧
      (∃ covered tail, text = covered ++ tail ∧ LaidOut [] (ofText text).lexemes covered ∧
        Ends covered tail (ofText text).ending) ∧
      (∀ token ∈ (ofText text).lexemes, token.text ≠ []) ∧
      ((ofText text).items.map itemPosition).Pairwise Position.Before := by
  obtain ⟨covered, tail, same, laidOut, ends⟩ := covers text
  refine ⟨Scanner.afterSteps_hasPassed text, ⟨covered, tail, same, laidOut, ends⟩, ?_,
    positions_pairwise laidOut ends⟩
  intro token member
  obtain ⟨last, yields, _⟩ := ofScanner_run (.ofText text)
  exact (yields.lexemes token member).ne_nil

theorem accounts_for_open_string :
    (ofText ";x\n(\"".toList).lexemes = [⟨.leftParen, ['('], ⟨1, 0⟩⟩] ∧
      (ofText ";x\n(\"".toList).ending = .error ⟨.unterminatedString, ⟨1, 1⟩⟩ ∧
      ∀ token ∈ (ofText ";x\n(\"".toList).lexemes, token.text ≠ [] := by
  refine ⟨by decide +kernel, by decide +kernel, ?_⟩
  exact (accounts_for_text ";x\n(\"".toList).2.2.1

end Scan

end Sexpr
