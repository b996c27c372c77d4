import Sexpr.Proofs.Fixture.Collect
import Sexpr.Proofs.Form.RoundTrip
/-!
Empty responses. Main statement: nothing is read from whitespace and comments, and something is shown of
whatever is read. So an empty response tells that a text holds nothing else; and where faults count for
nothing, it tells that the text holds nothing else or cannot be read.
-/
namespace Sexpr

open Form (read)

variable {text : Text}

theorem Form.reads_nothing_iff (depthLimit : Nat) : read depthLimit text = .ok none ↔ FinalGap text :=
  read_eq_none_iff.trans Scan.finds_nothing_iff

theorem Form.Readable.print_ne_nil {form : Form} (readable : form.Readable) : form.print ≠ [] := by
  cases readable with
  | atom holds =>
      -- The text of an atom that was read is a lexeme. Other atoms may have no text at all.
      obtain ⟨kind, isLexeme, _⟩ := holds.spelled
      exact isLexeme.ne_nil
  | list _ => simp [Form.print]

theorem respond_eq_error_iff {fault : Located ReadFault} :
    respond text = .error fault ↔ read defaultDepthLimit text = .error fault := by
  rw [respond]
  cases read defaultDepthLimit text <;> simp [Except.map]

theorem respond_eq_nil_iff : respond text = .ok [] ↔ FinalGap text := by
  rw [← Form.reads_nothing_iff defaultDepthLimit]
  constructor
  · intro responds
    rcases Form.respond_eq_ok responds with ⟨nothing, _⟩ | ⟨form, found, empty⟩
    · exact nothing
    · exact absurd empty.symm (Form.readable_of_read found).1.print_ne_nil
  · intro nothing
    simp [respond, nothing, shown, Except.map]

theorem respondOrNothing_eq_nil_iff :
    respondOrNothing text = [] ↔ respond text = .ok [] ∨ ∃ fault, respond text = .error fault := by
  rw [respondOrNothing]
  cases respond text <;> simp

/-- Exactly whitespace and comments are read as nothing, and no form that can be read is shown as nothing. So
the response is empty exactly for them, or if faults count for nothing, also for what cannot be read. That is
what a test passes for that expects an empty response or a failure. -/
theorem recognizes_empty_texts :
    (∀ depthLimit text, read depthLimit text = .ok none ↔ FinalGap text) ∧
      (∀ depthLimit text form, read depthLimit text = .ok (some form) → form.print ≠ []) ∧
      (∀ text, respond text = .ok [] ↔ FinalGap text) ∧
      (∀ text, respondOrNothing text = [] ↔
        FinalGap text ∨ ∃ fault, read defaultDepthLimit text = .error fault) ∧
      ∀ line text, (Fixture.Test.Passes ⟨line, text, .output []⟩ ↔ FinalGap text) ∧
        (Fixture.Test.Passes ⟨line, text, .failure⟩ ↔
          FinalGap text ∨ ∃ fault, read defaultDepthLimit text = .error fault) := by
  have orFault (text : Text) : (respond text = .ok [] ∨ ∃ fault, respond text = .error fault) ↔
      FinalGap text ∨ ∃ fault, read defaultDepthLimit text = .error fault :=
    or_congr respond_eq_nil_iff (exists_congr fun _ => respond_eq_error_iff)
  refine ⟨fun depthLimit _ => Form.reads_nothing_iff depthLimit, ?_, fun _ => respond_eq_nil_iff, ?_, ?_⟩
  · intro depthLimit text form found
    exact (Form.readable_of_read found).1.print_ne_nil
  · intro text
    rw [respondOrNothing_eq_nil_iff, orFault]
  · intro line text
    rw [Fixture.passes_output_iff, Fixture.passes_failure_iff, orFault]
    exact ⟨respond_eq_nil_iff, Iff.rfl⟩

theorem recognizes_comment_and_empty_list :
    (∀ depthLimit, read depthLimit " ,\t\r;(".toList = .ok none) ∧
      Fixture.Test.Passes ⟨1, " ,\t\r;(".toList, .failure⟩ ∧
      respond " ,\t\r;\n()".toList ≠ .ok [] ∧
      ∃ form, read 1 " ,\t\r;\n()".toList = .ok (some form) ∧ form.print ≠ [] := by
  obtain ⟨nothing, something, responds, _, tests⟩ := recognizes_empty_texts
  have blank : FinalGap " ,\t\r;(".toList := by decide
  have lexemes : (Scan.ofText " ,\t\r;\n()".toList).lexemes =
      [⟨.leftParen, ['('], ⟨1, 0⟩⟩, ⟨.rightParen, [')'], ⟨1, 1⟩⟩] := by decide +kernel
  have ending : (Scan.ofText " ,\t\r;\n()".toList).ending = .ok (.eof ⟨1, 2⟩) := by decide +kernel
  have found : read 1 " ,\t\r;\n()".toList = .ok (some (.list [] ⟨.leftParen, ['('], ⟨1, 0⟩⟩)) :=
    Form.read_of_scan (congrArg₂ Scan.mk lexemes ending) (by simp) (.list rfl (.closed rfl))
  refine ⟨fun depthLimit => (nothing depthLimit _).mpr blank, (tests 1 _).2.mpr (Or.inl blank), ?_, ?_⟩
  · exact mt (responds _).mp (by decide)
  · exact ⟨_, found, something _ _ _ found⟩

end Sexpr
