import Mathlib.Data.List.Basic
import Sexpr.Fixture
import Sexpr.Proofs.Text.Lines
/-!
How tests are found in lines and run. Main statements: what each kind of line does to the tests collected
from it on, and that a run counts the tests exactly if all of them pass.
-/
namespace Sexpr.Fixture

/-- A line between tests, of comment or of nothing to see. -/
def Idle (line : Text) : Prop :=
  commentOpening <+: line ∨ ∀ c ∈ line, isBlank c = true

theorem isSkipped_iff {line : Text} : isSkipped line = true ↔ Idle line := by
  simp [isSkipped, isBlankLine, Idle]

instance (line : Text) : Decidable (Idle line) :=
  decidable_of_iff (isSkipped line = true) isSkipped_iff

structure IsInput (line : Text) : Prop where
  notIdle : ¬ Idle line
  notStop : ¬ stopOpening <+: line

instance (line : Text) : Decidable (IsInput line) :=
  decidable_of_iff (¬ Idle line ∧ ¬ stopOpening <+: line)
    ⟨fun ⟨notIdle, notStop⟩ => ⟨notIdle, notStop⟩,
      fun isInput => ⟨isInput.notIdle, isInput.notStop⟩⟩

theorem isStop_iff {line : Text} : isStop line = true ↔ stopOpening <+: line := by
  rw [isStop, List.isPrefixOf_iff_prefix]

theorem not_idle_of_stop {line : Text} (stop : stopOpening <+: line) : ¬ Idle line := by
  obtain ⟨more, rfl⟩ := stop
  rw [← isSkipped_iff]
  exact Bool.false_ne_true

theorem not_promise_of_stop {line : Text} (stop : stopOpening <+: line) : ¬ outputOpening <+: line := by
  obtain ⟨more, rfl⟩ := stop
  rw [← List.isPrefixOf_iff_prefix]
  exact Bool.false_ne_true

theorem lines_of_stop {text : Text} (stop : stopOpening <+: text) :
    ∃ marker later, lines text = marker :: later ∧ stopOpening <+: marker := by
  obtain ⟨more, rfl⟩ := stop
  have fits : FitsLine stopOpening := by decide
  exact lines_of_opening fits (by decide) more

theorem Expectation.ofLine?_eq_output_iff {line promised : Text} :
    ofLine? (some line) = .output promised ↔ outputOpening ++ promised = line := by
  rw [← List.isPrefixOf?_eq_some_iff_append_eq, ofLine?, Option.bind_some]
  cases outputOpening.isPrefixOf? line with
  | none => simp
  | some found => simp

theorem Expectation.ofLine?_eq_failure_iff {line : Text} :
    ofLine? (some line) = .failure ↔ ¬ outputOpening <+: line := by
  have promises : ofLine? (some line) ≠ .failure ↔ outputOpening <+: line := by
    cases expectation : ofLine? (some line) with
    | output promised => exact iff_of_true nofun ⟨promised, ofLine?_eq_output_iff.mp expectation⟩
    | failure =>
        refine iff_of_false (fun other => other rfl) ?_
        rintro ⟨promised, same⟩
        rw [ofLine?_eq_output_iff.mpr same] at expectation
        cases expectation
  rw [← promises, not_ne_iff]

section Lines
variable {number : Nat} {line : Text} {rest : List Text}

theorem collectFrom_idle (idle : Idle line) :
    collectFrom number (line :: rest) = collectFrom (number + 1) rest := by
  rw [collectFrom.eq_def]
  exact if_pos (isSkipped_iff.mpr idle)

theorem collectFrom_stop (stop : stopOpening <+: line) : collectFrom number (line :: rest) = [] := by
  have other : ¬ isSkipped line = true := mt isSkipped_iff.mp (not_idle_of_stop stop)
  rw [collectFrom.eq_def]
  exact (if_neg other).trans (if_pos (isStop_iff.mpr stop))

theorem collectFrom_input {expected : Text} {expectation : Expectation} (isInput : IsInput line)
    (expects : .ofLine? (some expected) = expectation) :
    collectFrom number (line :: expected :: rest) =
      ⟨number, line, expectation⟩ :: collectFrom (number + 2) rest := by
  have notIdle : ¬ isSkipped line = true := mt isSkipped_iff.mp isInput.notIdle
  have notStop : ¬ isStop line = true := mt isStop_iff.mp isInput.notStop
  rw [collectFrom, if_neg notIdle, if_neg notStop, expects]

theorem collectFrom_last (isInput : IsInput line) :
    collectFrom number [line] = [⟨number, line, .failure⟩] := by
  have notIdle : ¬ isSkipped line = true := mt isSkipped_iff.mp isInput.notIdle
  have notStop : ¬ isStop line = true := mt isStop_iff.mp isInput.notStop
  rw [collectFrom.eq_def]
  exact (if_neg notIdle).trans (if_neg notStop)

end Lines

def Test.Passes (test : Test) : Prop :=
  ∃ output, test.outcome = .passed output

theorem passes_output_iff {number : Nat} {input expected : Text} :
    Test.Passes ⟨number, input, .output expected⟩ ↔ respond input = .ok expected := by
  rw [Test.Passes, Test.outcome]
  cases respond input with
  | error fault => simp [judge]
  | ok actual =>
      by_cases same : expected = actual
      · simp [judge, same]
      · simp [judge, same, Ne.symm same]

theorem passes_failure_iff {number : Nat} {input : Text} :
    Test.Passes ⟨number, input, .failure⟩ ↔
      respond input = .ok [] ∨ ∃ fault, respond input = .error fault := by
  rw [Test.Passes, Test.outcome]
  cases respond input with
  | error fault => simp [judge]
  | ok actual =>
      by_cases empty : actual = []
      · simp [judge, empty]
      · simp [judge, empty]

theorem Test.failure?_eq_none_iff {name : String} {test : Test} :
    test.failure? name = none ↔ test.Passes := by
  rw [failure?, Passes]
  cases test.outcome with
  | passed output => simp [Outcome.failure?]
  | failed expected actual => simp [Outcome.failure?]

theorem run_eq_ok_iff {name : String} {tests : List Test} {count : Nat} :
    run name tests = .ok count ↔ (∀ test ∈ tests, test.Passes) ∧ tests.length = count := by
  have passing : tests.findSome? (Test.failure? name) = none ↔ ∀ test ∈ tests, test.Passes := by
    simp only [List.findSome?_eq_none_iff, Test.failure?_eq_none_iff]
  rw [run, ← passing]
  cases tests.findSome? (Test.failure? name) with
  | none => simp
  | some failure => simp

end Sexpr.Fixture
