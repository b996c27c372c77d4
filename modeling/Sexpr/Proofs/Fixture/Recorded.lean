import Sexpr.Proofs.Fixture.Account
import Sexpr.Proofs.Form.OneLine
/-!
Fixtures that record what their inputs were responded with. Main statement: a recorded fixture, whatever
stands between its tests and however its lines are ended, gives back the tests that it records, with the
numbers of their lines, and they all pass.
-/
namespace Sexpr.Fixture

/-- Lines that record tests, the first line having the given number. Behind an input stands the response to
it, or where it cannot be read any line that does not promise a response. -/
inductive Records : Nat → List Text → List Test → Prop
  | done {number : Nat} : Records number [] []
  | idle {number : Nat} {line : Text} {lines : List Text} {tests : List Test} : FitsLine line →
      Idle line → Records (number + 1) lines tests → Records number (line :: lines) tests
  | response {number : Nat} {input response : Text} {lines : List Text} {tests : List Test} :
      FitsLine input → IsInput input → respond input = .ok response →
      Records (number + 2) lines tests →
      Records number (input :: (outputOpening ++ response) :: lines)
        (⟨number, input, .output response⟩ :: tests)
  | fault {number : Nat} {input remark : Text} {located : Located ReadFault} {lines : List Text}
      {tests : List Test} : FitsLine input → IsInput input → respond input = .error located →
      FitsLine remark → ¬ outputOpening <+: remark → Records (number + 2) lines tests →
      Records number (input :: remark :: lines) (⟨number, input, .failure⟩ :: tests)

theorem fitsLine_output {response : Text} (fits : FitsLine response) :
    FitsLine (outputOpening ++ response) := by
  have opening : FitsLine outputOpening := by decide
  constructor
  · simp [opening.inside, fits.inside]
  · by_cases empty : response = []
    · simp [empty, opening.last]
    · rw [List.getLast?_append_of_ne_nil _ empty]
      exact fits.last

def Ended (tail : List Text) : Prop :=
  ∀ line ∈ tail.head?, stopOpening <+: line

theorem collectFrom_ended {tail : List Text} (ended : Ended tail) (number : Nat) :
    collectFrom number tail = [] := by
  cases tail with
  | nil => rfl
  | cons line rest => exact collectFrom_stop (ended line rfl)

def NumberedIn (number : Nat) (contents : List Text) (test : Test) : Prop :=
  number ≤ test.line ∧ contents[test.line - number]? = some test.input

namespace NumberedIn

variable {number : Nat} {contents : List Text}

theorem of_readFrom {test : Test} (reads : test.ReadFrom number contents) :
    NumberedIn number contents test :=
  List.mk_mem_zipIdx_iff_le_and_getElem?_sub.mp reads.input

theorem append {test : Test} (numbered : NumberedIn number contents test) (tail : List Text) :
    NumberedIn number (contents ++ tail) test := by
  have below : test.line - number < contents.length := (List.getElem?_eq_some_iff.mp numbered.2).1
  refine ⟨numbered.1, ?_⟩
  rw [List.getElem?_append_left below]
  exact numbered.2

end NumberedIn

namespace Records

variable {number : Nat} {contents : List Text} {tests : List Test}

theorem fits (records : Records number contents tests) : ∀ line ∈ contents, FitsLine line := by
  induction records with
  | done => nofun
  | idle fits _ _ ih => exact List.forall_mem_cons.mpr ⟨fits, ih⟩
  | response fits _ responds _ ih =>
      have promised := fitsLine_output (Form.fitsLine_of_respond responds fits.inside)
      exact List.forall_mem_cons.mpr ⟨fits, List.forall_mem_cons.mpr ⟨promised, ih⟩⟩
  | fault fits _ _ remarkFits _ _ ih =>
      exact List.forall_mem_cons.mpr ⟨fits, List.forall_mem_cons.mpr ⟨remarkFits, ih⟩⟩

theorem collectFrom_append (records : Records number contents tests) {tail : List Text}
    (ended : Ended tail) : collectFrom number (contents ++ tail) = tests := by
  induction records with
  | done => exact collectFrom_ended ended _
  | idle _ idle _ ih => rw [List.cons_append, collectFrom_idle idle, ih]
  | response _ isInput _ _ ih =>
      rw [List.cons_append, List.cons_append,
        collectFrom_input isInput (Expectation.ofLine?_eq_output_iff.mpr rfl), ih]
  | fault _ isInput _ _ other _ ih =>
      rw [List.cons_append, List.cons_append,
        collectFrom_input isInput (Expectation.ofLine?_eq_failure_iff.mpr other), ih]

theorem passes (records : Records number contents tests) : ∀ test ∈ tests, test.Passes := by
  induction records with
  | done => nofun
  | idle _ _ _ ih => exact ih
  | response _ _ responds _ ih =>
      exact List.forall_mem_cons.mpr ⟨passes_output_iff.mpr responds, ih⟩
  | fault _ _ fails _ _ _ ih =>
      exact List.forall_mem_cons.mpr ⟨passes_failure_iff.mpr (Or.inr ⟨_, fails⟩), ih⟩

theorem collects (records : Records number contents tests) : Collects number contents tests := by
  induction records with
  | done => exact .finished
  | idle _ idle _ ih => exact .idle idle ih
  | @response _ _ response _ _ _ isInput _ _ ih =>
      have promised : .ofLine? (some (outputOpening ++ response)) = Expectation.output response :=
        Expectation.ofLine?_eq_output_iff.mpr rfl
      rw [← promised]
      exact .test isInput ih
  | fault _ isInput _ _ other _ ih =>
      have failure := Expectation.ofLine?_eq_failure_iff.mpr other
      rw [← failure]
      exact .test isInput ih

theorem numbered (records : Records number contents tests) :
    ∀ test ∈ tests, NumberedIn number contents test :=
  fun test member => .of_readFrom (records.collects.readFrom test member)

end Records

theorem ended_lines {tail : Text} (stops : tail = [] ∨ stopOpening <+: tail) : Ended (lines tail) := by
  rcases stops with rfl | stop
  · exact nofun
  · obtain ⟨line, later, same, starts⟩ := lines_of_stop stop
    rw [Ended, same]
    intro first member
    cases Option.some.inj member
    exact starts

/-- A fixture that records its tests gives them back and passes, whether its lines are ended by a line feed
or by a carriage return and a line feed, and whatever stands behind a marker line. Each test carries the
number of the line that its input is. -/
theorem recorded_passes (name : String) (contents : List Text) (tests : List Test) (text tail : Text)
    (records : Records 1 contents tests) (written : Written contents text)
    (stops : tail = [] ∨ stopOpening <+: tail) :
    collect (text ++ tail) = tests ∧ (∀ test ∈ tests, NumberedIn 1 (lines (text ++ tail)) test) ∧
      run name tests = .ok tests.length := by
  have cut := written.lines_append records.fits tail
  refine ⟨?_, ?_, run_eq_ok_iff.mpr ⟨records.passes, rfl⟩⟩
  · rw [collect, cut, records.collectFrom_append (ended_lines stops)]
  · intro test member
    rw [cut]
    exact (records.numbered test member).append (lines tail)

theorem recorded_list_and_open_list :
    run "f" (collect ";;\n( a )\r\n;=>(a)\n(\n;!\n;>>> deferrable b\n".toList) = .ok 2 := by
  have responds : respond "( a )".toList = .ok "(a)".toList := by decide +kernel
  have fails : respond "(".toList = .error ⟨.mismatch .rightParen .eof, ⟨0, 1⟩⟩ := by decide +kernel
  have openList : Records 4 ["(".toList, ";!".toList] _ :=
    .fault (by decide) (by decide) fails (by decide) (by decide) .done
  have list : Records 2 ("( a )".toList :: (outputOpening ++ "(a)".toList) :: _) _ :=
    .response (by decide) (by decide) responds openList
  have records : Records 1 (";;".toList :: _) _ := .idle (by decide) (by decide) list
  have passes := recorded_passes "f" _ _ _ _ records (.feed (.returnFeed (.feed (.feed (.feed .none)))))
    (Or.inr ⟨" b\n".toList, rfl⟩)
  have collected : collect ";;\n( a )\r\n;=>(a)\n(\n;!\n;>>> deferrable b\n".toList = _ := passes.1
  rw [collected]
  exact passes.2.2

end Sexpr.Fixture
