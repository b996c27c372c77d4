import Mathlib.Data.List.Basic
import Sexpr.Proofs.Fixture.Collect
/-!
What becomes of the lines of a fixture. Main statements: each line has one part, as an input, as the line
behind an input, as a line to pass over or behind the tests; and a marker line ends the tests, but not where
it stands behind an input.
-/
namespace Sexpr.Fixture

/-- Lines and the tests that they hold, the first line having the given number. -/
inductive Collects : Nat → List Text → List Test → Prop
  | finished {number : Nat} : Collects number [] []
  | stopped {number : Nat} {marker : Text} {rest : List Text} : stopOpening <+: marker →
      Collects number (marker :: rest) []
  | idle {number : Nat} {line : Text} {rest : List Text} {tests : List Test} : Idle line →
      Collects (number + 1) rest tests → Collects number (line :: rest) tests
  | last {number : Nat} {input : Text} : IsInput input →
      Collects number [input] [⟨number, input, .failure⟩]
  | test {number : Nat} {input expected : Text} {rest : List Text} {tests : List Test} :
      IsInput input → Collects (number + 2) rest tests →
      Collects number (input :: expected :: rest) (⟨number, input, .ofLine? (some expected)⟩ :: tests)

theorem collects_collectFrom (number : Nat) (lines : List Text) :
    Collects number lines (collectFrom number lines) := by
  have isInput {line : Text} (shown : ¬ isSkipped line = true) (goesOn : ¬ isStop line = true) :
      IsInput line :=
    ⟨mt isSkipped_iff.mpr shown, mt isStop_iff.mpr goesOn⟩
  fun_induction collectFrom number lines with
  | case1 => exact .finished
  | case2 number line rest skipped ih => exact .idle (isSkipped_iff.mp skipped) ih
  | case3 number line rest _ stops => exact .stopped (isStop_iff.mp stops)
  | case4 number line shown goesOn => exact .last (isInput shown goesOn)
  | case5 number line shown goesOn expected rest ih => exact .test (isInput shown goesOn) ih

/-- What a test says of the lines: its input is the line with its number, and it expects an output exactly if
the line behind that one promises it. -/
structure Test.ReadFrom (number : Nat) (contents : List Text) (test : Test) : Prop where
  input : (test.input, test.line) ∈ contents.zipIdx number
  isInput : IsInput test.input
  output_iff : ∀ promised, test.expectation = .output promised ↔
    (outputOpening ++ promised, test.line + 1) ∈ contents.zipIdx number

/-- A line at or behind a marker line, which itself stands behind all tests and what they expect. -/
def BehindTests (number : Nat) (contents : List Text) (tests : List Test) (place : Nat) : Prop :=
  ∃ marker stop, (marker, stop) ∈ contents.zipIdx number ∧ stopOpening <+: marker ∧ stop ≤ place ∧
    ∀ test ∈ tests, test.line + 1 < stop

section Numbers

variable {number place : Nat} {contents : List Text}

theorem mem_zipIdx_first {first line : Text} :
    (line, number) ∈ (first :: contents).zipIdx number ↔ line = first := by
  rw [List.mk_mem_zipIdx_iff_le_and_getElem?_sub]
  simp [eq_comm]

theorem mem_zipIdx_behind (passed : List Text) {line : Text} (behind : number + passed.length ≤ place) :
    (line, place) ∈ (passed ++ contents).zipIdx number ↔
      (line, place) ∈ contents.zipIdx (number + passed.length) := by
  rw [List.zipIdx_append, List.mem_append]
  refine or_iff_right fun inside => ?_
  have before := List.snd_lt_of_mem_zipIdx inside
  simp only at before
  omega

theorem Test.ReadFrom.behind {test : Test} (passed : List Text)
    (reads : test.ReadFrom (number + passed.length) contents) :
    test.ReadFrom number (passed ++ contents) := by
  have within : number + passed.length ≤ test.line := List.le_snd_of_mem_zipIdx reads.input
  refine ⟨(mem_zipIdx_behind passed within).mpr reads.input, reads.isInput, fun promised => ?_⟩
  rw [mem_zipIdx_behind passed (Nat.le_succ_of_le within)]
  exact reads.output_iff promised

theorem Test.ReadFrom.failure_iff {test : Test} (reads : test.ReadFrom number contents) :
    test.expectation = .failure ↔
      ∀ promised, (outputOpening ++ promised, test.line + 1) ∉ contents.zipIdx number := by
  simp only [← reads.output_iff]
  cases test.expectation with
  | output promised => simp
  | failure => simp

theorem BehindTests.behind {tests : List Test} (earlier : List Test) (passed : List Text)
    (before : ∀ test ∈ earlier, test.line + 1 < number + passed.length)
    (behind : BehindTests (number + passed.length) contents tests place) :
    BehindTests number (passed ++ contents) (earlier ++ tests) place := by
  obtain ⟨marker, stop, stands, opens, upTo, after⟩ := behind
  have within : number + passed.length ≤ stop := List.le_snd_of_mem_zipIdx stands
  refine ⟨marker, stop, (mem_zipIdx_behind passed within).mpr stands, opens, upTo, ?_⟩
  intro test member
  rcases List.mem_append.mp member with first | later
  · exact Nat.lt_of_lt_of_le (before test first) within
  · exact after test later

end Numbers

namespace Collects

variable {number : Nat} {contents : List Text} {tests : List Test}

theorem collectFrom_eq (collects : Collects number contents tests) :
    collectFrom number contents = tests := by
  induction collects with
  | finished => rfl
  | stopped stop => exact collectFrom_stop stop
  | idle idle _ ih => rw [collectFrom_idle idle, ih]
  | last isInput => exact collectFrom_last isInput
  | test isInput _ ih => rw [collectFrom_input isInput rfl, ih]

theorem readFrom (collects : Collects number contents tests) :
    ∀ test ∈ tests, test.ReadFrom number contents := by
  induction collects with
  | finished => nofun
  | stopped _ => nofun
  | @idle number line _ _ _ _ ih =>
      intro test member
      exact (ih test member).behind [line]
  | last isInput =>
      refine List.forall_mem_singleton.mpr ⟨mem_zipIdx_first.mpr rfl, isInput, fun promised => ?_⟩
      simp
  | @test number input expected rest _ isInput _ ih =>
      refine List.forall_mem_cons.mpr ⟨⟨mem_zipIdx_first.mpr rfl, isInput, fun promised => ?_⟩, ?_⟩
      · have second : (outputOpening ++ promised, number + 1) ∈ (input :: expected :: rest).zipIdx number ↔
            outputOpening ++ promised = expected :=
          (mem_zipIdx_behind [input] (Nat.le_refl _)).trans mem_zipIdx_first
        rw [second, Expectation.ofLine?_eq_output_iff]
      · intro test member
        exact (ih test member).behind [input, expected]

theorem spaced (collects : Collects number contents tests) :
    tests.Pairwise fun first second => first.line + 2 ≤ second.line := by
  induction collects with
  | finished => exact .nil
  | stopped _ => exact .nil
  | idle _ _ ih => exact ih
  | last _ => exact List.pairwise_singleton _ _
  | test _ later ih =>
      refine List.pairwise_cons.mpr ⟨?_, ih⟩
      intro test member
      exact List.le_snd_of_mem_zipIdx (later.readFrom test member).input

theorem others (collects : Collects number contents tests) {line : Text} {place : Nat}
    (stands : (line, place) ∈ contents.zipIdx number)
    (other : ∀ test ∈ tests, place ≠ test.line ∧ place ≠ test.line + 1) :
    Idle line ∨ BehindTests number contents tests place := by
  induction collects with
  | finished => cases stands
  | stopped stop =>
      exact Or.inr ⟨_, _, mem_zipIdx_first.mpr rfl, stop, List.le_snd_of_mem_zipIdx stands, nofun⟩
  | @idle number first rest tests idle _ ih =>
      rcases List.mem_cons.mp stands with here | later
      · cases here
        exact Or.inl idle
      · exact (ih later other).imp_right (BehindTests.behind [] [first] nofun)
  | last _ =>
      cases List.mem_singleton.mp stands
      exact absurd rfl (other _ (List.mem_singleton_self _)).1
  | @test number input expected rest tests _ _ ih =>
      obtain ⟨atInput, atExpected⟩ := other _ List.mem_cons_self
      rcases List.mem_cons.mp stands with here | later
      · cases here
        exact absurd rfl atInput
      · rcases List.mem_cons.mp later with here | later
        · cases here
          exact absurd rfl atExpected
        · have after := ih later fun test member => other test (List.mem_cons_of_mem _ member)
          refine after.imp_right (BehindTests.behind [_] [input, expected] ?_)
          simp

theorem append_stop (collects : Collects number contents tests) {marker : Text}
    (stop : stopOpening <+: marker) (rest : List Text)
    (answered : ∀ test ∈ tests, test.line + 1 ≠ number + contents.length) :
    Collects number (contents ++ marker :: rest) tests := by
  induction collects with
  | finished => exact .stopped stop
  | stopped first => exact .stopped first
  | idle idle _ ih =>
      refine .idle idle (ih fun test member => ?_)
      have apart := answered test member
      rw [List.length_cons] at apart
      omega
  | last _ => exact absurd rfl (answered _ (List.mem_singleton_self _))
  | test isInput _ ih =>
      refine .test isInput (ih fun test member => ?_)
      have apart := answered test (List.mem_cons_of_mem _ member)
      simp only [List.length_cons] at apart
      omega

theorem append_expected (collects : Collects number contents tests) {marker : Text}
    (stop : stopOpening <+: marker) {place : Nat} (next : place = number + contents.length)
    {rest : List Text} {others : List Test} (later : Collects (place + 1) rest others)
    (asks : ∃ test ∈ tests, test.line + 1 = place) :
    Collects number (contents ++ marker :: rest) (tests ++ others) := by
  induction collects with
  | finished => simp at asks
  | stopped _ => simp at asks
  | idle idle _ ih =>
      rw [List.length_cons] at next
      exact .idle idle (ih (by omega) asks)
  | last isInput =>
      cases next
      have failure : .ofLine? (some marker) = Expectation.failure :=
        Expectation.ofLine?_eq_failure_iff.mpr (not_promise_of_stop stop)
      rw [← failure]
      exact .test isInput later
  | @test number _ _ rest _ isInput _ ih =>
      simp only [List.length_cons] at next
      refine .test isInput (ih (by omega) ?_)
      obtain ⟨test, member, before⟩ := asks
      rcases List.mem_cons.mp member with first | member
      · rw [first] at before
        simp only at before
        omega
      · exact ⟨test, member, before⟩

end Collects

/-- Every line of a fixture has one part in it. Tests are two lines apart at least, each is read from its line
and the one behind, and every other line is passed over or stands behind the tests and a marker line. -/
theorem accounts_for_lines (text : Text) :
    (collect text).Pairwise (fun first second => first.line + 2 ≤ second.line) ∧
      (∀ test ∈ collect text, test.ReadFrom 1 (lines text) ∧
        (test.expectation = .failure ↔
          ∀ promised, (outputOpening ++ promised, test.line + 1) ∉ (lines text).zipIdx 1)) ∧
      ∀ line place, (line, place) ∈ (lines text).zipIdx 1 →
        (∀ test ∈ collect text, place ≠ test.line ∧ place ≠ test.line + 1) →
          Idle line ∨ BehindTests 1 (lines text) (collect text) place := by
  have collects : Collects 1 (lines text) (collect text) := collects_collectFrom 1 (lines text)
  refine ⟨collects.spaced, ?_, fun line place stands other => collects.others stands other⟩
  intro test member
  have reads := collects.readFrom test member
  exact ⟨reads, reads.failure_iff⟩

theorem accounts_for_marker_behind_input :
    ∃ text, collect text = [⟨1, ['a'], .failure⟩, ⟨4, ";=>".toList, .output ['b']⟩] ∧
      (";=>b".toList, 5) ∈ (lines text).zipIdx 1 ∧ BehindTests 1 (lines text) (collect text) 7 := by
  have collected : collect "a\n;>>> deferrable\n \n;=>\n;=>b\n;>>> deferrable\nc".toList =
      [⟨1, ['a'], .failure⟩, ⟨4, ";=>".toList, .output ['b']⟩] := by decide +kernel
  obtain ⟨_, reads, others⟩ :=
    accounts_for_lines "a\n;>>> deferrable\n \n;=>\n;=>b\n;>>> deferrable\nc".toList
  rw [collected] at reads others
  have last := others ['c'] 7 (by decide +kernel) (by decide)
  have second := reads ⟨4, ";=>".toList, .output ['b']⟩ (by decide)
  refine ⟨_, collected, (second.1.output_iff ['b']).mp rfl, ?_⟩
  rw [collected]
  exact last.resolve_left (by decide)

/-- A marker line ends the tests if no input stands directly before it: they are those of the text in front, and
the lines from the marker on have no part in them. Behind an input it is what this test expects, and the tests
go on in the line after it. -/
theorem stops_at_marker (front rest : Text) (whole : WholeLines front) (stop : stopOpening <+: rest) :
    ((∀ test ∈ collect front, test.line ≠ (lines front).length) →
      collect (front ++ rest) = collect front ∧
        ∀ test ∈ collect (front ++ rest), test.line ≤ (lines front).length) ∧
      ((∃ test ∈ collect front, test.line = (lines front).length) →
        collect (front ++ rest) =
          collect front ++ collectFrom ((lines front).length + 2) (lines rest).tail) := by
  have collects : Collects 1 (lines front) (collect front) := collects_collectFrom 1 (lines front)
  obtain ⟨marker, later, cut, opens⟩ := lines_of_stop stop
  have both : collect (front ++ rest) = collectFrom 1 (lines front ++ marker :: later) := by
    rw [collect, lines_append whole, cut]
  rw [both, cut, List.tail_cons]
  constructor
  · intro answered
    have same : collectFrom 1 (lines front ++ marker :: later) = collect front :=
      (collects.append_stop opens later fun test member => by
        have := answered test member
        omega).collectFrom_eq
    refine ⟨same, ?_⟩
    rw [same]
    intro test member
    have within := List.snd_lt_of_mem_zipIdx (collects.readFrom test member).input
    exact Nat.le_of_lt_succ within
  · rintro ⟨test, member, before⟩
    refine (collects.append_expected opens (Nat.add_comm _ 1) (collects_collectFrom _ later) ?_).collectFrom_eq
    exact ⟨test, member, congrArg (· + 1) before⟩

theorem stops_behind_output :
    collect ("1\n;=>1\n".toList ++ ";>>> deferrable\n2".toList) = [⟨1, ['1'], .output ['1']⟩] ∧
      collect ("1\n".toList ++ ";>>> deferrable\n2".toList) =
        [⟨1, ['1'], .failure⟩, ⟨3, ['2'], .failure⟩] := by
  have marker : stopOpening <+: ";>>> deferrable\n2".toList := by decide +kernel
  have answered := (stops_at_marker "1\n;=>1\n".toList _ (by decide +kernel) marker).1 (by decide +kernel)
  have asking := (stops_at_marker "1\n".toList _ (by decide +kernel) marker).2 (by decide +kernel)
  constructor
  · rw [answered.1]
    decide +kernel
  · rw [asking]
    decide +kernel

theorem marker_behind_input_is_expected :
    (¬ ∀ text marker place, (marker, place) ∈ (lines text).zipIdx 1 → stopOpening <+: marker →
      ∀ test ∈ collect text, test.line < place) ∧
      ¬ ∀ front rest : Text, WholeLines front → (∀ line ∈ lines front, ¬ stopOpening <+: line) →
        stopOpening <+: rest → collect (front ++ rest) = collect front := by
  constructor
  · intro before
    have all := before "a\n;>>> deferrable\nb\n".toList stopOpening 2 (by decide +kernel) (by decide)
    revert all
    decide +kernel
  · intro cutOff
    have same := cutOff "a\n".toList ";>>> deferrable\nb\n".toList (by decide +kernel) (by decide +kernel)
      (by decide +kernel)
    revert same
    decide +kernel

end Sexpr.Fixture
