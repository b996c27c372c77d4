import Sexpr.Logging
import Sexpr.Proofs.Response
/-!
Runs of tests and what is recorded of them. Main statement: a run reports the first test that fails, and its
records are those of the tests up to this one, one after another; among them every token of every input.
-/
namespace Sexpr

def Token.record (token : Token) : Record :=
  ⟨.trace, .scanning, s!"scanned {token.label} {token.position.label}"⟩

/-- What is recorded of a text that is read: every token, also those behind the first form and before a fault,
and then if there are none that there is no form. -/
def readingRecords (text : Text) : List Record :=
  (Scan.ofText text).tokens.map Token.record ++
    if FinalGap text then [⟨.debug, .reading, "read_str: empty form"⟩] else []

theorem records_noteItems_append (tokens : List Token) (items : List (Except (Located ScanFault) Token)) :
    (noteItems (tokens.map .ok ++ items)).records =
      tokens.map Token.record ++ (noteItems items).records := by
  induction tokens with
  | nil => rfl
  | cons token tokens ih =>
      rw [List.map_cons, List.cons_append, noteItems, Logged.records_bind, ih]
      rfl

theorem Scan.records_ofTextLogged (text : Text) :
    (ofTextLogged text).records = (ofText text).tokens.map Token.record := by
  rw [ofTextLogged, Logged.records_bind, Logged.records_pure, List.append_nil, items,
    records_noteItems_append, tokens]
  cases (ofText text).ending with
  | error fault => exact List.append_nil _
  | ok stop =>
      rw [List.map_append]
      rfl

theorem Reader.records_ofTextLogged (depthLimit : Nat) (text : Text) :
    (ofTextLogged depthLimit text).records = (Scan.ofText text).tokens.map Token.record := by
  rw [ofTextLogged, Logged.records_bind, Logged.records_pure, List.append_nil,
    Scan.records_ofTextLogged]

theorem Form.records_readLogged (depthLimit : Nat) (text : Text) :
    (readLogged depthLimit text).records = readingRecords text := by
  rw [readLogged, Logged.records_bind, Reader.records_ofTextLogged, Reader.value_ofTextLogged,
    readingRecords, Reader.ofText, Reader.ofScan]
  congr 1
  have nothing : FinalGap text ↔ ∃ stop, Scan.ofText text = ⟨[], .ok stop⟩ := Scan.finds_nothing_iff.symm
  rcases scan : Scan.ofText text with ⟨lexemes, fault | stop⟩
  · rw [if_neg (by simp [nothing, scan])]
    rfl
  · cases lexemes with
    | nil =>
        rw [if_pos (by simp [nothing, scan])]
        rfl
    | cons token lexemes =>
        rw [if_neg (by simp [nothing, scan])]
        rfl

theorem records_respondLogged (text : Text) : (respondLogged text).records = readingRecords text := by
  rw [respondLogged, Logged.records_bind, Logged.records_pure, List.append_nil,
    Form.records_readLogged]

namespace Fixture

/-- What is recorded of a test in a run. Only a test that passed is named. -/
def Test.records (name : String) (test : Test) : List Record :=
  readingRecords test.input ++
    match test.outcome with
    | .passed output =>
      [⟨.info, .testing, s!"{name}:{test.line} - PASSED: '{String.ofList output}'"⟩]
    | .failed _ _ => []

variable {name : String} {test : Test} {tests : List Test}

theorem Test.records_outcomeLogged : test.outcomeLogged.records = readingRecords test.input := by
  rw [outcomeLogged, Logged.records_bind, Logged.records_pure, List.append_nil, records_respondLogged]

theorem records_of_passed {output : Text} (passed : test.outcome = .passed output) :
    (firstFailureLogged name (test :: tests)).records =
      test.records name ++ (firstFailureLogged name tests).records := by
  rw [firstFailureLogged, Logged.records_bind, Test.records_outcomeLogged, Test.value_outcomeLogged,
    Test.records, passed, List.append_assoc]
  rfl

theorem records_of_failed {expected actual : Text} (failed : test.outcome = .failed expected actual) :
    (firstFailureLogged name (test :: tests)).records = test.records name := by
  rw [firstFailureLogged, Logged.records_bind, Test.records_outcomeLogged, Test.value_outcomeLogged,
    Test.records, failed]
  rfl

theorem records_of_passing {passed : List Test} (passing : ∀ test ∈ passed, test.Passes) :
    (firstFailureLogged name (passed ++ tests)).records =
      passed.flatMap (Test.records name) ++ (firstFailureLogged name tests).records := by
  induction passed with
  | nil => rfl
  | cons first passed ih =>
      obtain ⟨⟨output, outcome⟩, others⟩ := List.forall_mem_cons.mp passing
      rw [List.cons_append, records_of_passed outcome, ih others, List.flatMap_cons, List.append_assoc]

theorem records_runLogged : (runLogged name tests).records = (firstFailureLogged name tests).records := by
  rw [runLogged, Logged.records_bind]
  cases (firstFailureLogged name tests).value <;> exact List.append_nil _

theorem run_eq_error {passed later : List Test} {failure : Failure}
    (passing : ∀ test ∈ passed, test.Passes) (fails : test.failure? name = some failure) :
    run name (passed ++ test :: later) = .error failure := by
  have none : passed.findSome? (Test.failure? name) = none :=
    List.findSome?_eq_none_iff.mpr fun test member => Test.failure?_eq_none_iff.mpr (passing test member)
  rw [run, List.findSome?_append, none, Option.none_or, List.findSome?_cons, fails]

/-- A run counts its tests if they all pass, and else reports the first that does not. Its records are those of
the tests up to that one, one test after another, and of none behind it. -/
theorem run_stops_at_first_failure (name : String) (tests : List Test) :
    (runLogged name tests).value = run name tests ∧
      (∀ count, run name tests = .ok count ↔ (∀ test ∈ tests, test.Passes) ∧ tests.length = count) ∧
      ((∀ test ∈ tests, test.Passes) →
        (runLogged name tests).records = tests.flatMap (Test.records name)) ∧
      ∀ passed test later expected actual, tests = passed ++ test :: later →
        (∀ earlier ∈ passed, earlier.Passes) → test.outcome = .failed expected actual →
          run name tests = .error ⟨name, test.line, expected, actual⟩ ∧
            (runLogged name tests).records = (passed ++ [test]).flatMap (Test.records name) := by
  refine ⟨value_runLogged name tests, fun _ => run_eq_ok_iff, ?_, ?_⟩
  · intro passing
    have all : (firstFailureLogged name (tests ++ [])).records =
        tests.flatMap (Test.records name) ++ [] := records_of_passing passing
    rw [List.append_nil, List.append_nil] at all
    exact records_runLogged.trans all
  · rintro passed test later expected actual rfl passing failed
    constructor
    · apply run_eq_error passing
      rw [Test.failure?, failed, Outcome.failure?]
    · rw [records_runLogged, records_of_passing passing, records_of_failed failed, List.flatMap_append,
        List.flatMap_singleton]

theorem run_stops_at_symbol :
    run "f" [⟨1, [';'], .failure⟩, ⟨3, "a)".toList, .output ['b']⟩, ⟨5, ['('], .output []⟩] =
        .error ⟨"f", 3, ['b'], ['a']⟩ ∧
      (runLogged "f" [⟨1, [';'], .failure⟩, ⟨3, "a)".toList, .output ['b']⟩, ⟨5, ['('], .output []⟩]).records =
        [⟨.trace, .scanning, "scanned EOF @1.1"⟩, ⟨.debug, .reading, "read_str: empty form"⟩,
          ⟨.info, .testing, "f:1 - PASSED: ''"⟩, ⟨.trace, .scanning, "scanned Symbol 'a' @1.0"⟩,
          ⟨.trace, .scanning, "scanned RightParen ')' @1.1"⟩, ⟨.trace, .scanning, "scanned EOF @1.2"⟩] := by
  have passes : Test.Passes ⟨1, [';'], .failure⟩ := ⟨[], by decide +kernel⟩
  have stops := (run_stops_at_first_failure "f" _).2.2.2 [⟨1, [';'], .failure⟩]
    ⟨3, "a)".toList, .output ['b']⟩ [⟨5, ['('], .output []⟩] ['b'] ['a'] rfl
    (List.forall_mem_singleton.mpr passes) (by decide +kernel)
  refine ⟨stops.1, stops.2.trans ?_⟩
  decide +kernel

end Fixture

end Sexpr
