import Sexpr.Fixture
import Sexpr.Journal
/-!
The library's functions with a record of what they do: each token scanned, each text without forms,
each fault that is passed over, each test that passed. Main statements: beside its records each of them
has the value of the function without records.
-/
namespace Sexpr

def noteItem : Except (Located ScanFault) Token → Logged Unit
  | .ok token => .note .trace .scanning s!"scanned {token.label} {token.position.label}"
  | .error _ => pure ()

def noteItems : List (Except (Located ScanFault) Token) → Logged Unit
  | [] => pure ()
  | item :: items => do
    noteItem item
    noteItems items

def Scanner.stepsLogged (scanner : Scanner) (count : Nat) :
    Logged (List (Except (Located ScanFault) Token)) := do
  noteItems (scanner.steps count)
  return scanner.steps count

def Scan.ofTextLogged (text : Text) : Logged Scan := do
  let scan := Scan.ofText text
  noteItems scan.items
  return scan

def Reader.ofTextLogged (depthLimit : Nat) (text : Text) :
    Logged (Except (Located ReadFault) Reader) := do
  return Reader.ofScan depthLimit (← Scan.ofTextLogged text)

def Form.readLogged (depthLimit : Nat) (text : Text) :
    Logged (Except (Located ReadFault) (Option Form)) := do
  match ← Reader.ofTextLogged depthLimit text with
  | .error fault => return .error fault
  | .ok reader =>
    if reader.isEmpty then
      .note .debug .reading "read_str: empty form"
      return .ok none
    else return reader.next.1.map some

def respondLogged (text : Text) : Logged (Except (Located ReadFault) Text) := do
  return (← Form.readLogged defaultDepthLimit text).map (shown Form.print)

def respondOrNothingLogged (text : Text) : Logged Text := do
  match ← respondLogged text with
  | .ok response => return response
  | .error fault =>
    .note .debug .responding s!"rep_line: {fault.message ReadFault.message}"
    return []

theorem Scan.value_ofTextLogged (text : Text) : (ofTextLogged text).value = ofText text := rfl

theorem Reader.value_ofTextLogged (depthLimit : Nat) (text : Text) :
    (ofTextLogged depthLimit text).value = ofText depthLimit text := rfl

theorem Form.value_readLogged (depthLimit : Nat) (text : Text) :
    (readLogged depthLimit text).value = read depthLimit text := by
  rw [readLogged, Logged.value_bind, Reader.value_ofTextLogged, read]
  cases Reader.ofText depthLimit text with
  | error fault => rfl
  | ok reader => cases empty : reader.isEmpty <;> simp [empty] <;> rfl

theorem value_respondLogged (text : Text) : (respondLogged text).value = respond text := by
  rw [respondLogged, Logged.value_bind, Form.value_readLogged]
  rfl

theorem value_respondOrNothingLogged (text : Text) :
    (respondOrNothingLogged text).value = respondOrNothing text := by
  rw [respondOrNothingLogged, Logged.value_bind, value_respondLogged, respondOrNothing]
  cases respond text <;> rfl

namespace Fixture

def Test.outcomeLogged (test : Test) : Logged Outcome := do
  return judge test.expectation (← respondLogged test.input)

def outcomesLogged : List Test → Logged (List Outcome)
  | [] => return []
  | test :: tests => do
    let outcome ← test.outcomeLogged
    return outcome :: (← outcomesLogged tests)

def firstFailureLogged (name : String) : List Test → Logged (Option Failure)
  | [] => return none
  | test :: tests => do
    match ← test.outcomeLogged with
    | .failed expected actual => return some ⟨name, test.line, expected, actual⟩
    | .passed output =>
      .note .info .testing s!"{name}:{test.line} - PASSED: '{String.ofList output}'"
      firstFailureLogged name tests

def runLogged (name : String) (tests : List Test) : Logged (Except Failure Nat) := do
  match ← firstFailureLogged name tests with
  | some failure => return .error failure
  | none => return .ok tests.length

theorem Test.value_outcomeLogged (test : Test) : test.outcomeLogged.value = test.outcome := by
  rw [outcomeLogged, Logged.value_bind, value_respondLogged]
  rfl

theorem value_outcomesLogged (tests : List Test) :
    (outcomesLogged tests).value = tests.map Test.outcome := by
  induction tests with
  | nil => rfl
  | cons test tests ih =>
      rw [outcomesLogged, Logged.value_bind, Logged.value_bind, ih, Test.value_outcomeLogged]
      rfl

theorem value_firstFailureLogged (name : String) (tests : List Test) :
    (firstFailureLogged name tests).value = tests.findSome? (Test.failure? name) := by
  induction tests with
  | nil => rfl
  | cons test tests ih =>
      rw [firstFailureLogged, Logged.value_bind, Test.value_outcomeLogged, List.findSome?_cons,
        Test.failure?]
      cases test.outcome with
      | passed output => exact ih
      | failed expected actual => rfl

theorem value_runLogged (name : String) (tests : List Test) :
    (runLogged name tests).value = run name tests := by
  rw [runLogged, Logged.value_bind, value_firstFailureLogged, run]
  cases tests.findSome? (Test.failure? name) <;> rfl

end Fixture

end Sexpr
