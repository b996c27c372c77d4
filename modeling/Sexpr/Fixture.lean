import Sexpr.Response
import Sexpr.Text.Blank
import Sexpr.Text.Lines
/-!
Fixtures: texts that hold tests, an input line and the line after it, which says what is expected.

Between the tests stand blank lines and lines of comment. A marker line ends the tests, and nothing
after it counts.
-/
namespace Sexpr.Fixture

def commentOpening : Text := ";;".toList

def outputOpening : Text := ";=>".toList

def stopOpening : Text := ";>>> deferrable".toList

inductive Expectation where
  | output (text : Text)
  | failure
  deriving DecidableEq

structure Test where
  line : Nat
  input : Text
  expectation : Expectation
  deriving DecidableEq

inductive Outcome where
  | passed (output : Text)
  | failed (expected actual : Text)
  deriving DecidableEq

/-- Any line that does not promise an output expects a failure, and so does a missing one. -/
def Expectation.ofLine? (line : Option Text) : Expectation :=
  match line.bind outputOpening.isPrefixOf? with
  | some promised => .output promised
  | none => .failure

def isSkipped (line : Text) : Bool :=
  commentOpening.isPrefixOf line || isBlankLine line

def isStop (line : Text) : Bool :=
  stopOpening.isPrefixOf line

/-- The tests in some lines, the first of which has the given number. The line after an input belongs
to it, whatever that line is. -/
def collectFrom (number : Nat) : List Text → List Test
  | [] => []
  | line :: rest =>
    if isSkipped line then collectFrom (number + 1) rest
    else if isStop line then []
    else
      match rest with
      | [] => [⟨number, line, .ofLine? none⟩]
      | expected :: rest => ⟨number, line, .ofLine? (some expected)⟩ :: collectFrom (number + 2) rest

def collect (text : Text) : List Test :=
  collectFrom 1 (lines text)

/-- Where a failure is expected, an empty response will do too. -/
def judge : Expectation → Except (Located ReadFault) Text → Outcome
  | .output expected, .ok actual =>
    if expected = actual then .passed actual else .failed expected actual
  | .output expected, .error fault =>
    .failed expected s!"error: {fault.message ReadFault.message}".toList
  | .failure, .ok actual => if actual = [] then .passed [] else .failed [] actual
  | .failure, .error _ => .passed []

def Test.outcome (test : Test) : Outcome :=
  judge test.expectation (respond test.input)

structure Failure where
  name : String
  line : Nat
  expected : Text
  actual : Text
  deriving DecidableEq

def Failure.message (failure : Failure) : String :=
  s!"{failure.name}:{failure.line} - FAILED: Expected '{String.ofList failure.expected}'" ++
    s!" != '{String.ofList failure.actual}' Actual"

def Outcome.failure? (name : String) (line : Nat) : Outcome → Option Failure
  | .passed _ => none
  | .failed expected actual => some ⟨name, line, expected, actual⟩

def Test.failure? (name : String) (test : Test) : Option Failure :=
  test.outcome.failure? name test.line

def run (name : String) (tests : List Test) : Except Failure Nat :=
  match tests.findSome? (Test.failure? name) with
  | some failure => .error failure
  | none => .ok tests.length

end Sexpr.Fixture
