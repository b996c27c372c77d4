import Sexpr.Fixture.Load
/-!
A session at a prompt. Each line of the input is answered on its own; before the first one a fixture
may be run. The whole session is a function of the input and the fixture's file.
-/
namespace Sexpr.Session

/-- A description, if asked for, shows the structure of a form in place of the form. Without
conversation the session ends after the fixture. -/
structure Settings where
  prompt : String := "user> "
  describes : Bool := false
  converses : Bool := true

structure Reply where
  out : String
  err : String
  deriving DecidableEq

structure Transcript where
  out : String
  err : String
  exitCode : Nat
  deriving DecidableEq

def reply (settings : Settings) (line : Text) : Reply :=
  match (if settings.describes then describe line else respond line) with
  | .ok response => ⟨String.ofList response ++ "\n", ""⟩
  | .error fault => ⟨"\n", s!">> ERROR: {fault.message ReadFault.message}\n"⟩

def replyToBytes (settings : Settings) (line : List UInt8) : Except String Reply :=
  match decodeUtf8? line with
  | some text => .ok (reply settings text)
  | none => .error s!"Error: {Fixture.LoadCause.notUtf8.message}\n"

/-- A line goes through its line feed, byte 10. -/
def inputLines (input : List UInt8) : List (List UInt8) :=
  splitAfter (· = 10) input

/-- A prompt stands before each line and once more before the end of the input. The conversation ends
there, or in an error at the first line that is not valid UTF-8. -/
def converse (settings : Settings) : List (List UInt8) → Transcript
  | [] => ⟨settings.prompt ++ "\n", "", 0⟩
  | line :: lines =>
    match replyToBytes settings line with
    | .error message => ⟨settings.prompt, message, 1⟩
    | .ok answer =>
      let later := converse settings lines
      ⟨settings.prompt ++ answer.out ++ later.out, answer.err ++ later.err, later.exitCode⟩

def report (file : Fixture.File) : Except String String :=
  match Fixture.load file with
  | .error fault => .error s!"Error: {fault.heading}\n\nCaused by:\n    {fault.cause.message}\n"
  | .ok tests =>
    match Fixture.run file.path tests with
    | .error failure => .error s!"Error: {failure.message}\n"
    | .ok count => .ok s!";; {count} tests passed\n"

def transcript (settings : Settings) (fixture : Option Fixture.File) (input : List UInt8) :
    Transcript :=
  let conversation :=
    if settings.converses then converse settings (inputLines input) else ⟨"", "", 0⟩
  match fixture.map report with
  | none => conversation
  | some (.error message) => ⟨"", message, 1⟩
  | some (.ok summary) => { conversation with err := summary ++ conversation.err }

end Sexpr.Session
