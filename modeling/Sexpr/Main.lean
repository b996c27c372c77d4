import Sexpr.CommandLine
/-!
The program: a prompt that reads a line, prints the form in it and asks for the next.
-/
namespace Sexpr.Program

open Fixture (LoadCause)

def causeOf : IO.Error → LoadCause
  | .noFileOrDirectory _ _ _ => .missing
  | .inappropriateType _ code reason => .refused reason code.toNat
  | .permissionDenied _ code reason => .refused reason code.toNat
  | .invalidArgument _ code reason => .refused reason code.toNat
  | .resourceExhausted _ code reason => .refused reason code.toNat
  | other => .refused (toString other) 0

def fileAt (path : String) : IO Fixture.File := do
  try
    return ⟨path, .ok (← IO.FS.readBinFile path).toList⟩
  catch error =>
    return ⟨path, .error (causeOf error)⟩

/-- The bytes up to the next line feed, which is kept. None are left at the end of the input. -/
partial def readLine (input : IO.FS.Stream) (line : List UInt8) : IO (List UInt8) := do
  match (← input.read 1).toList with
  | [] => return line.reverse
  | byte :: _ => if byte = 10 then return (byte :: line).reverse else readLine input (byte :: line)

partial def converse (settings : Session.Settings) (input output errors : IO.FS.Stream) :
    IO UInt32 := do
  output.putStr settings.prompt
  output.flush
  let line ← readLine input []
  if line.isEmpty then
    output.putStr "\n"
    return 0
  match Session.replyToBytes settings line with
  | .error message =>
    errors.putStr message
    return 1
  | .ok reply =>
    errors.putStr reply.err
    output.putStr reply.out
    converse settings input output errors

def run (options : CommandLine.Options) : IO UInt32 := do
  let errors ← IO.getStderr
  if let some path := options.fixture then
    match Session.report (← fileAt path) with
    | .error message =>
      errors.putStr message
      return 1
    | .ok summary => errors.putStr summary
  if options.settings.converses then
    converse options.settings (← IO.getStdin) (← IO.getStdout) errors
  else return 0

end Sexpr.Program

def main (arguments : List String) : IO UInt32 := do
  match Sexpr.CommandLine.parse arguments with
  | .ok options => Sexpr.Program.run options
  | .error fault =>
    (← IO.getStderr).putStr s!"{fault.message}\n"
    return 2
