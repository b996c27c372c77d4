import Sexpr.Fixture
import Sexpr.Text.Quoted
import Sexpr.Text.Utf8
/-!
Fixtures from files. The contents of the file, or why they are not to be had, are given.
-/
namespace Sexpr.Fixture

/-- Why a file gave no text: the system refused it, with a reason and a code of its own, or it holds
something else. -/
inductive LoadCause where
  | refused (reason : String) (code : Nat)
  | notUtf8
  deriving DecidableEq

def LoadCause.missing : LoadCause := .refused "No such file or directory" 2

def LoadCause.directory : LoadCause := .refused "Is a directory" 21

def LoadCause.message : LoadCause → String
  | .refused reason code => s!"{reason} (os error {code})"
  | .notUtf8 => "stream did not contain valid UTF-8"

structure LoadFault where
  path : String
  cause : LoadCause
  deriving DecidableEq

def LoadFault.heading (fault : LoadFault) : String :=
  s!"reading fixture {String.ofList (quoted fault.path.toList)}"

def LoadFault.message (fault : LoadFault) : String :=
  s!"{fault.heading}: {fault.cause.message}"

structure File where
  path : String
  contents : Except LoadCause (List UInt8)

def load (file : File) : Except LoadFault (List Test) :=
  match file.contents with
  | .error cause => .error ⟨file.path, cause⟩
  | .ok bytes =>
    match decodeUtf8? bytes with
    | some text => .ok (collect text)
    | none => .error ⟨file.path, .notUtf8⟩

end Sexpr.Fixture
