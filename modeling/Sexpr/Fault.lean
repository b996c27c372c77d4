import Sexpr.Token
/-!
What can be wrong with a text, where, and how it is said. Scanning finds faults of single characters
and strings; reading finds these and faults in the order of tokens.
-/
namespace Sexpr

inductive ScanFault where
  | unexpectedChar (c : Char)
  | unterminatedString
  deriving DecidableEq

inductive ReadFault where
  | scan (fault : ScanFault)
  | unexpectedToken (token : Token)
  | mismatch (expected got : Kind)
  | outOfRange (token : Token)
  | nestingTooDeep
  deriving DecidableEq

structure Located (fault : Type) where
  fault : fault
  position : Position
  deriving DecidableEq

def ScanFault.message : ScanFault → String
  | .unexpectedChar c => s!"unexpected character '{c}'"
  | .unterminatedString => "unterminated string starting"

def ReadFault.message : ReadFault → String
  | .scan fault => fault.message
  | .unexpectedToken token => s!"unexpected token {token.label}"
  | .mismatch expected got => s!"expected token '{expected.name}', got token {got.name}"
  | .outOfRange token => s!"number {token.label} out of range"
  | .nestingTooDeep => "nesting too deep"

namespace Located

def map (f : α → β) (located : Located α) : Located β :=
  ⟨f located.fault, located.position⟩

def message (wording : α → String) (located : Located α) : String :=
  s!"{wording located.fault} {located.position.label}"

end Located

end Sexpr
