import Sexpr.Position
/-!
Tokens: a lexeme verbatim, its kind and the position where it starts. The end of a text is a token
too, with a text of its own that no lexeme has.
-/
namespace Sexpr

/-- Special characters other than the parentheses are kept apart, for notations still to come. -/
inductive Kind where
  | eof
  | number
  | string
  | leftParen
  | rightParen
  | special
  | symbol
  deriving DecidableEq

def Kind.name : Kind → String
  | .eof => "EOF"
  | .number => "Number"
  | .string => "String"
  | .leftParen => "LeftParen"
  | .rightParen => "RightParen"
  | .special => "Special"
  | .symbol => "Symbol"

structure Token where
  kind : Kind
  text : Text
  position : Position
  deriving DecidableEq

namespace Token

def eof (position : Position) : Token :=
  ⟨.eof, ['\x00'], position⟩

def label (token : Token) : String :=
  if token.kind = .eof then token.kind.name
  else s!"{token.kind.name} '{String.ofList token.text}'"

end Token

end Sexpr
