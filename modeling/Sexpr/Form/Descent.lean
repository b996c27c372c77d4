import Sexpr.Double.Nearest
import Sexpr.Fault
import Sexpr.Form
/-!
Reading one form at the head of a sequence of tokens, by the grammar `form := list | atom` and
`list := ( form* )`.

The sequence holds the tokens before the end token, which is given apart as `stop`. A list is read by
a loop over its items, and the reading of an item is the loop's argument, one level of nesting further
in; what makes the loop end is that an item that was read has used up a token.
-/
namespace Sexpr

/-- The outcome of reading at the head of some tokens, with the tokens left over. What was read has
used at least one of them. -/
inductive Attempt (result : Type) (tokens : List Token) where
  | read (value : result) (rest : List Token) (shorter : rest.length < tokens.length)
  | failed (fault : Located ReadFault) (rest : List Token)

namespace Attempt

def outcome : Attempt result tokens → Except (Located ReadFault) result
  | .read value _ _ => .ok value
  | .failed fault _ => .error fault

def rest : Attempt result tokens → List Token
  | .read _ rest _ => rest
  | .failed _ rest => rest

end Attempt

def Atom.ofSymbol (text : Text) : Atom :=
  if text = "true".toList then .bool true
  else if text = "false".toList then .bool false
  else if text = "nil".toList then .nil
  else .symbol text

def Atom.ofToken (token : Token) : Except ReadFault Atom :=
  match token.kind with
  | .number =>
    match Double.ofNumeral? token.text with
    | some value => .ok (.number value)
    | none => .error (.outOfRange token)
  | .string => .ok (.string token.text)
  | .symbol => .ok (.ofSymbol token.text)
  | _ => .error (.unexpectedToken token)

def readAtom (token : Token) (rest : List Token) : Attempt Form (token :: rest) :=
  match Atom.ofToken token with
  | .ok value => .read (.atom value token) rest (Nat.lt_succ_self _)
  | .error fault => .failed ⟨fault, token.position⟩ rest

/-- Reads items up to a right parenthesis, which is used up. At the end of the tokens the list is
still open. -/
def readItems (stop : Token) (readItem : (tokens : List Token) → Attempt Form tokens) :
    (tokens : List Token) → Attempt (List Form) tokens
  | [] => .failed ⟨.mismatch .rightParen stop.kind, stop.position⟩ []
  | token :: rest =>
    if token.kind = .rightParen then .read [] rest (Nat.lt_succ_self _)
    else
      match readItem (token :: rest) with
      | .failed fault rest => .failed fault rest
      | .read item rest shorter =>
        match readItems stop readItem rest with
        | .failed fault rest => .failed fault rest
        | .read items rest later => .read (item :: items) rest (Nat.lt_trans later shorter)
termination_by tokens => tokens.length
decreasing_by exact shorter

/-- Reads a form that nests lists at most `depth` deep. A parenthesis that goes deeper is not used
up. -/
def readForm (stop : Token) (depth : Nat) (tokens : List Token) : Attempt Form tokens :=
  match tokens with
  | [] => .failed ⟨.unexpectedToken stop, stop.position⟩ []
  | token :: rest =>
    if token.kind = .leftParen then
      match depth with
      | 0 => .failed ⟨.nestingTooDeep, token.position⟩ (token :: rest)
      | depth + 1 =>
        match readItems stop (fun tokens => readForm stop depth tokens) rest with
        | .failed fault rest => .failed fault rest
        | .read items rest shorter => .read (.list items token) rest (Nat.lt_succ_of_lt shorter)
    else readAtom token rest

end Sexpr
