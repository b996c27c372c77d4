import Sexpr.Double
import Sexpr.Token
/-!
Forms: atoms and lists of forms. Each form carries a token, when it was read the one it starts with.
-/
namespace Sexpr

/-- A string is kept as its lexeme, with its quotes and backslashes. -/
inductive Atom where
  | nil
  | bool (value : Bool)
  | number (value : Double)
  | string (text : Text)
  | symbol (text : Text)
  deriving DecidableEq

inductive Form where
  | atom (value : Atom) (token : Token)
  | list (items : List Form) (token : Token)

def Atom.kindName : Atom → Text
  | .nil => "nil".toList
  | .bool _ => "bool".toList
  | .number _ => "number".toList
  | .string _ => "string".toList
  | .symbol _ => "symbol".toList

namespace Form

def token : Form → Token
  | .atom _ token => token
  | .list _ token => token

@[simp] theorem token_atom (value : Atom) (token : Token) : (atom value token).token = token := rfl

@[simp] theorem token_list (items : List Form) (token : Token) : (list items token).token = token := rfl

def kindName : Form → Text
  | .atom value _ => value.kindName
  | .list _ _ => "list".toList

mutual

/-- A form and all forms inside of it, in the order of the text, each with the number of lists around
it. -/
def outline (depth : Nat) : Form → List (Nat × Form)
  | .atom value token => [(depth, .atom value token)]
  | .list items token => (depth, .list items token) :: outlineAll (depth + 1) items

def outlineAll (depth : Nat) : List Form → List (Nat × Form)
  | [] => []
  | item :: items => outline depth item ++ outlineAll depth items

end

theorem induct {motive : Form → Prop} (atom : ∀ value token, motive (.atom value token))
    (list : ∀ items token, (∀ item ∈ items, motive item) → motive (.list items token)) :
    ∀ form, motive form
  | .atom value token => atom value token
  | .list items token => list items token fun item _ => induct atom list item
termination_by form => sizeOf form

end Form

end Sexpr
