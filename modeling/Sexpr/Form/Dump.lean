import Sexpr.Form
/-!
The structure of a form as a form: every part becomes a list headed by the name of its kind.
-/
namespace Sexpr.Form

/-- A list headed by a name. The list and its head carry the token of the form that they describe. -/
def named (name : Text) (items : List Form) (token : Token) : Form :=
  .list (.atom (.symbol name) token :: items) token

mutual

def dump : Form → Form
  | .atom .nil token => named Atom.nil.kindName [] token
  | .atom value token => named value.kindName [.atom value token] token
  | .list items token => named "list".toList (dumpAll items) token

def dumpAll : List Form → List Form
  | [] => []
  | item :: items => dump item :: dumpAll items

end

end Sexpr.Form
