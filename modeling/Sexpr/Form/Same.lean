import Sexpr.Form
/-!
Equality of forms by structure, whatever tokens they carry. Numbers are equal as numbers, so a form
that holds something that is not a number differs from itself.
-/
namespace Sexpr

def Atom.same : Atom → Atom → Bool
  | .nil, .nil => true
  | .bool first, .bool second => first = second
  | .number first, .number second => first.same second
  | .string first, .string second => first = second
  | .symbol first, .symbol second => first = second
  | _, _ => false

namespace Form

mutual

def same : Form → Form → Bool
  | .atom first _, .atom second _ => first.same second
  | .list first _, .list second _ => sameAll first second
  | _, _ => false

def sameAll : List Form → List Form → Bool
  | [], [] => true
  | first :: firsts, second :: seconds => same first second && sameAll firsts seconds
  | _, _ => false

end

end Form

end Sexpr
