import Sexpr.Double.Shortest
import Sexpr.Form
/-!
The canonical text of a form: items between parentheses, one space apart. Strings and symbols are
their own text.
-/
namespace Sexpr

def Atom.text : Atom → Text
  | .nil => "nil".toList
  | .bool true => "true".toList
  | .bool false => "false".toList
  | .number value => value.text
  | .string text => text
  | .symbol text => text

namespace Form

mutual

def print : Form → Text
  | .atom value _ => value.text
  | .list items _ => '(' :: (printAll items ++ [')'])

def printAll : List Form → Text
  | [] => []
  | [item] => print item
  | item :: next :: items => print item ++ ' ' :: printAll (next :: items)

end

end Form

end Sexpr
