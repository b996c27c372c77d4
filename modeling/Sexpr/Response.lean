import Sexpr.Form.Dump
import Sexpr.Form.Print
import Sexpr.Form.Reader
/-!
Responding to a text: its first form is read, evaluated and shown. There is no language to evaluate
yet, so every form is its own value.
-/
namespace Sexpr

def evaluate (form : Form) : Form := form

def shown (view : Form → Text) : Option Form → Text
  | some form => view (evaluate form)
  | none => []

def respond (text : Text) : Except (Located ReadFault) Text :=
  (Form.read defaultDepthLimit text).map (shown Form.print)

def describe (text : Text) : Except (Located ReadFault) Text :=
  (Form.read defaultDepthLimit text).map (shown fun form => form.dump.print)

/-- A text that cannot be read gets an empty response. -/
def respondOrNothing (text : Text) : Text :=
  match respond text with
  | .ok response => response
  | .error _ => []

end Sexpr
