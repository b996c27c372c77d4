import Sexpr.Text
/-!
Texts from bytes.
-/
namespace Sexpr

def decodeUtf8? (bytes : List UInt8) : Option Text :=
  (String.fromUTF8? ⟨bytes.toArray⟩).map String.toList

end Sexpr
