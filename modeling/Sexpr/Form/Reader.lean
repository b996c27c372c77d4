import Sexpr.Form.Descent
import Sexpr.Token.Scanner
/-!
Reading a text form by form. All of the text is scanned before the first form is read, so a fault of
the scanner anywhere in the text comes first.
-/
namespace Sexpr

/-- The tokens of a text and how many of them are used up. The end token, `stop`, can be used up once
and stays the current token all the same. -/
structure Reader where
  lexemes : List Token
  stop : Token
  cursor : Nat
  depthLimit : Nat

namespace Reader

def ofScan (depthLimit : Nat) (scan : Scan) : Except (Located ReadFault) Reader :=
  match scan.ending with
  | .ok stop => .ok ⟨scan.lexemes, stop, 0, depthLimit⟩
  | .error fault => .error (fault.map .scan)

def ofText (depthLimit : Nat) (text : Text) : Except (Located ReadFault) Reader :=
  ofScan depthLimit (.ofText text)

def isEmpty (reader : Reader) : Bool :=
  reader.lexemes.isEmpty

def pending (reader : Reader) : List Token :=
  reader.lexemes.drop reader.cursor

/-- Reads the next form. Also after a fault the reader goes on behind the tokens used up. -/
def next (reader : Reader) : Except (Located ReadFault) Form × Reader :=
  let attempt := readForm reader.stop reader.depthLimit reader.pending
  let cursor :=
    if reader.pending.isEmpty then max reader.cursor (reader.lexemes.length + 1)
    else reader.lexemes.length - attempt.rest.length
  (attempt.outcome, { reader with cursor })

end Reader

def defaultDepthLimit : Nat := 500

/-- Reads the first form of a text, if there is one. What follows it is scanned only. -/
def Form.read (depthLimit : Nat) (text : Text) : Except (Located ReadFault) (Option Form) :=
  match Reader.ofText depthLimit text with
  | .error fault => .error fault
  | .ok reader => if reader.isEmpty then .ok none else reader.next.1.map some

end Sexpr
