import Sexpr.Text
/-!
Positions in a text: the line and the column of a character, both counted from zero. A position
moves over a character at a time, and so over a text by a left fold.
-/
namespace Sexpr

structure Position where
  line : Nat
  column : Nat
  deriving DecidableEq

namespace Position

def start : Position := ⟨0, 0⟩

def after (p : Position) (c : Char) : Position :=
  if c = '\n' then ⟨p.line + 1, 0⟩ else ⟨p.line, p.column + 1⟩

def through (p : Position) (text : Text) : Position :=
  text.foldl after p

/-- Lines are shown counting from one, columns from zero. -/
def label (p : Position) : String :=
  s!"@{p.line + 1}.{p.column}"

theorem through_nil (p : Position) : p.through [] = p := rfl

theorem through_cons (p : Position) (c : Char) (text : Text) :
    p.through (c :: text) = (p.after c).through text := rfl

theorem through_append (p : Position) (first second : Text) :
    p.through (first ++ second) = (p.through first).through second :=
  List.foldl_append

end Position

end Sexpr
