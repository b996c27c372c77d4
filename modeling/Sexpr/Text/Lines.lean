import Sexpr.Text
/-!
Cutting a sequence after each element of a kind, and a text into its lines.
-/
namespace Sexpr

/-- The pieces of a sequence, cut after each element for which `ends` holds. Only the last piece may
lack such an end, and no piece is empty. -/
def splitAfter (ends : α → Bool) : List α → List (List α)
  | [] => []
  | a :: rest =>
    if ends a then [a] :: splitAfter ends rest
    else
      match splitAfter ends rest with
      | [] => [[a]]
      | piece :: pieces => (a :: piece) :: pieces

/-- A line without its line feed, and without one carriage return directly before it. A carriage
return that no line feed follows belongs to the line. -/
def withoutLineEnd (line : Text) : Text :=
  if line.getLast? = some '\n' then
    let body := line.dropLast
    if body.getLast? = some '\r' then body.dropLast else body
  else line

def lines (text : Text) : List Text :=
  (splitAfter (· = '\n') text).map withoutLineEnd

end Sexpr
