import Sexpr.Token.Lexeme
import Sexpr.Fault
/-!
Scanning: a text becomes its tokens in order, up to the end token or the first fault.

A scanner holds the text still to be scanned and the position where that text starts. Each step takes
a gap and a lexeme off the text, and the position moves over what was taken.
-/
namespace Sexpr

structure Scanner where
  rest : Text
  position : Position
  deriving DecidableEq

namespace Scanner

def ofText (text : Text) : Scanner :=
  ⟨text, .start⟩

/-- The next token, and the scanner after it. A stray character stays where it is, so it is found
again. An open string takes the whole text with it. At the end there are end tokens only. -/
def next (scanner : Scanner) : Except (Located ScanFault) Token × Scanner :=
  let (gap, text) := splitGap false scanner.rest
  let position := scanner.position.through gap
  match Head.of text with
  | .finished => (.ok (.eof position), ⟨text, position⟩)
  | .lexeme kind lexeme beyond =>
    (.ok ⟨kind, lexeme, position⟩, ⟨beyond, position.through lexeme⟩)
  | .openString => (.error ⟨.unterminatedString, position⟩, ⟨[], position.through text⟩)
  | .stray c => (.error ⟨.unexpectedChar c, position⟩, ⟨text, position⟩)

def steps (scanner : Scanner) : Nat → List (Except (Located ScanFault) Token)
  | 0 => []
  | count + 1 =>
    let (outcome, after) := scanner.next
    outcome :: after.steps count

theorem next_shorter {scanner after : Scanner} {token : Token}
    (found : scanner.next = (.ok token, after)) (more : token.kind ≠ .eof) :
    after.rest.length < scanner.rest.length := by
  have gap := congrArg List.length (splitGap_append false scanner.rest)
  simp only [List.length_append] at gap
  simp only [next] at found
  split at found
  · cases found
    exact absurd rfl more
  · next head =>
      have text := congrArg List.length (Head.lexeme_append head)
      have present := List.length_pos_iff.mpr (Head.lexeme_ne_nil head)
      simp only [List.length_append] at text
      cases found
      simp only
      omega
  · cases found
  · cases found

end Scanner

/-- A scanned text: its lexemes as tokens, and how it ended, in an end token or in a fault. -/
structure Scan where
  lexemes : List Token
  ending : Except (Located ScanFault) Token

namespace Scan

def tokens (scan : Scan) : List Token :=
  match scan.ending with
  | .ok eof => scan.lexemes ++ [eof]
  | .error _ => scan.lexemes

def items (scan : Scan) : List (Except (Located ScanFault) Token) :=
  scan.lexemes.map .ok ++ [scan.ending]

def ofScanner (scanner : Scanner) : Scan :=
  match found : scanner.next with
  | (.error fault, _) => ⟨[], .error fault⟩
  | (.ok token, after) =>
    if more : token.kind = .eof then ⟨[], .ok token⟩
    else
      have := Scanner.next_shorter found more
      let later := ofScanner after
      ⟨token :: later.lexemes, later.ending⟩
termination_by scanner.rest.length
decreasing_by assumption

def ofText (text : Text) : Scan :=
  ofScanner (.ofText text)

end Scan

end Sexpr
