import Sexpr.Token.Alphabet
import Sexpr.Token
/-!
Splitting a text at its head: a gap of whitespace and comments, or one lexeme. Every split is into a
part and the rest, which together are the text again.
-/
namespace Sexpr

/-- Splits off the longest run of whitespace and comments. A comment goes from `;` through the next
line feed; `inComment` says whether the text starts inside of one. -/
def splitGap (inComment : Bool) : Text → Text × Text
  | [] => ([], [])
  | c :: rest =>
    if inComment || opensGap c then
      let (gap, beyond) := splitGap (if inComment then c ≠ '\n' else c = ';') rest
      (c :: gap, beyond)
    else ([], c :: rest)

/-- Splits off the rest of a string lexeme, its closing quote included. A backslash takes the next
character with it, so that a quote there does not close the string; `escaped` says whether one stands
before the text. -/
def splitString (escaped : Bool) : Text → Option (Text × Text)
  | [] => none
  | c :: rest =>
    if c = '"' && !escaped then some (['"'], rest)
    else
      (splitString (c = '\\' && !escaped) rest).map fun (body, beyond) => (c :: body, beyond)

/-- Splits off digits, with a point and more digits after it if there are such. A point that no digit
follows is left for the next lexeme. -/
def splitNumber (text : Text) : Text × Text :=
  let whole := text.takeWhile Char.isDigit
  match text.dropWhile Char.isDigit with
  | '.' :: digit :: rest =>
    if digit.isDigit then
      (whole ++ '.' :: (digit :: rest).takeWhile Char.isDigit,
        (digit :: rest).dropWhile Char.isDigit)
    else (whole, '.' :: digit :: rest)
  | rest => (whole, rest)

def splitSymbol (text : Text) : Text × Text :=
  (text.takeWhile isSymbolChar, text.dropWhile isSymbolChar)

inductive Head where
  | finished
  | lexeme (kind : Kind) (text rest : Text)
  | openString
  | stray (c : Char)

def specialKind (c : Char) : Kind :=
  if c = '(' then .leftParen else if c = ')' then .rightParen else .special

/-- The first character decides the kind of lexeme. Digits are symbol characters, so they have to be
tried first. -/
def Head.of : Text → Head
  | [] => .finished
  | c :: rest =>
    if c = '"' then
      match splitString false rest with
      | some (body, beyond) => .lexeme .string (c :: body) beyond
      | none => .openString
    else if isSpecial c then .lexeme (specialKind c) [c] rest
    else if c.isDigit then
      let (number, beyond) := splitNumber (c :: rest)
      .lexeme .number number beyond
    else if isSymbolChar c then
      let (symbol, beyond) := splitSymbol (c :: rest)
      .lexeme .symbol symbol beyond
    else .stray c

theorem splitGap_append (inComment : Bool) (text : Text) :
    (splitGap inComment text).1 ++ (splitGap inComment text).2 = text := by
  induction text generalizing inComment with
  | nil => rfl
  | cons c rest ih =>
      simp only [splitGap]
      split
      · simp [ih]
      · rfl

theorem splitString_append {escaped : Bool} {text body beyond : Text}
    (found : splitString escaped text = some (body, beyond)) : body ++ beyond = text := by
  induction text generalizing escaped body with
  | nil => simp [splitString] at found
  | cons c rest ih =>
      simp only [splitString] at found
      split at found
      · next closing =>
          cases found
          simp_all
      · obtain ⟨⟨later, after⟩, split, same⟩ := Option.map_eq_some_iff.mp found
        cases same
        simp [ih split]

theorem splitNumber_append (text : Text) :
    (splitNumber text).1 ++ (splitNumber text).2 = text := by
  simp only [splitNumber]
  split
  · next digit rest point =>
      have whole := List.takeWhile_append_dropWhile (p := Char.isDigit) (l := text)
      rw [point] at whole
      split
      · rw [List.append_assoc, List.cons_append, List.takeWhile_append_dropWhile, whole]
      · exact whole
  · exact List.takeWhile_append_dropWhile

theorem splitNumber_ne_nil {c : Char} {rest : Text} (digit : c.isDigit = true) :
    (splitNumber (c :: rest)).1 ≠ [] := by
  simp only [splitNumber]
  split
  · split <;> simp [digit]
  · simp [digit]

theorem Head.lexeme_append {text lexeme beyond : Text} {kind : Kind}
    (head : Head.of text = .lexeme kind lexeme beyond) : lexeme ++ beyond = text := by
  cases text with
  | nil => simp [Head.of] at head
  | cons c rest =>
      simp only [Head.of] at head
      split at head
      · split at head
        · next split =>
            cases head
            simp [splitString_append split]
        · cases head
      · split at head
        · cases head
          rfl
        · split at head
          · cases head
            exact splitNumber_append _
          · split at head
            · cases head
              exact List.takeWhile_append_dropWhile
            · cases head

theorem Head.lexeme_ne_nil {text lexeme beyond : Text} {kind : Kind}
    (head : Head.of text = .lexeme kind lexeme beyond) : lexeme ≠ [] := by
  cases text with
  | nil => simp [Head.of] at head
  | cons c rest =>
      simp only [Head.of] at head
      split at head
      · split at head
        · cases head
          simp
        · cases head
      · split at head
        · cases head
          simp
        · split at head
          · next digit =>
              cases head
              exact splitNumber_ne_nil digit
          · split at head
            · next symbol =>
                cases head
                simp [splitSymbol, symbol]
            · cases head

end Sexpr
