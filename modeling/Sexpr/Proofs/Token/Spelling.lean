import Mathlib.Tactic.ByContra
import Mathlib.Tactic.Tauto
import Sexpr.Proofs.Token.Gap
/-!
Which texts are lexemes, said without splitting anything. Main statements: the head of a text is the
lexeme that it starts with, provided that no symbol character follows a number or a symbol; and the
scanner finds nothing but lexemes.
-/
namespace Sexpr

/-- A string lexeme after its opening quote. A backslash takes the next character with it; the first
quote that none takes along is the last character. -/
inductive StringBody : Text → Prop
  | close : StringBody ['"']
  | escape {c : Char} {rest : Text} : StringBody rest → StringBody ('\\' :: c :: rest)
  | plain {c : Char} {rest : Text} : c ≠ '"' → c ≠ '\\' → StringBody rest → StringBody (c :: rest)

def Digits (text : Text) : Prop :=
  text ≠ [] ∧ ∀ c ∈ text, c.isDigit = true

inductive Numeral : Text → Prop
  | whole {digits : Text} : Digits digits → Numeral digits
  | pointed {digits fraction : Text} : Digits digits → Digits fraction →
      Numeral (digits ++ '.' :: fraction)

def SymbolSpelling (text : Text) : Prop :=
  (∀ c ∈ text, isSymbolChar c = true) ∧ ∃ c ∈ text.head?, c.isDigit = false

/-- The characters that are lexemes by themselves. -/
inductive SpecialChar : Char → Kind → Prop
  | leftParen : SpecialChar '(' .leftParen
  | rightParen : SpecialChar ')' .rightParen
  | other {c : Char} : c ∈ ['[', ']', '\x7b', '\x7d', '\x27', '\x60', '~', '^', '@'] →
      SpecialChar c .special

inductive Lexeme : Kind → Text → Prop
  | number {text : Text} : Numeral text → Lexeme .number text
  | string {body : Text} : StringBody body → Lexeme .string ('"' :: body)
  | special {kind : Kind} {c : Char} : SpecialChar c kind → Lexeme kind [c]
  | symbol {text : Text} : SymbolSpelling text → Lexeme .symbol text

/-- No number and no symbol goes on into such a text. -/
def Boundary (text : Text) : Prop :=
  ∀ c ∈ text.head?, isSymbolChar c = false

section Classes
variable {c : Char}

theorem isSymbolChar_of_isDigit (digit : c.isDigit = true) : isSymbolChar c = true := by
  simp [isSymbolChar, digit]

theorem not_isSymbolChar_of_isSpecial (special : isSpecial c = true) : isSymbolChar c = false := by
  have all : specialCharacters.all (fun c => !isSymbolChar c) = true := by decide
  simpa using List.all_eq_true.mp all c (List.contains_iff_mem.mp special)

theorem not_isSymbolChar_of_opensGap (opens : opensGap c = true) : isSymbolChar c = false := by
  have all : [' ', ',', '\t', '\r', '\n', ';'].all (fun c => !isSymbolChar c) = true := by decide
  simp only [opensGap, isWhitespace, Bool.or_eq_true, decide_eq_true_eq] at opens
  have member : c ∈ [' ', ',', '\t', '\r', '\n', ';'] := by
    simp only [List.mem_cons]
    tauto
  simpa using List.all_eq_true.mp all c member

theorem not_opensGap_of_isSpecial (special : isSpecial c = true) : opensGap c = false := by
  have all : specialCharacters.all (fun c => !opensGap c) = true := by decide
  simpa using List.all_eq_true.mp all c (List.contains_iff_mem.mp special)

theorem not_opensGap_of_isSymbolChar (symbol : isSymbolChar c = true) : opensGap c = false := by
  by_contra opens
  rw [Bool.not_eq_false] at opens
  rw [not_isSymbolChar_of_opensGap opens] at symbol
  contradiction

theorem not_isSpecial_of_isSymbolChar (symbol : isSymbolChar c = true) : isSpecial c = false := by
  by_contra special
  rw [Bool.not_eq_false] at special
  rw [not_isSymbolChar_of_isSpecial special] at symbol
  contradiction

theorem not_quote_of_isSymbolChar (symbol : isSymbolChar c = true) : c ≠ '"' := by
  rintro rfl
  exact absurd symbol (by decide)

theorem not_quote_of_isSpecial (special : isSpecial c = true) : c ≠ '"' := by
  rintro rfl
  exact absurd special (by decide)

theorem specialChar_iff {kind : Kind} : SpecialChar c kind ↔ isSpecial c = true ∧ specialKind c = kind := by
  constructor
  · intro special
    cases special with
    | leftParen => decide
    | rightParen => decide
    | other member =>
        have all : ['[', ']', '\x7b', '\x7d', '\x27', '\x60', '~', '^', '@'].all
            (fun c => isSpecial c && specialKind c = .special) = true := by decide
        simpa using List.all_eq_true.mp all c member
  · rintro ⟨special, rfl⟩
    by_cases opening : c = '('
    · subst opening
      exact .leftParen
    · by_cases closing : c = ')'
      · subst closing
        exact .rightParen
      · have kind : specialKind c = .special := by simp [specialKind, opening, closing]
        rw [kind]
        exact .other (by simpa [isSpecial, specialCharacters, opening, closing] using special)

theorem SpecialChar.isSpecial {kind : Kind} (special : SpecialChar c kind) : isSpecial c = true :=
  (specialChar_iff.mp special).1

theorem isSpecial_eq_false_iff : isSpecial c = false ↔ ∀ kind, ¬ SpecialChar c kind := by
  simp [specialChar_iff]

end Classes

theorem Boundary.nil : Boundary [] := by simp [Boundary]

theorem Boundary.of_opensGap {c : Char} (opens : opensGap c = true) (rest : Text) :
    Boundary (c :: rest) := by
  simp [Boundary, not_isSymbolChar_of_opensGap opens]

theorem Boundary.of_isSpecial {c : Char} (special : isSpecial c = true) (rest : Text) :
    Boundary (c :: rest) := by
  simp [Boundary, not_isSymbolChar_of_isSpecial special]

theorem StringBody.splitString_append {body : Text} (string : StringBody body) (beyond : Text) :
    splitString false (body ++ beyond) = some (body, beyond) := by
  induction string with
  | close => rfl
  | escape _ ih => simp [splitString, ih]
  | plain notQuote notBackslash _ ih => simp [splitString, notQuote, notBackslash, ih]

theorem StringBody.getLast?_cons {body : Text} (string : StringBody body) (c : Char) :
    (c :: body).getLast? = some '"' := by
  induction string generalizing c with
  | close => rfl
  | @escape next rest _ ih => rw [List.getLast?_cons_cons, List.getLast?_cons_cons, ih next]
  | @plain next rest _ _ _ ih => rw [List.getLast?_cons_cons, ih next]

theorem stringBody_of_splitString {escaped : Bool} {text body beyond : Text}
    (found : splitString escaped text = some (body, beyond)) :
    if escaped then ∃ c rest, body = c :: rest ∧ StringBody rest else StringBody body := by
  induction text generalizing escaped body with
  | nil => simp [splitString] at found
  | cons c rest ih =>
      simp only [splitString] at found
      split at found
      · next closing =>
          simp only [Bool.and_eq_true, decide_eq_true_eq, Bool.not_eq_true'] at closing
          cases found
          simpa [closing.2] using StringBody.close
      · next going =>
          obtain ⟨⟨later, after⟩, split, same⟩ := Option.map_eq_some_iff.mp found
          cases same
          cases escaped with
          -- Behind a backslash, even a quote is no end.
          | true => exact ⟨c, later, rfl, by simpa using ih split⟩
          | false =>
              simp only [Bool.not_false, Bool.and_true, decide_eq_true_eq] at going
              by_cases backslash : c = '\\'
              · obtain ⟨d, rest, same, string⟩ : ∃ d rest, later = d :: rest ∧ StringBody rest := by
                  simpa [backslash] using ih split
                subst backslash same
                exact .escape string
              · exact .plain going backslash (by simpa [backslash] using ih split)

theorem takeWhile_of_boundary {p : Char → Bool} {text beyond : Text}
    (inside : ∀ c ∈ text, p c = true) (outside : ∀ c ∈ beyond.head?, p c = false) :
    (text ++ beyond).takeWhile p = text := by
  rw [List.takeWhile_append_of_pos inside]
  cases beyond with
  | nil => simp
  | cons c rest => simp [outside c rfl]

theorem dropWhile_of_boundary {p : Char → Bool} {text beyond : Text}
    (inside : ∀ c ∈ text, p c = true) (outside : ∀ c ∈ beyond.head?, p c = false) :
    (text ++ beyond).dropWhile p = beyond := by
  rw [List.dropWhile_append_of_pos inside]
  cases beyond with
  | nil => simp
  | cons c rest => simp [outside c rfl]

theorem Boundary.not_digit {text : Text} (boundary : Boundary text) :
    ∀ c ∈ text.head?, c.isDigit = false := by
  intro c head
  by_contra digit
  rw [Bool.not_eq_false] at digit
  have := boundary c head
  rw [isSymbolChar_of_isDigit digit] at this
  contradiction

theorem Digits.exists_cons {digits : Text} (isDigits : Digits digits) :
    ∃ c rest, digits = c :: rest ∧ c.isDigit = true := by
  obtain ⟨present, digit⟩ := isDigits
  obtain ⟨c, rest, rfl⟩ := List.exists_cons_of_ne_nil present
  exact ⟨c, rest, rfl, digit c (by simp)⟩

theorem Digits.append {first second : Text} (isFirst : Digits first)
    (isSecond : ∀ c ∈ second, c.isDigit = true) : Digits (first ++ second) := by
  constructor
  · simp [isFirst.1]
  · intro c member
    rcases List.mem_append.mp member with member | member
    · exact isFirst.2 c member
    · exact isSecond c member

theorem Digits.cut {digits : Text} {places : Nat} (isDigit : ∀ c ∈ digits, c.isDigit = true)
    (some : 0 < places) (long : places < digits.length) :
    Digits (digits.take (digits.length - places)) ∧
      Digits (digits.drop (digits.length - places)) := by
  refine ⟨⟨?_, ?_⟩, ?_, ?_⟩
  · apply List.ne_nil_of_length_pos
    rw [List.length_take]
    omega
  · intro c member
    exact isDigit c (List.mem_of_mem_take member)
  · apply List.ne_nil_of_length_pos
    rw [List.length_drop]
    omega
  · intro c member
    exact isDigit c (List.mem_of_mem_drop member)

theorem Numeral.exists_cons {text : Text} (numeral : Numeral text) :
    ∃ c rest, text = c :: rest ∧ c.isDigit = true := by
  cases numeral with
  | whole digits => exact digits.exists_cons
  | @pointed _ fraction digits _ =>
      obtain ⟨c, rest, rfl, digit⟩ := digits.exists_cons
      exact ⟨c, rest ++ '.' :: fraction, rfl, digit⟩

theorem Numeral.isSymbolChar {number : Text} (numeral : Numeral number) :
    ∀ c ∈ number, isSymbolChar c = true := by
  cases numeral with
  | whole digits => exact fun c member => isSymbolChar_of_isDigit (digits.2 c member)
  | pointed digits places =>
      intro c member
      rcases List.mem_append.mp member with inside | inside
      · exact isSymbolChar_of_isDigit (digits.2 c inside)
      · rcases List.mem_cons.mp inside with rfl | inside
        · decide
        · exact isSymbolChar_of_isDigit (places.2 c inside)

theorem Numeral.splitNumber_append {text beyond : Text} (numeral : Numeral text)
    (boundary : Boundary beyond) : splitNumber (text ++ beyond) = (text, beyond) := by
  cases numeral with
  | whole digits =>
      simp only [splitNumber, takeWhile_of_boundary digits.2 boundary.not_digit,
        dropWhile_of_boundary digits.2 boundary.not_digit]
      split
      -- A point would go on with the digits, but it is a symbol character.
      · next point => exact absurd (boundary '.' (by simp)) (by decide)
      · rfl
  | @pointed whole fraction digits places =>
      obtain ⟨c, rest, rfl, digit⟩ := places.exists_cons
      have stop : ∀ d ∈ ('.' :: c :: (rest ++ beyond)).head?, d.isDigit = false := by simp
      have kept := takeWhile_of_boundary places.2 boundary.not_digit
      have left := dropWhile_of_boundary places.2 boundary.not_digit
      rw [List.cons_append] at kept left
      -- The point ends the first digits, and the digit behind it makes it part of the number.
      simp only [splitNumber, List.append_assoc, List.cons_append]
      rw [takeWhile_of_boundary digits.2 stop, dropWhile_of_boundary digits.2 stop]
      simp only [digit, if_true, kept, left]

theorem takeWhile_all {p : Char → Bool} {text : Text} : ∀ c ∈ text.takeWhile p, p c = true :=
  fun _ member => List.all_eq_true.mp List.all_takeWhile _ member

theorem numeral_splitNumber {c : Char} {rest : Text} (digit : c.isDigit = true) :
    Numeral (splitNumber (c :: rest)).1 := by
  have whole : Digits ((c :: rest).takeWhile Char.isDigit) := ⟨by simp [digit], takeWhile_all⟩
  simp only [splitNumber]
  split
  · split
    · next later => exact .pointed whole ⟨by simp [later], takeWhile_all⟩
    · exact .whole whole
  · exact .whole whole

theorem Digits.no_point (text rest : Text) : ¬ ∀ c ∈ text ++ '.' :: rest, c.isDigit = true :=
  fun isDigits => absurd (isDigits '.' (by simp)) (by decide)

theorem Digits.point_unique {whole other fraction otherFraction : Text} (isWhole : Digits whole)
    (isOther : Digits other) (same : whole ++ '.' :: fraction = other ++ '.' :: otherFraction) :
    whole = other ∧ fraction = otherFraction := by
  have stop (places : Text) : ∀ c ∈ ('.' :: places).head?, c.isDigit = false := by simp
  have kept := congrArg (List.takeWhile Char.isDigit) same
  have left := congrArg (List.dropWhile Char.isDigit) same
  rw [takeWhile_of_boundary isWhole.2 (stop _), takeWhile_of_boundary isOther.2 (stop _)] at kept
  rw [dropWhile_of_boundary isWhole.2 (stop _), dropWhile_of_boundary isOther.2 (stop _)] at left
  exact ⟨kept, (List.cons.inj left).2⟩

theorem Numeral.append_cases {text more : Text} (numeral : Numeral text)
    (longer : Numeral (text ++ more)) :
    (Digits text ∧ Digits (text ++ more)) ∨
      (∃ digits fraction, more = digits ++ '.' :: fraction ∧ Digits text ∧ Digits (text ++ digits) ∧
        Digits fraction) ∨
      ∃ whole fraction, text = whole ++ '.' :: fraction ∧ Digits whole ∧ Digits fraction ∧
        Digits (fraction ++ more) := by
  generalize same : text ++ more = again at longer
  cases numeral with
  | whole digits =>
      cases longer with
      | whole longerDigits => exact Or.inl ⟨digits, longerDigits⟩
      | pointed whole places =>
          rcases List.append_eq_append_iff.mp same with ⟨gained, rfl, rfl⟩ | ⟨_ | ⟨c, kept⟩, rfl, cut⟩
          · exact Or.inr (Or.inl ⟨gained, _, rfl, digits, whole, places⟩)
          · rw [List.append_nil] at digits ⊢
            exact Or.inr (Or.inl ⟨[], _, cut.symm, digits, by simpa using digits, places⟩)
          · obtain ⟨rfl, _⟩ := List.cons.inj cut
            exact absurd digits.2 (Digits.no_point _ _)
  | pointed whole places =>
      rw [List.append_assoc, List.cons_append] at same
      cases longer with
      | whole longerDigits => exact absurd (same ▸ longerDigits.2) (Digits.no_point _ _)
      | pointed longerWhole longerPlaces =>
          obtain ⟨_, rfl⟩ := Digits.point_unique whole longerWhole same
          exact Or.inr (Or.inr ⟨_, _, rfl, whole, places, longerPlaces⟩)

theorem SymbolSpelling.exists_cons {text : Text} (spelling : SymbolSpelling text) :
    ∃ c rest, text = c :: rest ∧ isSymbolChar c = true ∧ c.isDigit = false := by
  obtain ⟨symbols, c, head, notDigit⟩ := spelling
  obtain ⟨rest, rfl⟩ := List.head?_eq_some_iff.mp head
  exact ⟨c, rest, rfl, symbols c (by simp), notDigit⟩

theorem SymbolSpelling.splitSymbol_append {text beyond : Text} (spelling : SymbolSpelling text)
    (boundary : Boundary beyond) : splitSymbol (text ++ beyond) = (text, beyond) := by
  rw [splitSymbol, takeWhile_of_boundary spelling.1 boundary, dropWhile_of_boundary spelling.1 boundary]

namespace Head

variable {c : Char} {rest : Text}

theorem of_special {kind : Kind} (special : SpecialChar c kind) (beyond : Text) :
    of (c :: beyond) = .lexeme kind [c] beyond := by
  obtain ⟨isSpecial, rfl⟩ := specialChar_iff.mp special
  simp [of, not_quote_of_isSpecial isSpecial, isSpecial]

theorem of_string {body : Text} (string : StringBody body) (beyond : Text) :
    of ('"' :: (body ++ beyond)) = .lexeme .string ('"' :: body) beyond := by
  simp [of, string.splitString_append]

theorem of_digit (digit : c.isDigit = true) :
    of (c :: rest) = .lexeme .number (splitNumber (c :: rest)).1 (splitNumber (c :: rest)).2 := by
  have symbol := isSymbolChar_of_isDigit digit
  simp [of, not_quote_of_isSymbolChar symbol, not_isSpecial_of_isSymbolChar symbol, digit]

theorem of_symbolChar (symbol : isSymbolChar c = true) (other : c.isDigit = false) :
    of (c :: rest) = .lexeme .symbol (splitSymbol (c :: rest)).1 (splitSymbol (c :: rest)).2 := by
  simp [of, not_quote_of_isSymbolChar symbol, not_isSpecial_of_isSymbolChar symbol, other, symbol]

theorem of_numeral {number : Text} (numeral : Numeral number) (beyond : Text) :
    of (number ++ beyond) = .lexeme .number (splitNumber (number ++ beyond)).1
      (splitNumber (number ++ beyond)).2 := by
  obtain ⟨c, rest, rfl, digit⟩ := numeral.exists_cons
  exact of_digit digit

theorem of_spelling {symbol : Text} (spelling : SymbolSpelling symbol) (beyond : Text) :
    of (symbol ++ beyond) = .lexeme .symbol (splitSymbol (symbol ++ beyond)).1
      (splitSymbol (symbol ++ beyond)).2 := by
  obtain ⟨c, rest, rfl, isSymbol, other⟩ := spelling.exists_cons
  exact of_symbolChar isSymbol other

theorem of_lexeme {kind : Kind} {lexeme beyond : Text} (isLexeme : Lexeme kind lexeme)
    (boundary : Boundary beyond) : of (lexeme ++ beyond) = .lexeme kind lexeme beyond := by
  cases isLexeme with
  | string body => exact of_string body beyond
  | special special => exact of_special special beyond
  | number numeral => rw [of_numeral numeral, numeral.splitNumber_append boundary]
  | symbol spelling => rw [of_spelling spelling, spelling.splitSymbol_append boundary]

theorem isLexeme {text lexeme beyond : Text} {kind : Kind}
    (head : of text = .lexeme kind lexeme beyond) : Lexeme kind lexeme := by
  cases text with
  | nil => simp [of] at head
  | cons c rest =>
      simp only [of] at head
      split at head
      · next quote =>
          split at head
          · next split =>
              cases head
              subst quote
              exact .string (by simpa using stringBody_of_splitString split)
          · cases head
      · split at head
        · next special =>
            cases head
            exact .special (specialChar_iff.mpr ⟨special, rfl⟩)
        · split at head
          · next digit =>
              cases head
              exact .number (numeral_splitNumber digit)
          · split at head
            · next notDigit symbol =>
                cases head
                refine .symbol ⟨takeWhile_all, c, ?_, by simpa using notDigit⟩
                simp [splitSymbol, symbol]
            · cases head

end Head

namespace Lexeme

variable {kind : Kind} {lexeme : Text}

theorem kind_ne_eof (isLexeme : Lexeme kind lexeme) : kind ≠ .eof := by
  cases isLexeme with
  | special special => cases special <;> simp
  | _ => simp

theorem getLast?_not_opensGap (isLexeme : Lexeme kind lexeme) :
    ∀ c ∈ lexeme.getLast?, opensGap c = false := by
  intro c last
  cases isLexeme with
  | number numeral => exact not_opensGap_of_isSymbolChar (numeral.isSymbolChar c (List.mem_of_getLast? last))
  | string string =>
      rw [string.getLast?_cons] at last
      cases last
      rfl
  | special special =>
      cases last
      exact not_opensGap_of_isSpecial special.isSpecial
  | symbol spelling => exact not_opensGap_of_isSymbolChar (spelling.1 c (List.mem_of_getLast? last))

theorem of_number (isLexeme : Lexeme .number lexeme) : Numeral lexeme := by
  cases isLexeme with
  | number numeral => exact numeral
  | special special => cases special

theorem of_string (isLexeme : Lexeme .string lexeme) :
    ∃ body, lexeme = '"' :: body ∧ StringBody body := by
  cases isLexeme with
  | string body => exact ⟨_, rfl, body⟩
  | special special => cases special

theorem of_symbol (isLexeme : Lexeme .symbol lexeme) : SymbolSpelling lexeme := by
  cases isLexeme with
  | symbol spelling => exact spelling
  | special special => cases special

theorem of_leftParen (isLexeme : Lexeme .leftParen lexeme) : lexeme = ['('] := by
  cases isLexeme with
  | special special =>
      cases special
      rfl

theorem of_rightParen (isLexeme : Lexeme .rightParen lexeme) : lexeme = [')'] := by
  cases isLexeme with
  | special special =>
      cases special
      rfl

theorem exists_cons (isLexeme : Lexeme kind lexeme) :
    ∃ c rest, lexeme = c :: rest ∧ opensGap c = false := by
  cases isLexeme with
  | number numeral =>
      obtain ⟨c, rest, same, digit⟩ := numeral.exists_cons
      exact ⟨c, rest, same, not_opensGap_of_isSymbolChar (isSymbolChar_of_isDigit digit)⟩
  | string _ => exact ⟨'"', _, rfl, by decide⟩
  | special special => exact ⟨_, [], rfl, not_opensGap_of_isSpecial special.isSpecial⟩
  | symbol spelling =>
      obtain ⟨c, rest, same, symbol, _⟩ := spelling.exists_cons
      exact ⟨c, rest, same, not_opensGap_of_isSymbolChar symbol⟩

end Lexeme

end Sexpr
