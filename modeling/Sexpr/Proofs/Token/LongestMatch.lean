import Sexpr.Proofs.Token.Run
/-!
The lexical grammar by longest match. Main statements: a step of the scanner passes the longest gap, and
finds what the grammar says of the first character behind it, numbers and symbols being as long as they
can be; and a text is scanned without a fault exactly when it is made of gaps, characters of lexemes and
complete strings.
-/
namespace Sexpr

/-- A text is cut in two, as far behind as `cuts` lets the first part and the rest be. -/
structure Longest (cuts : Text → Text → Prop) (text part beyond : Text) : Prop where
  whole : text = part ++ beyond
  cut : cuts part beyond
  longest : ∀ other rest, text = other ++ rest → cuts other rest → other.length ≤ part.length

/-- Whitespace and comments in front of a text. Where nothing follows, the last comment may lack its
line feed. -/
def GapBefore (gap rest : Text) : Prop :=
  Gap gap ∨ (FinalGap gap ∧ rest = [])

def NumberBefore (number _rest : Text) : Prop :=
  Numeral number

def SymbolBefore (symbol _rest : Text) : Prop :=
  ∀ c ∈ symbol, isSymbolChar c = true

theorem Longest.unique {cuts : Text → Text → Prop} {text part beyond other rest : Text}
    (longest : Longest cuts text part beyond) (also : Longest cuts text other rest) :
    part = other ∧ beyond = rest := by
  have shorter := longest.longest _ _ also.whole also.cut
  have longer := also.longest _ _ longest.whole longest.cut
  exact List.append_inj (longest.whole.symm.trans also.whole) (Nat.le_antisymm longer shorter)

theorem longest_gap (text : Text) :
    Longest GapBefore text (splitGap false text).1 (splitGap false text).2 := by
  refine ⟨(splitGap_append false text).symm, ?_, ?_⟩
  · rcases splitGap_spec text with final | ⟨isGap, _⟩
    · exact Or.inr final
    · exact Or.inl isGap
  · rintro other rest rfl (isGap | ⟨final, rfl⟩)
    · rw [isGap.splitGap_append]
      simp
    · simp [final.splitGap_eq]

theorem length_takeWhile_le_splitNumber (text : Text) :
    (text.takeWhile Char.isDigit).length ≤ (splitNumber text).1.length := by
  simp only [splitNumber]
  split
  · split
    · simp
    · exact Nat.le_refl _
  · exact Nat.le_refl _

theorem Numeral.length_le_splitNumber {number : Text} (numeral : Numeral number) (rest : Text) :
    number.length ≤ (splitNumber (number ++ rest)).1.length := by
  cases numeral with
  | whole digits =>
      refine Nat.le_trans ?_ (length_takeWhile_le_splitNumber _)
      simp [List.takeWhile_append_of_pos digits.2]
  | @pointed whole fraction digits places =>
      obtain ⟨c, others, rfl, digit⟩ := places.exists_cons
      have stop : ∀ d ∈ ('.' :: c :: (others ++ rest)).head?, d.isDigit = false := by simp
      have kept : (others ++ rest).takeWhile Char.isDigit = others ++ rest.takeWhile Char.isDigit :=
        List.takeWhile_append_of_pos fun d member => places.2 d (List.mem_cons_of_mem _ member)
      -- The digits end at the point, so the digits behind it are part of what is split off.
      simp only [splitNumber, List.append_assoc, List.cons_append]
      rw [takeWhile_of_boundary digits.2 stop, dropWhile_of_boundary digits.2 stop]
      simp [digit, kept]

theorem longest_number {c : Char} {rest : Text} (digit : c.isDigit = true) :
    Longest NumberBefore (c :: rest) (splitNumber (c :: rest)).1 (splitNumber (c :: rest)).2 := by
  refine ⟨(splitNumber_append _).symm, numeral_splitNumber digit, ?_⟩
  intro other beyond same numeral
  rw [same]
  exact Numeral.length_le_splitNumber numeral beyond

theorem longest_symbol (text : Text) :
    Longest SymbolBefore text (splitSymbol text).1 (splitSymbol text).2 := by
  refine ⟨List.takeWhile_append_dropWhile.symm, takeWhile_all, ?_⟩
  rintro other beyond rfl symbols
  simp [splitSymbol, List.takeWhile_append_of_pos symbols]

namespace Head

variable {c : Char} {rest : Text}

theorem of_openString {body : Text} (isOpen : Scanner.OpenString body) :
    of ('"' :: body) = .openString := by
  cases split : splitString false body with
  | none => simp [of, split]
  | some parts =>
      obtain ⟨string, beyond⟩ := parts
      have isString : StringBody string := by simpa using stringBody_of_splitString split
      exact absurd (splitString_append split).symm (isOpen string beyond isString)

theorem of_stray (notQuote : c ≠ '"') (notSpecial : ∀ kind, ¬ SpecialChar c kind)
    (notSymbol : isSymbolChar c = false) : of (c :: rest) = .stray c := by
  rw [← isSpecial_eq_false_iff] at notSpecial
  have notDigit : c.isDigit = false := by
    by_contra digit
    rw [Bool.not_eq_false] at digit
    rw [isSymbolChar_of_isDigit digit] at notSymbol
    contradiction
  simp [of, notQuote, notSpecial, notDigit, notSymbol]

end Head

namespace Scanner

/-- What the grammar lets a scanner find in a text behind a gap, and where it stands afterwards. -/
structure FindsByGrammar (text : Text) (position : Position)
    (found : Except (Located ScanFault) Token × Scanner) : Prop where
  ended : text = [] → found = (.ok (.eof position), ⟨[], position⟩)
  special : ∀ c kind beyond, text = c :: beyond → SpecialChar c kind →
    found = (.ok ⟨kind, [c], position⟩, ⟨beyond, position.through [c]⟩)
  number : ∀ c rest, text = c :: rest → c.isDigit = true →
    ∃ number beyond, Longest NumberBefore text number beyond ∧
      found = (.ok ⟨.number, number, position⟩, ⟨beyond, position.through number⟩)
  symbol : ∀ c rest, text = c :: rest → c.isDigit = false → isSymbolChar c = true →
    ∃ symbol beyond, Longest SymbolBefore text symbol beyond ∧
      found = (.ok ⟨.symbol, symbol, position⟩, ⟨beyond, position.through symbol⟩)
  string : ∀ body beyond, text = '"' :: (body ++ beyond) → StringBody body →
    found = (.ok ⟨.string, '"' :: body, position⟩, ⟨beyond, position.through ('"' :: body)⟩)
  openString : ∀ body, text = '"' :: body → OpenString body →
    found = (.error ⟨.unterminatedString, position⟩, ⟨[], position.through text⟩)
  stray : ∀ c rest, text = c :: rest → c ≠ '"' → (∀ kind, ¬ SpecialChar c kind) →
    isSymbolChar c = false → found = (.error ⟨.unexpectedChar c, position⟩, ⟨text, position⟩)

theorem next_findsByGrammar (scanner : Scanner) :
    FindsByGrammar (splitGap false scanner.rest).2
      (scanner.position.through (splitGap false scanner.rest).1) scanner.next := by
  simp only [next]
  generalize (splitGap false scanner.rest).2 = text
  generalize scanner.position.through (splitGap false scanner.rest).1 = position
  constructor
  · rintro rfl
    rfl
  · rintro c kind beyond rfl special
    rw [Head.of_special special]
  · rintro c rest rfl digit
    rw [Head.of_digit digit]
    exact ⟨_, _, longest_number digit, rfl⟩
  · rintro c rest rfl other symbol
    rw [Head.of_symbolChar symbol other]
    exact ⟨_, _, longest_symbol _, rfl⟩
  · rintro body beyond rfl string
    rw [Head.of_string string]
  · rintro body rfl isOpen
    rw [Head.of_openString isOpen]
  · rintro c rest rfl notQuote notSpecial notSymbol
    rw [Head.of_stray notQuote notSpecial notSymbol]

end Scanner

def Single (c : Char) : Prop :=
  isWhitespace c = true ∨ (∃ kind, SpecialChar c kind) ∨ isSymbolChar c = true

/-- Texts of whitespace, special characters, symbol characters, comments and complete strings in any
order. -/
inductive Lexical : Text → Prop
  | empty : Lexical []
  | single {c : Char} {rest : Text} : Single c → Lexical rest → Lexical (c :: rest)
  | comment {body rest : Text} : '\n' ∉ body → Lexical rest →
      Lexical (';' :: (body ++ '\n' :: rest))
  | lastComment {body : Text} : '\n' ∉ body → Lexical (';' :: body)
  | string {body rest : Text} : StringBody body → Lexical rest → Lexical ('"' :: (body ++ rest))

instance (c : Char) : Decidable (Single c) :=
  decidable_of_iff (isWhitespace c = true ∨ isSpecial c = true ∨ isSymbolChar c = true)
    (by simp [Single, specialChar_iff])

theorem Single.ne {c d : Char} (single : Single c) (other : ¬ Single d) : c ≠ d :=
  fun same => other (same ▸ single)

theorem Single.ne_semicolon {c : Char} (single : Single c) : c ≠ ';' :=
  single.ne (by decide)

theorem Single.ne_quote {c : Char} (single : Single c) : c ≠ '"' :=
  single.ne (by decide)

namespace Lexical

theorem of_cons {c : Char} {rest : Text} (lexical : Lexical (c :: rest)) (notSemicolon : c ≠ ';')
    (notQuote : c ≠ '"') : Single c ∧ Lexical rest := by
  cases lexical with
  | single single later => exact ⟨single, later⟩
  | comment _ _ => exact absurd rfl notSemicolon
  | lastComment _ => exact absurd rfl notSemicolon
  | string _ _ => exact absurd rfl notQuote

theorem of_quote {text : Text} (lexical : Lexical ('"' :: text)) :
    ∃ body rest, text = body ++ rest ∧ StringBody body ∧ Lexical rest := by
  cases lexical with
  | single single _ => exact absurd rfl single.ne_quote
  | string string later => exact ⟨_, _, rfl, string, later⟩

theorem single_iff {c : Char} {rest : Text} (single : Single c) :
    Lexical (c :: rest) ↔ Lexical rest :=
  ⟨fun lexical => (lexical.of_cons single.ne_semicolon single.ne_quote).2, .single single⟩

theorem comment_iff {body rest : Text} (inside : '\n' ∉ body) :
    Lexical (';' :: (body ++ '\n' :: rest)) ↔ Lexical rest := by
  refine ⟨?_, .comment inside⟩
  intro lexical
  have stop : ∀ text, ∀ c ∈ ('\n' :: text).head?, (c != '\n') = false := by simp
  have beyond {body : Text} (inside : '\n' ∉ body) (rest : Text) :
      (body ++ '\n' :: rest).dropWhile (· != '\n') = '\n' :: rest := by
    refine dropWhile_of_boundary ?_ (stop rest)
    intro c member
    have apart : c ≠ '\n' := ne_of_mem_of_not_mem member inside
    simpa using apart
  generalize same : ';' :: (body ++ '\n' :: rest) = text at lexical
  cases lexical with
  | empty => cases same
  | single single _ =>
      cases same
      exact absurd rfl single.ne_semicolon
  | comment otherInside later =>
      have equal := congrArg (List.dropWhile (· != '\n')) (List.cons.inj same).2
      rw [beyond inside, beyond otherInside] at equal
      cases equal
      exact later
  | lastComment otherInside =>
      cases same
      exact absurd (by simp) otherInside
  | string _ _ => cases same

theorem string_iff {body rest : Text} (string : StringBody body) :
    Lexical ('"' :: (body ++ rest)) ↔ Lexical rest := by
  refine ⟨?_, .string string⟩
  intro lexical
  obtain ⟨other, beyond, same, otherString, later⟩ := lexical.of_quote
  have split := string.splitString_append rest
  rw [same, otherString.splitString_append] at split
  cases split
  exact later

theorem gap_iff {gap rest : Text} (isGap : Gap gap) : Lexical (gap ++ rest) ↔ Lexical rest := by
  induction isGap with
  | empty => rfl
  | white white _ ih => rw [List.cons_append, single_iff (Or.inl white), ih]
  | comment inside _ ih => rw [List.cons_append, List.append_assoc, List.cons_append,
      comment_iff inside, ih]

theorem symbols_iff {symbols rest : Text} (isSymbol : ∀ c ∈ symbols, isSymbolChar c = true) :
    Lexical (symbols ++ rest) ↔ Lexical rest := by
  induction symbols with
  | nil => rfl
  | cons c symbols ih =>
      rw [List.cons_append, single_iff (Or.inr (Or.inr (isSymbol c (by simp)))),
        ih fun c member => isSymbol c (List.mem_cons_of_mem _ member)]

end Lexical

theorem FinalGap.lexical {gap : Text} (final : FinalGap gap) : Lexical gap := by
  cases final with
  | closed isGap =>
      have closed : Lexical (gap ++ []) := (Lexical.gap_iff isGap).mpr .empty
      simpa using closed
  | commented isGap inside => exact (Lexical.gap_iff isGap).mpr (.lastComment inside)

theorem Lexeme.lexical_iff {kind : Kind} {lexeme rest : Text} (isLexeme : Lexeme kind lexeme) :
    Lexical (lexeme ++ rest) ↔ Lexical rest := by
  cases isLexeme with
  | number numeral => exact Lexical.symbols_iff numeral.isSymbolChar
  | string string => exact Lexical.string_iff string
  | special special => exact Lexical.single_iff (Or.inr (Or.inl ⟨kind, special⟩))
  | symbol spelling => exact Lexical.symbols_iff spelling.1

theorem Scanner.OpenString.not_lexical {body : Text} (isOpen : Scanner.OpenString body) :
    ¬ Lexical ('"' :: body) := by
  intro lexical
  obtain ⟨string, rest, same, isString, _⟩ := lexical.of_quote
  exact isOpen string rest isString same

theorem Scanner.Stray.not_lexical {c : Char} (isStray : Scanner.Stray c) (rest : Text) :
    ¬ Lexical (c :: rest) := by
  obtain ⟨notQuote, notSpecial, notSymbol, notGap⟩ := isStray
  obtain ⟨notWhite, notSemicolon⟩ : isWhitespace c = false ∧ c ≠ ';' := by
    simpa [opensGap] using notGap
  intro lexical
  rcases (lexical.of_cons notSemicolon notQuote).1 with white | special | symbol
  · exact absurd white (by simp [notWhite])
  · obtain ⟨kind, special⟩ := special
    exact notSpecial kind special
  · exact absurd symbol (by simp [notSymbol])

namespace Scan

theorem ending_ok_iff (scanner : Scanner) :
    (∃ stop, (ofScanner scanner).ending = .ok stop) ↔ Lexical scanner.rest := by
  induction size : scanner.rest.length using Nat.strongRecOn generalizing scanner with
  | ind count ih =>
    have step := Scanner.next_step scanner
    rcases outcome : scanner.next with ⟨found, after⟩
    rw [outcome] at step
    cases step with
    | finished final =>
        rw [ofScanner_finished outcome rfl]
        exact ⟨fun _ => final.lexical, fun _ => ⟨_, rfl⟩⟩
    | lexeme isGap isLexeme =>
        have shorter := Scanner.next_shorter outcome isLexeme.kind_ne_eof
        rw [ofScanner_found outcome isLexeme.kind_ne_eof, Lexical.gap_iff isGap, isLexeme.lexical_iff]
        exact ih _ (size ▸ shorter) _ rfl
    | openString isGap isOpen =>
        rw [ofScanner_failed outcome, Lexical.gap_iff isGap]
        exact iff_of_false (by simp) isOpen.not_lexical
    | stray isGap isStray =>
        rw [ofScanner_failed outcome, Lexical.gap_iff isGap]
        exact iff_of_false (by simp) (isStray.not_lexical _)

/-- Every step finds what the lexical grammar says behind the longest gap. So a text is scanned without a
fault exactly when it is lexical. -/
theorem finds_longest_match :
    (∀ scanner : Scanner, ∃ gap text, Longest GapBefore scanner.rest gap text ∧
      Scanner.FindsByGrammar text (scanner.position.through gap) scanner.next) ∧
    ∀ text, (∃ stop, (ofText text).ending = .ok stop) ↔ Lexical text := by
  constructor
  · intro scanner
    exact ⟨_, _, longest_gap scanner.rest, scanner.next_findsByGrammar⟩
  · intro text
    exact ending_ok_iff (.ofText text)

theorem finds_parenthesis_and_bracket :
    Scanner.next ⟨[' ', '(', '['], .start⟩ = (.ok ⟨.leftParen, ['('], ⟨0, 1⟩⟩, ⟨['['], ⟨0, 2⟩⟩) ∧
      Scanner.next ⟨['['], ⟨0, 2⟩⟩ = (.ok ⟨.special, ['['], ⟨0, 2⟩⟩, ⟨[], ⟨0, 3⟩⟩) := by
  constructor
  · obtain ⟨gap, text, longest, finds⟩ := finds_longest_match.1 ⟨[' ', '(', '['], .start⟩
    obtain ⟨rfl, rfl⟩ := longest.unique (longest_gap _)
    exact finds.special '(' _ _ rfl .leftParen
  · obtain ⟨gap, text, longest, finds⟩ := finds_longest_match.1 ⟨['['], ⟨0, 2⟩⟩
    obtain ⟨rfl, rfl⟩ := longest.unique (longest_gap _)
    exact finds.special '[' _ _ rfl (.other (by decide))

end Scan

end Sexpr
