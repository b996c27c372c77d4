import Sexpr.Proofs.Token.Layout
import Sexpr.Proofs.Token.LongestMatch
/-!
Scanning a text that goes on. More text can make the last number or symbol longer, and with digits behind
it a point that stands alone becomes part of a number; everything else is found again. Main statements:
the tokens up to one that is no symbol are found again, but for digits that a number gains; so is a stray
character; and closing parentheses on a new line come behind the tokens as they are.
-/
namespace Sexpr

/-- No number and no symbol that ends in front of `beyond` goes on when `more` comes behind it. -/
def Parted (beyond more : Text) : Prop :=
  (beyond ≠ [] ∧ beyond ≠ ['.']) ∨ Boundary more

theorem Parted.of_suffix {later earlier more : Text} (parted : Parted later more)
    (suffix : later <:+ earlier) : Parted earlier more := by
  rcases parted with ⟨present, notPoint⟩ | boundary
  · refine Or.inl ⟨?_, ?_⟩
    · rintro rfl
      exact present (List.suffix_nil.mp suffix)
    · rintro rfl
      rcases List.suffix_cons_iff.mp suffix with same | inside
      · exact notPoint same
      · exact present (List.suffix_nil.mp inside)
  · exact Or.inr boundary

theorem takeWhile_dropWhile_append {p : Char → Bool} {text more : Text}
    (ends : text.dropWhile p ≠ [] ∨ ∀ c ∈ more.head?, p c = false) :
    (text ++ more).takeWhile p = text.takeWhile p ∧
      (text ++ more).dropWhile p = text.dropWhile p ++ more := by
  induction text with
  | nil =>
      have outside := ends.resolve_left (by simp)
      cases more with
      | nil => exact ⟨rfl, rfl⟩
      | cons c rest => simp [outside c rfl]
  | cons c rest ih =>
      by_cases holds : p c = true
      · have later := ih (by simpa [holds] using ends)
        simp [holds, later]
      · simp [holds]

theorem splitSymbol_append_more {text symbol beyond more : Text}
    (split : splitSymbol text = (symbol, beyond)) (parted : Parted beyond more) :
    splitSymbol (text ++ more) = (symbol, beyond ++ more) := by
  obtain ⟨rfl, rfl⟩ := Prod.ext_iff.mp split
  have ends : text.dropWhile isSymbolChar ≠ [] ∨ ∀ c ∈ more.head?, isSymbolChar c = false :=
    parted.imp_left And.left
  obtain ⟨kept, left⟩ := takeWhile_dropWhile_append ends
  simp only [splitSymbol, kept, left]

theorem splitNumber_of_whole {text : Text}
    (ends : ∀ d rest, text.dropWhile Char.isDigit = '.' :: d :: rest → d.isDigit = false) :
    splitNumber text = (text.takeWhile Char.isDigit, text.dropWhile Char.isDigit) := by
  simp only [splitNumber]
  split
  · next d rest same => simp [ends d rest same, same]
  · rfl

theorem splitNumber_of_pointed {text rest : Text} {d : Char}
    (same : text.dropWhile Char.isDigit = '.' :: d :: rest) (digit : d.isDigit = true) :
    splitNumber text = (text.takeWhile Char.isDigit ++ '.' :: (d :: rest).takeWhile Char.isDigit,
      (d :: rest).dropWhile Char.isDigit) := by
  simp only [splitNumber, same, digit, if_true]

theorem splitNumber_append_more {text number beyond more : Text}
    (split : splitNumber text = (number, beyond)) (parted : Parted beyond more) :
    splitNumber (text ++ more) = (number, beyond ++ more) := by
  obtain ⟨rfl, rfl⟩ := Prod.ext_iff.mp split
  by_cases pointed : ∃ d rest, text.dropWhile Char.isDigit = '.' :: d :: rest ∧ d.isDigit = true
  · obtain ⟨d, rest, same, digit⟩ := pointed
    rw [splitNumber_of_pointed same digit] at parted ⊢
    have atPoint : text.dropWhile Char.isDigit ≠ [] ∨ ∀ c ∈ more.head?, c.isDigit = false :=
      Or.inl (by simp [same])
    obtain ⟨whole, beyond⟩ := takeWhile_dropWhile_append atPoint
    obtain ⟨places, left⟩ := takeWhile_dropWhile_append (parted.imp And.left Boundary.not_digit)
    rw [same, List.cons_append, List.cons_append] at beyond
    rw [List.cons_append] at places left
    rw [splitNumber_of_pointed beyond digit, whole, places, left]
  · have ends : ∀ d rest, text.dropWhile Char.isDigit = '.' :: d :: rest → d.isDigit = false := by
      intro d rest same
      simpa using fun digit => pointed ⟨d, rest, same, digit⟩
    rw [splitNumber_of_whole ends] at parted ⊢
    obtain ⟨whole, beyond⟩ := takeWhile_dropWhile_append (parted.imp And.left Boundary.not_digit)
    rw [splitNumber_of_whole, whole, beyond]
    -- A point that stands alone at the end is left as it is, no digit comes behind it.
    intro d rest same
    rw [beyond] at same
    generalize text.dropWhile Char.isDigit = left at parted ends same
    rcases left with _ | ⟨c, _ | ⟨e, others⟩⟩
    · have boundary : Boundary more := parted.resolve_left (by simp)
      rw [List.nil_append] at same
      exact absurd (boundary '.' (by simp [same])) (by decide)
    · obtain ⟨rfl, rfl⟩ := List.cons.inj same
      have boundary : Boundary (d :: rest) := parted.resolve_left (by simp)
      exact boundary.not_digit d rfl
    · obtain ⟨rfl, tail⟩ := List.cons.inj same
      obtain ⟨rfl, _⟩ := List.cons.inj tail
      exact ends e others rfl

theorem splitGap_append_more {text gap beyond : Text} (split : splitGap false text = (gap, beyond))
    (present : beyond ≠ []) (more : Text) :
    splitGap false (text ++ more) = (gap, beyond ++ more) := by
  obtain ⟨rfl, rfl⟩ := Prod.ext_iff.mp split
  rcases splitGap_spec text with ⟨_, none⟩ | ⟨isGap, c, rest, same, other⟩
  · exact absurd none present
  · have whole := splitGap_append false text
    rw [same] at whole ⊢
    conv_lhs => rw [← whole]
    rw [List.append_assoc, isGap.splitGap_append, List.cons_append, splitGap_of_not_opensGap other,
      List.append_nil]

theorem Head.of_append_more {text lexeme beyond more : Text} {kind : Kind}
    (head : of text = .lexeme kind lexeme beyond)
    (parted : kind = .number ∨ kind = .symbol → Parted beyond more) :
    of (text ++ more) = .lexeme kind lexeme (beyond ++ more) := by
  have whole := lexeme_append head
  subst whole
  rw [List.append_assoc]
  cases isLexeme head with
  | string string => exact of_string string (beyond ++ more)
  | special special => exact of_special special (beyond ++ more)
  | number numeral =>
      rw [of_numeral numeral] at head
      have split : splitNumber (lexeme ++ beyond) = (lexeme, beyond) := by
        simpa [Prod.ext_iff] using head
      have longer := splitNumber_append_more split (parted (Or.inl rfl))
      rw [List.append_assoc] at longer
      rw [of_numeral numeral, longer]
  | symbol spelling =>
      rw [of_spelling spelling] at head
      have split : splitSymbol (lexeme ++ beyond) = (lexeme, beyond) := by
        simpa [Prod.ext_iff] using head
      have longer := splitSymbol_append_more split (parted (Or.inr rfl))
      rw [List.append_assoc] at longer
      rw [of_spelling spelling, longer]

theorem Head.of_number {number : Text} (numeral : Numeral number) (beyond : Text) :
    ∃ digits rest, of (number ++ beyond) = .lexeme .number (number ++ digits) rest ∧
      Numeral (number ++ digits) := by
  have longest := numeral.length_le_splitNumber beyond
  have head := of_numeral numeral beyond
  obtain ⟨digits, longer⟩ := List.prefix_of_prefix_length_le (List.prefix_append number beyond)
    ⟨_, splitNumber_append (number ++ beyond)⟩ longest
  rw [← longer] at head
  exact ⟨digits, _, head, (isLexeme head).of_number⟩

/-- The token that is found when more text comes behind: the same one, or a number with more digits. -/
inductive Token.GoesOn : Token → Token → Prop
  | same {token : Token} : GoesOn token token
  | number {token : Token} {more : Text} : token.kind = .number → Numeral token.text →
      Numeral (token.text ++ more) → GoesOn token { token with text := token.text ++ more }

theorem Token.GoesOn.kind_eq {token again : Token} (goesOn : token.GoesOn again) :
    again.kind = token.kind := by
  cases goesOn <;> rfl

theorem Token.GoesOn.position_eq {token again : Token} (goesOn : token.GoesOn again) :
    again.position = token.position := by
  cases goesOn <;> rfl

namespace Scanner

def followedBy (scanner : Scanner) (more : Text) : Scanner :=
  ⟨scanner.rest ++ more, scanner.position⟩

variable {scanner after last : Scanner} {token : Token} {tokens : List Token} {more : Text}

theorem next_of_split {gap text lexeme beyond : Text} {kind : Kind}
    (split : splitGap false scanner.rest = (gap, text))
    (head : Head.of text = .lexeme kind lexeme beyond) :
    scanner.next = (.ok ⟨kind, lexeme, scanner.position.through gap⟩,
      ⟨beyond, (scanner.position.through gap).through lexeme⟩) := by
  simp only [next, split, head]

theorem split_of_next (found : scanner.next = (.ok token, after)) (notLast : token.kind ≠ .eof) :
    ∃ gap text, splitGap false scanner.rest = (gap, text) ∧ text ≠ [] ∧
      Head.of text = .lexeme token.kind token.text after.rest ∧
      token.position = scanner.position.through gap ∧
      after.position = token.position.through token.text := by
  refine ⟨_, _, rfl, ?_⟩
  simp only [next] at found
  split at found
  · cases found
    exact absurd rfl notLast
  · next head =>
      cases found
      refine ⟨?_, head, rfl, rfl⟩
      intro none
      simp [none, Head.of] at head
  · cases found
  · cases found

theorem next_followedBy (found : scanner.next = (.ok token, after)) (notLast : token.kind ≠ .eof)
    (parted : token.kind = .number ∨ token.kind = .symbol → Parted after.rest more) :
    (scanner.followedBy more).next = (.ok token, after.followedBy more) := by
  obtain ⟨gap, text, split, present, head, position, behind⟩ := split_of_next found notLast
  have gaps : splitGap false (scanner.followedBy more).rest = (gap, text ++ more) :=
    splitGap_append_more split present more
  rw [next_of_split gaps (Head.of_append_more head parted)]
  obtain ⟨kind, lexeme, _⟩ := token
  obtain ⟨beyond, _⟩ := after
  simp only at position behind
  subst position behind
  rfl

theorem parted_of_next (found : scanner.next = (.ok token, after)) (notLast : token.kind ≠ .eof)
    (notSymbol : token.kind ≠ .symbol) (more : Text) : Parted scanner.rest more := by
  obtain ⟨rest, position⟩ := scanner
  refine Or.inl ⟨?_, ?_⟩
  · rintro rfl
    rw [next_finished (.closed .empty)] at found
    cases found
    exact notLast rfl
  · rintro rfl
    have dot : isSymbolChar '.' = true := by decide
    have point : Lexeme .symbol ['.'] := .symbol ⟨by simpa using dot, '.', rfl, rfl⟩
    have symbol := next_lexeme point .nil position
    rw [List.append_nil, found] at symbol
    cases symbol
    exact notSymbol rfl

theorem next_goesOn (found : scanner.next = (.ok token, after)) (notLast : token.kind ≠ .eof)
    (notSymbol : token.kind ≠ .symbol) (more : Text) :
    ∃ again beyond, (scanner.followedBy more).next = (.ok again, beyond) ∧ token.GoesOn again := by
  by_cases number : token.kind = .number
  · obtain ⟨gap, text, split, present, head, position, _⟩ := split_of_next found notLast
    have whole := Head.lexeme_append head
    have numeral := (number ▸ Head.isLexeme head).of_number
    obtain ⟨digits, rest, longer, isNumeral⟩ := Head.of_number numeral (after.rest ++ more)
    rw [← List.append_assoc, whole] at longer
    have gaps : splitGap false (scanner.followedBy more).rest = (gap, text ++ more) :=
      splitGap_append_more split present more
    refine ⟨_, _, next_of_split gaps longer, ?_⟩
    obtain ⟨kind, lexeme, _⟩ := token
    simp only at number position
    subst number position
    exact .number rfl numeral isNumeral
  · have parted : token.kind = .number ∨ token.kind = .symbol → Parted after.rest more :=
      fun either => absurd either (by simp [number, notSymbol])
    exact ⟨token, _, next_followedBy found notLast parted, .same⟩

namespace Yields

theorem suffix (yields : Yields scanner tokens last) : last.rest <:+ scanner.rest := by
  induction yields with
  | done => exact List.suffix_rfl
  | @found scanner middle _ token tokens found _ _ ih =>
      have step := next_step scanner
      rw [found] at step
      obtain ⟨taken, same, _⟩ := step.moves
      exact ih.trans ⟨taken, same.symm⟩

theorem followedBy (yields : Yields scanner tokens last) (parted : Parted last.rest more) :
    Yields (scanner.followedBy more) tokens (last.followedBy more) := by
  induction yields with
  | done => exact .done
  | found found notLast later ih =>
      exact .found (next_followedBy found notLast fun _ => parted.of_suffix later.suffix) notLast
        (ih parted)

theorem split {before later : List Token} (yields : Yields scanner (before ++ token :: later) last) :
    ∃ middle after, Yields scanner before middle ∧ middle.next = (.ok token, after) ∧
      token.kind ≠ .eof := by
  induction before generalizing scanner with
  | nil =>
      cases yields with
      | found found notLast _ => exact ⟨scanner, _, .done, found, notLast⟩
  | cons first before ih =>
      cases yields with
      | found found notLast rest =>
          obtain ⟨middle, after, yields, next, more⟩ := ih rest
          exact ⟨middle, after, .found found notLast yields, next, more⟩

end Yields

theorem next_stray {gap : Text} {c : Char} (isGap : Gap gap) (isStray : Stray c) (beyond : Text)
    (position : Position) :
    next ⟨gap ++ c :: beyond, position⟩ =
      (.error ⟨.unexpectedChar c, position.through gap⟩, ⟨c :: beyond, position.through gap⟩) := by
  obtain ⟨notQuote, notSpecial, notSymbol, notGap⟩ := isStray
  rw [next_behind_gap isGap]
  simp only [next, splitGap_of_not_opensGap notGap, Position.through_nil,
    Head.of_stray notQuote notSpecial notSymbol]

theorem stray_goesOn {c : Char} {position : Position}
    (found : scanner.next = (.error ⟨.unexpectedChar c, position⟩, after)) (more : Text) :
    Parted scanner.rest more ∧
      (scanner.followedBy more).next.1 = .error ⟨.unexpectedChar c, position⟩ := by
  have step := next_step scanner
  rw [found] at step
  cases step with
  | @stray gap beyond _ start isGap isStray =>
      constructor
      · refine Or.inl ⟨by simp, ?_⟩
        intro point
        change gap ++ c :: beyond = ['.'] at point
        obtain ⟨_, _, notSymbol, _⟩ := isStray
        have member : c ∈ gap ++ c :: beyond := by simp
        rw [point, List.mem_singleton] at member
        exact absurd notSymbol (by rw [member]; decide)
      · have again := next_stray isGap isStray (beyond ++ more) start
        simp only [followedBy, List.append_assoc, List.cons_append, again]

theorem yields_closing (count : Nat) (position : Position) :
    ∃ closing stop, Yields ⟨List.replicate count ')', position⟩ closing ⟨[], stop⟩ ∧
      closing.length = count ∧ ∀ token ∈ closing, token.kind = .rightParen := by
  induction count generalizing position with
  | zero => exact ⟨[], position, .done, rfl, by simp⟩
  | succ count ih =>
      obtain ⟨closing, stop, yields, length, kinds⟩ := ih (position.after ')')
      have first : Yields ⟨')' :: List.replicate count ')', position⟩
          [⟨.rightParen, [')'], position⟩] ⟨List.replicate count ')', position.after ')'⟩ :=
        Yields.special .rightParen _ position
      exact ⟨_, stop, first.append yields, by simp [length], by simpa using kinds⟩

end Scanner

theorem FinalGap.append_feed {gap : Text} (final : FinalGap gap) : Gap (gap ++ ['\n']) := by
  cases final with
  | closed isGap => exact isGap.append (.white (by decide) .empty)
  | commented isGap inside => simpa using isGap.append (.comment inside .empty)

namespace Scan

open Scanner (Yields)

variable {text : Text}

theorem lexemes_goOn {before later : List Token} {token : Token}
    (lexemes : (ofText text).lexemes = before ++ token :: later) (notSymbol : token.kind ≠ .symbol)
    (more : Text) :
    ∃ again beyond, (ofText (text ++ more)).lexemes = before ++ again :: beyond ∧
      token.GoesOn again := by
  obtain ⟨last, yields, _, _⟩ := ofText_run text
  rw [lexemes] at yields
  obtain ⟨middle, after, first, found, notLast⟩ := yields.split
  have parted := Scanner.parted_of_next found notLast notSymbol more
  obtain ⟨again, beyond, next, goesOn⟩ := Scanner.next_goesOn found notLast notSymbol more
  have all := (first.followedBy parted).append (.found next (goesOn.kind_eq ▸ notLast) .done)
  refine ⟨again, (ofScanner beyond).lexemes, ?_, goesOn⟩
  have scan : (ofText (text ++ more)).lexemes = _ := congrArg Scan.lexemes (ofScanner_of_yields all)
  simpa using scan

theorem stray_goesOn {c : Char} {position : Position}
    (stray : (ofText text).ending = .error ⟨.unexpectedChar c, position⟩) (more : Text) :
    (ofText (text ++ more)).ending = .error ⟨.unexpectedChar c, position⟩ := by
  obtain ⟨last, yields, ending, _⟩ := ofText_run text
  have found : last.next = (.error ⟨.unexpectedChar c, position⟩, last.next.2) :=
    Prod.ext (ending.trans stray) rfl
  obtain ⟨parted, again⟩ := Scanner.stray_goesOn found more
  have failed : (last.followedBy more).next =
      (.error ⟨.unexpectedChar c, position⟩, (last.followedBy more).next.2) := Prod.ext again rfl
  have scan := congrArg Scan.ending (ofScanner_of_yields (yields.followedBy parted))
  rw [ofScanner_failed failed] at scan
  exact scan

theorem ofText_feed {lexemes : List Token} {stop : Token} (scan : ofText text = ⟨lexemes, .ok stop⟩)
    (more : Text) :
    ofText (text ++ '\n' :: more) =
      ⟨lexemes ++ (ofScanner ⟨more, .through .start (text ++ ['\n'])⟩).lexemes,
        (ofScanner ⟨more, .through .start (text ++ ['\n'])⟩).ending⟩ := by
  obtain ⟨covered, rest, whole, _, yields, ending, closed⟩ := ofText_stops text
  rw [scan] at yields ending closed
  have step := Scanner.next_step ⟨rest, .through .start covered⟩
  rw [ending] at step
  generalize (Scanner.next ⟨rest, .through .start covered⟩).2 = after at step
  cases step with
  | lexeme _ isLexeme => exact absurd (closed _ rfl) isLexeme.kind_ne_eof
  | finished final =>
      have line : opensGap '\n' = true := by decide
      have first := ofScanner_of_yields (yields.followedBy (Or.inr (.of_opensGap line more)))
      have later := ofScanner_congr (Scanner.next_behind_gap final.append_feed more (.through .start covered))
      rw [← Position.through_append, ← List.append_assoc, ← whole] at later
      rw [← later]
      simpa [Scanner.followedBy, ofText, Scanner.ofText] using first

theorem ofText_closed {lexemes : List Token} {stop : Token}
    (scan : ofText text = ⟨lexemes, .ok stop⟩) (count : Nat) :
    ∃ closing position, ofText (text ++ '\n' :: List.replicate count ')') =
      ⟨lexemes ++ closing, .ok (.eof position)⟩ ∧ closing.length = count ∧
        ∀ token ∈ closing, token.kind = .rightParen := by
  obtain ⟨closing, position, yields, length, kinds⟩ :=
    Scanner.yields_closing count (.through .start (text ++ ['\n']))
  refine ⟨closing, position, ?_, length, kinds⟩
  have last := Scanner.next_finished (.closed .empty) position
  rw [ofText_feed scan, ofScanner_of_yields yields, ofScanner_finished last rfl]
  simp [Position.through_nil]

end Scan

end Sexpr
