import Sexpr.Proofs.Token.Spelling
/-!
Runs of a scanner. One step does one of four things, which `Step` lists; a run that finds tokens only is
a chain of steps, `Yields`. Main statements: `next` takes a step, and a scanned text is a run up to the
end token or the first fault.
-/
namespace Sexpr

namespace Scanner

def OpenString (body : Text) : Prop :=
  ∀ string beyond, StringBody string → body ≠ string ++ beyond

def Stray (c : Char) : Prop :=
  c ≠ '"' ∧ (∀ kind, ¬ SpecialChar c kind) ∧ isSymbolChar c = false ∧ opensGap c = false

inductive Step : Scanner → Except (Located ScanFault) Token → Scanner → Prop
  | finished {gap : Text} {position : Position} : FinalGap gap →
      Step ⟨gap, position⟩ (.ok (.eof (position.through gap))) ⟨[], position.through gap⟩
  | lexeme {gap lexeme beyond : Text} {kind : Kind} {position : Position} : Gap gap →
      Lexeme kind lexeme →
      Step ⟨gap ++ (lexeme ++ beyond), position⟩ (.ok ⟨kind, lexeme, position.through gap⟩)
        ⟨beyond, (position.through gap).through lexeme⟩
  | openString {gap body : Text} {position : Position} : Gap gap → OpenString body →
      Step ⟨gap ++ '"' :: body, position⟩ (.error ⟨.unterminatedString, position.through gap⟩)
        ⟨[], (position.through gap).through ('"' :: body)⟩
  | stray {gap beyond : Text} {c : Char} {position : Position} : Gap gap → Stray c →
      Step ⟨gap ++ c :: beyond, position⟩ (.error ⟨.unexpectedChar c, position.through gap⟩)
        ⟨c :: beyond, position.through gap⟩

theorem openString_of_head {text : Text} (head : Head.of text = .openString) :
    ∃ body, text = '"' :: body ∧ OpenString body := by
  cases text with
  | nil => simp [Head.of] at head
  | cons c rest =>
      by_cases quote : c = '"'
      · subst quote
        refine ⟨rest, rfl, ?_⟩
        rintro string beyond isString rfl
        simp [Head.of, isString.splitString_append] at head
      · simp only [Head.of, quote, if_false] at head
        split at head
        · cases head
        · split at head
          · cases head
          · split at head <;> cases head

theorem stray_of_head {text : Text} {c : Char} (head : Head.of text = .stray c) :
    ∃ beyond, text = c :: beyond ∧ c ≠ '"' ∧ (∀ kind, ¬ SpecialChar c kind) ∧
      isSymbolChar c = false := by
  cases text with
  | nil => simp [Head.of] at head
  | cons d rest =>
      simp only [Head.of] at head
      split at head
      · split at head <;> cases head
      · next notQuote =>
          split at head
          · cases head
          · next notSpecial =>
              split at head
              · cases head
              · split at head
                · cases head
                · next notSymbol =>
                    cases head
                    exact ⟨rest, rfl, notQuote, isSpecial_eq_false_iff.mp (by simpa using notSpecial),
                      by simpa using notSymbol⟩

theorem next_step (scanner : Scanner) : Step scanner scanner.next.1 scanner.next.2 := by
  obtain ⟨whole, position⟩ := scanner
  have parts := splitGap_append false whole
  have spec := splitGap_spec whole
  simp only [next]
  generalize (splitGap false whole).1 = gap at parts spec ⊢
  generalize (splitGap false whole).2 = text at parts spec ⊢
  subst parts
  -- Behind the gap stands nothing, or a character that decides what is found.
  rcases spec with ⟨final, rfl⟩ | ⟨isGap, c, rest, rfl, other⟩
  · simpa [Head.of] using Step.finished final
  · split
    · next head =>
        simp only [Head.of] at head
        repeat' split at head
        all_goals cases head
    · next head =>
        rw [← Head.lexeme_append head]
        exact .lexeme isGap (Head.isLexeme head)
    · next head =>
        obtain ⟨body, same, isOpen⟩ := openString_of_head head
        rw [same]
        exact .openString isGap isOpen
    · next head =>
        obtain ⟨beyond, same, notQuote, notSpecial, notSymbol⟩ := stray_of_head head
        obtain ⟨rfl, rfl⟩ := List.cons.inj same
        exact .stray isGap ⟨notQuote, notSpecial, notSymbol, other⟩

theorem next_finished {gap : Text} (final : FinalGap gap) (position : Position) :
    next ⟨gap, position⟩ = (.ok (.eof (position.through gap)), ⟨[], position.through gap⟩) := by
  simp [next, final.splitGap_eq, Head.of]

theorem next_lexeme {kind : Kind} {lexeme beyond : Text} (isLexeme : Lexeme kind lexeme)
    (boundary : Boundary beyond) (position : Position) :
    next ⟨lexeme ++ beyond, position⟩ =
      (.ok ⟨kind, lexeme, position⟩, ⟨beyond, position.through lexeme⟩) := by
  have head := Head.of_lexeme isLexeme boundary
  obtain ⟨c, rest, same, other⟩ := isLexeme.exists_cons
  rw [same, List.cons_append] at head ⊢
  simp only [next, splitGap_of_not_opensGap other, Position.through_nil, head]

theorem next_special {c : Char} {kind : Kind} (special : SpecialChar c kind) (beyond : Text)
    (position : Position) :
    next ⟨c :: beyond, position⟩ = (.ok ⟨kind, [c], position⟩, ⟨beyond, position.after c⟩) := by
  simp only [next, splitGap_of_not_opensGap (not_opensGap_of_isSpecial special.isSpecial),
    Position.through_nil, Head.of_special special, Position.through_cons]

/-- The scanner finds these tokens, none of them the end token, and is then in the second state. -/
inductive Yields : Scanner → List Token → Scanner → Prop
  | done {scanner : Scanner} : Yields scanner [] scanner
  | found {scanner middle after : Scanner} {token : Token} {tokens : List Token} :
      scanner.next = (.ok token, middle) → token.kind ≠ .eof → Yields middle tokens after →
      Yields scanner (token :: tokens) after

namespace Yields

theorem append {scanner middle after : Scanner} {first second : List Token}
    (yields : Yields scanner first middle) (later : Yields middle second after) :
    Yields scanner (first ++ second) after := by
  induction yields with
  | done => exact later
  | found found more _ ih => exact .found found more (ih later)

theorem behind_gap {gap text : Text} {position : Position} {tokens : List Token} {after : Scanner}
    (isGap : Gap gap) (some : tokens ≠ [])
    (yields : Yields ⟨text, position.through gap⟩ tokens after) :
    Yields ⟨gap ++ text, position⟩ tokens after := by
  cases yields with
  | done => exact absurd rfl some
  | found found more later =>
      rw [← next_behind_gap isGap] at found
      exact .found found more later

theorem lexeme {kind : Kind} {lexeme beyond : Text} (isLexeme : Lexeme kind lexeme)
    (boundary : Boundary beyond) (position : Position) :
    Yields ⟨lexeme ++ beyond, position⟩ [⟨kind, lexeme, position⟩]
      ⟨beyond, position.through lexeme⟩ :=
  .found (next_lexeme isLexeme boundary position) isLexeme.kind_ne_eof .done

theorem special {c : Char} {kind : Kind} (special : SpecialChar c kind) (beyond : Text)
    (position : Position) :
    Yields ⟨c :: beyond, position⟩ [⟨kind, [c], position⟩] ⟨beyond, position.after c⟩ :=
  .found (next_special special beyond position) (Lexeme.special special).kind_ne_eof .done

theorem lexemes {scanner after : Scanner} {tokens : List Token}
    (yields : Yields scanner tokens after) : ∀ token ∈ tokens, Lexeme token.kind token.text := by
  induction yields with
  | done => simp
  | @found scanner middle after token tokens found more _ ih =>
      have step := next_step scanner
      rw [found] at step
      have head : Lexeme token.kind token.text := by
        cases step with
        | finished => exact absurd rfl more
        | lexeme _ isLexeme => exact isLexeme
      simpa [head] using ih

theorem kind_ne_eof {scanner after : Scanner} {tokens : List Token}
    (yields : Yields scanner tokens after) : ∀ token ∈ tokens, token.kind ≠ .eof :=
  fun token member => (yields.lexemes token member).kind_ne_eof

end Yields

end Scanner

namespace Scan

open Scanner (Yields)

theorem ofScanner_found {scanner after : Scanner} {token : Token}
    (found : scanner.next = (.ok token, after)) (more : token.kind ≠ .eof) :
    ofScanner scanner =
      ⟨token :: (ofScanner after).lexemes, (ofScanner after).ending⟩ := by
  rw [ofScanner]
  split
  · next failed => simp [found] at failed
  · next other =>
      cases other.symm.trans found
      simp [more]

theorem ofScanner_finished {scanner after : Scanner} {token : Token}
    (found : scanner.next = (.ok token, after)) (last : token.kind = .eof) :
    ofScanner scanner = ⟨[], .ok token⟩ := by
  rw [ofScanner]
  split
  · next failed => simp [found] at failed
  · next other =>
      cases other.symm.trans found
      simp [last]

theorem ofScanner_failed {scanner after : Scanner} {fault : Located ScanFault}
    (failed : scanner.next = (.error fault, after)) : ofScanner scanner = ⟨[], .error fault⟩ := by
  rw [ofScanner]
  split
  · next other =>
      cases other.symm.trans failed
      rfl
  · next found => simp [failed] at found

theorem ofScanner_congr {scanner other : Scanner} (same : scanner.next = other.next) :
    ofScanner scanner = ofScanner other := by
  rcases found : scanner.next with ⟨fault | token, after⟩
  · rw [ofScanner_failed found, ofScanner_failed (same.symm.trans found)]
  · by_cases last : token.kind = .eof
    · rw [ofScanner_finished found last, ofScanner_finished (same.symm.trans found) last]
    · rw [ofScanner_found found last, ofScanner_found (same.symm.trans found) last]

theorem ofScanner_of_yields {scanner after : Scanner} {tokens : List Token}
    (yields : Yields scanner tokens after) :
    ofScanner scanner = ⟨tokens ++ (ofScanner after).lexemes, (ofScanner after).ending⟩ := by
  induction yields with
  | done => rfl
  | found found more _ ih => rw [ofScanner_found found more, ih, List.cons_append]

theorem ofScanner_run (scanner : Scanner) :
    ∃ last, Yields scanner (ofScanner scanner).lexemes last ∧
      last.next.1 = (ofScanner scanner).ending ∧
      ∀ token, (ofScanner scanner).ending = .ok token → token.kind = .eof := by
  -- A token that is found leaves less text.
  induction size : scanner.rest.length using Nat.strongRecOn generalizing scanner with
  | ind count ih =>
    rcases outcome : scanner.next with ⟨fault | token, after⟩
    · rw [ofScanner_failed outcome]
      exact ⟨scanner, .done, by rw [outcome], by simp⟩
    · by_cases last : token.kind = .eof
      · rw [ofScanner_finished outcome last]
        refine ⟨scanner, .done, by rw [outcome], ?_⟩
        intro other same
        cases same
        exact last
      · have shorter := Scanner.next_shorter outcome last
        obtain ⟨final, yields, ending, closed⟩ := ih after.rest.length (size ▸ shorter) after rfl
        rw [ofScanner_found outcome last]
        exact ⟨final, .found outcome last yields, ending, closed⟩

theorem ofText_run (text : Text) :
    ∃ last, Yields (.ofText text) (ofText text).lexemes last ∧
      last.next.1 = (ofText text).ending ∧
      ∀ token, (ofText text).ending = .ok token → token.kind = .eof :=
  ofScanner_run (.ofText text)

theorem isLexeme_of_mem (text : Text) :
    ∀ token ∈ (ofText text).lexemes, Lexeme token.kind token.text := by
  obtain ⟨last, yields, _⟩ := ofText_run text
  exact yields.lexemes

end Scan

end Sexpr
