import Mathlib.Data.List.Forall2
import Sexpr.Proofs.Form.Calls
import Sexpr.Proofs.Form.RoundTrip
/-!
The printed text as a canonical form. Main statement: forms that were read are equal exactly if they print
alike, and exactly if their tokens agree one by one, where numbers need to denote the same double only.
-/
namespace Sexpr

/-- Tokens of one kind and one text, or two spellings of one double. -/
inductive Token.Agrees (token other : Token) : Prop
  | number {x : Double} : token.kind = .number → other.kind = .number →
      Double.ofNumeral? token.text = some x → Double.ofNumeral? other.text = some x → Agrees token other
  | same : token.kind = other.kind → token.text = other.text → Agrees token other

def Atom.tokenKind : Atom → Kind
  | .number _ => .number
  | .string _ => .string
  | _ => .symbol

namespace Denotes

variable {token other : Token} {value : Atom}

theorem spelling (denotes : Denotes token value) :
    token.kind = value.tokenKind ∧ (token.kind ≠ .number → token.text = value.text) := by
  cases denotes with
  | number number _ => exact ⟨number, absurd number⟩
  | string string => exact ⟨string, fun _ => rfl⟩
  | true symbol same => exact ⟨symbol, fun _ => same⟩
  | false symbol same => exact ⟨symbol, fun _ => same⟩
  | nil symbol same => exact ⟨symbol, fun _ => same⟩
  | symbol symbol _ => exact ⟨symbol, fun _ => rfl⟩

theorem agrees (denotes : Denotes token value) (also : Denotes other value) : token.Agrees other := by
  by_cases number : token.kind = .number
  · cases denotes with
    | number _ found =>
        cases also with
        | number otherNumber otherFound => exact .number number otherNumber found otherFound
    | _ => simp_all
  · have kinds := denotes.spelling.1.trans also.spelling.1.symm
    exact .same kinds ((denotes.spelling.2 number).trans (also.spelling.2 (kinds ▸ number)).symm)

theorem of_agrees (agrees : token.Agrees other) (also : Denotes other value) : Denotes token value := by
  cases agrees with
  | @number x number otherNumber found otherFound =>
      have read := also.ofToken_eq
      simp only [Atom.ofToken, otherNumber, otherFound] at read
      cases read
      exact .number number found
  | same kinds texts => exact also.of_same kinds texts

end Denotes

theorem Token.Agrees.kind_eq {token other : Token} (agrees : token.Agrees other) :
    token.kind = other.kind := by
  cases agrees with
  | number number otherNumber _ _ => rw [number, otherNumber]
  | same kinds _ => exact kinds

theorem Lexeme.parenthesis_unique {kind : Kind} {text other : Text} (isLexeme : Lexeme kind text)
    (also : Lexeme kind other) (parenthesis : kind = .leftParen ∨ kind = .rightParen) : text = other := by
  rcases parenthesis with rfl | rfl
  · rw [isLexeme.of_leftParen, also.of_leftParen]
  · rw [isLexeme.of_rightParen, also.of_rightParen]

theorem Token.Agrees.of_parenthesis {token other : Token} (isLexeme : Lexeme token.kind token.text)
    (also : Lexeme other.kind other.text) (same : token.kind = other.kind)
    (parenthesis : token.kind = .leftParen ∨ token.kind = .rightParen) : token.Agrees other :=
  .same same (isLexeme.parenthesis_unique (same ▸ also) parenthesis)

mutual

theorem Linear.agrees {form other : Form} {spent otherSpent : List Token} :
    Linear form spent → (∀ token ∈ spent, Lexeme token.kind token.text) → Linear other otherSpent →
      (∀ token ∈ otherSpent, Lexeme token.kind token.text) → Form.Alike (· = ·) form other →
      List.Forall₂ Token.Agrees spent otherSpent
  | .atom denotes, _, linear, _, alike => by
      cases alike with
      | atom same =>
          cases linear with
          | atom also =>
              subst same
              exact .cons (denotes.agrees also) .nil
  | .list opening closing items, lexemes, linear, otherLexemes, alike => by
      cases alike with
      | list each =>
          cases linear with
          | list otherOpening otherClosing otherItems =>
              simp only [List.forall_mem_cons, List.forall_mem_append] at lexemes otherLexemes
              obtain ⟨opens, inside, closes, _⟩ := lexemes
              obtain ⟨otherOpens, otherInside, otherCloses, _⟩ := otherLexemes
              have openings := Token.Agrees.of_parenthesis opens otherOpens
                (opening.trans otherOpening.symm) (Or.inl opening)
              have closings := Token.Agrees.of_parenthesis closes otherCloses
                (closing.trans otherClosing.symm) (Or.inr closing)
              have between := items.agrees inside otherItems otherInside each
              exact .cons openings (List.rel_append between (.cons closings .nil))

theorem LinearAll.agrees {items others : List Form} {spent otherSpent : List Token} :
    LinearAll items spent → (∀ token ∈ spent, Lexeme token.kind token.text) →
      LinearAll others otherSpent → (∀ token ∈ otherSpent, Lexeme token.kind token.text) →
      List.Forall₂ (Form.Alike (· = ·)) items others → List.Forall₂ Token.Agrees spent otherSpent
  | .nil, _, linear, _, each => by
      cases each
      cases linear
      exact .nil
  | .cons first later, lexemes, linear, otherLexemes, each => by
      cases each with
      | cons head tail =>
          cases linear with
          | cons otherFirst otherLater =>
              rw [List.forall_mem_append] at lexemes otherLexemes
              exact List.rel_append (first.agrees lexemes.1 otherFirst otherLexemes.1 head)
                (later.agrees lexemes.2 otherLater otherLexemes.2 tail)

end

mutual

theorem Linear.of_agrees {form : Form} {spent others : List Token} :
    Linear form spent → List.Forall₂ Token.Agrees others spent →
      ∃ other, Linear other others ∧ Form.Alike (· = ·) other form
  | .atom denotes, each => by
      cases each with
      | cons agrees rest =>
          cases rest
          exact ⟨.atom _ _, .atom (denotes.of_agrees agrees), .atom rfl⟩
  | @Linear.list _ _ _ tokens opening closing items, each => by
      cases each with
      | @cons otherOpening _ behind _ agrees rest =>
          have between := List.forall₂_take_append _ _ _ rest
          have last := List.forall₂_drop_append _ _ _ rest
          obtain ⟨otherItems, linear, alike⟩ := items.of_agrees between
          obtain ⟨otherClose, _, closings, ended, same⟩ := List.forall₂_cons_right_iff.mp last
          cases ended
          have whole := List.take_append_drop tokens.length behind
          rw [same] at whole
          rw [← whole]
          exact ⟨.list otherItems otherOpening,
            .list (agrees.kind_eq.trans opening) (closings.kind_eq.trans closing) linear, .list alike⟩

theorem LinearAll.of_agrees {items : List Form} {spent others : List Token} :
    LinearAll items spent → List.Forall₂ Token.Agrees others spent →
      ∃ otherItems, LinearAll otherItems others ∧ List.Forall₂ (Form.Alike (· = ·)) otherItems items
  | .nil, each => by
      cases each
      exact ⟨[], .nil, .nil⟩
  | .cons first later, each => by
      obtain ⟨item, linear, alike⟩ := first.of_agrees (List.forall₂_take_append _ _ _ each)
      obtain ⟨items, linearAll, alikeAll⟩ := later.of_agrees (List.forall₂_drop_append _ _ _ each)
      rw [← List.take_append_drop _ others]
      exact ⟨item :: items, .cons linear linearAll, .cons alike alikeAll⟩

end

namespace Form

/-- The tokens of the first form of a text, those that are used up where it is read. -/
def firstTokens (depthLimit : Nat) (text : Text) : List Token :=
  match Reader.ofText depthLimit text with
  | .ok reader => reader.slice
  | .error _ => []

theorem firstTokens_linear {depthLimit : Nat} {text : Text} {form : Form}
    (found : read depthLimit text = .ok (some form)) :
    Linear form (firstTokens depthLimit text) ∧
      ∀ token ∈ firstTokens depthLimit text, Lexeme token.kind token.text := by
  obtain ⟨spent, left, stop, scan, linear, shallow⟩ := read_eq_some_iff.mp found
  let reader : Reader := ⟨spent ++ left, stop, 0, depthLimit⟩
  have ofText : Reader.ofText depthLimit text = .ok reader := by
    rw [Reader.ofText, Reader.ofScan, scan]
  have next : reader.next = (.ok form, { reader with cursor := 0 + spent.length }) :=
    Reader.next_of_linear linear (List.prefix_append spent left) shallow
  have taken : firstTokens depthLimit text = spent := by
    rw [firstTokens, ofText]
    simp [Reader.slice, Reader.tokens, next, reader]
  rw [taken]
  refine ⟨linear, ?_⟩
  intro token member
  exact Scan.isLexeme_of_mem text token (by simp [scan, member])

/-- Two forms that were read, with any depth limits, are equal exactly if they are printed as one text, and
exactly if their tokens are, one by one, of one kind and one text, or numbers that denote one double. -/
theorem same_iff_print_and_tokens {depthLimit otherLimit : Nat} {text other : Text} {v w : Form}
    (found : read depthLimit text = .ok (some v)) (also : read otherLimit other = .ok (some w)) :
    (v.same w = true ↔ v.print = w.print) ∧
      (v.print = w.print ↔
        List.Forall₂ Token.Agrees (firstTokens depthLimit text) (firstTokens otherLimit other)) := by
  have readable := (readable_of_read found).1
  have otherReadable := (readable_of_read also).1
  obtain ⟨linear, lexemes⟩ := firstTokens_linear found
  obtain ⟨otherLinear, otherLexemes⟩ := firstTokens_linear also
  rw [readable.same_iff otherReadable, readable.print_eq_iff otherReadable]
  refine ⟨Iff.rfl, linear.agrees lexemes otherLinear otherLexemes, ?_⟩
  intro each
  -- The tokens of the first form spell the second one too, but no tokens spell two forms.
  obtain ⟨copy, copyLinear, alike⟩ := otherLinear.of_agrees each
  obtain ⟨rfl, _⟩ := copyLinear.unique linear List.prefix_rfl List.prefix_rfl
  exact alike

theorem read_of_map_print {depthLimit : Nat} {text response : Text}
    (prints : (read depthLimit text).map (Option.map print) = .ok (some response)) :
    ∃ form, read depthLimit text = .ok (some form) ∧ form.print = response := by
  cases found : read depthLimit text with
  | error fault =>
      rw [found] at prints
      cases prints
  | ok first =>
      rw [found] at prints
      cases first with
      | none => cases prints
      | some form => exact ⟨form, rfl, Option.some.inj (Except.ok.inj prints)⟩

theorem print_of_two_spellings :
    ∃ v w, read 1 "(1.50 a)".toList = .ok (some v) ∧ read 2 "(1.5;b\na) c".toList = .ok (some w) ∧
      v.same w = true ∧ List.Forall₂ Token.Agrees (firstTokens 1 "(1.50 a)".toList)
        (firstTokens 2 "(1.5;b\na) c".toList) := by
  have shows : (read 1 "(1.50 a)".toList).map (Option.map print) = .ok (some "(1.5 a)".toList) := by
    decide +kernel
  have showsAlike : (read 2 "(1.5;b\na) c".toList).map (Option.map print) =
      .ok (some "(1.5 a)".toList) := by
    decide +kernel
  obtain ⟨v, found, prints⟩ := read_of_map_print shows
  obtain ⟨w, also, printsAlike⟩ := read_of_map_print showsAlike
  obtain ⟨equal, tokens⟩ := same_iff_print_and_tokens found also
  have same := prints.trans printsAlike.symm
  exact ⟨v, w, found, also, equal.mpr same, tokens.mp same⟩

end Form

end Sexpr
