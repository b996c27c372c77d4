import Sexpr.Proofs.Form.RoundTrip
import Sexpr.Proofs.Token.Layout
import Sexpr.Proofs.Text.Lines
/-!
What the text of a form is made of. Main statements: a form that was read is printed with characters of the
text that it was read from, symbol characters, parentheses and spaces, and its last character is no
whitespace; so the response to a text without line feeds is one line.
-/
namespace Sexpr

theorem mem_text_of_denotes {token : Token} {value : Atom} (denotes : Denotes token value) :
    ∀ c ∈ value.text, c ∈ token.text ∨ isSymbolChar c = true := by
  intro c member
  cases denotes with
  | number _ found =>
      obtain ⟨finite, unsigned⟩ := Double.isFinite_of_ofNumeral? found
      exact Or.inr ((Double.text_reads_back finite unsigned).1.isSymbolChar c member)
  | string _ => exact Or.inl member
  | true _ same => exact Or.inl (same ▸ member)
  | false _ same => exact Or.inl (same ▸ member)
  | nil _ same => exact Or.inl (same ▸ member)
  | symbol _ _ => exact Or.inl member

namespace Form

variable {depthLimit : Nat} {text response : Text} {form : Form} {c : Char}

theorem mem_printAll {items : List Form} (member : c ∈ printAll items) :
    c = ' ' ∨ ∃ item ∈ items, c ∈ item.print := by
  induction items with
  | nil => cases member
  | cons item items ih =>
      cases items with
      | nil => exact Or.inr ⟨item, by simp, member⟩
      | cons next items =>
          rcases List.mem_append.mp member with first | behind
          · exact Or.inr ⟨item, by simp, first⟩
          · rcases List.mem_cons.mp behind with space | later
            · exact Or.inl space
            · rcases ih later with space | ⟨other, inside, here⟩
              · exact Or.inl space
              · exact Or.inr ⟨other, List.mem_cons_of_mem _ inside, here⟩

def layoutCharacters : List Char := ['(', ')', ' ']

theorem mem_print {p : Char → Prop} (every : form.Every fun value => ∀ c ∈ value.text, p c)
    (member : c ∈ form.print) : p c ∨ c ∈ layoutCharacters := by
  induction form using Form.induct with
  | atom value token =>
      cases every with
      | atom holds => exact Or.inl (holds c member)
  | list items token ih =>
      cases every with
      | list each =>
          rcases List.mem_cons.mp member with opening | behind
          · exact Or.inr (by simp [opening, layoutCharacters])
          · rcases List.mem_append.mp behind with inside | closing
            · rcases mem_printAll inside with space | ⟨item, there, here⟩
              · exact Or.inr (by simp [space, layoutCharacters])
              · exact ih item there (each item there) here
            · exact Or.inr (by simp [List.mem_singleton.mp closing, layoutCharacters])

theorem mem_print_of_read (found : read depthLimit text = .ok (some form)) (member : c ∈ form.print) :
    (c ∈ text ∨ isSymbolChar c = true) ∨ c ∈ layoutCharacters := by
  have every : form.Every fun value => ∀ c ∈ value.text, c ∈ text ∨ isSymbolChar c = true := by
    refine (every_of_read found ?_).1
    intro token lexeme value denotes c shown
    have within := Scan.lexemes_text_subset text token lexeme
    exact (mem_text_of_denotes denotes c shown).imp_left fun here => within here
  exact mem_print every member

theorem feed_not_mem_print (found : read depthLimit text = .ok (some form)) (inside : '\n' ∉ text) :
    '\n' ∉ form.print := by
  intro member
  rcases mem_print_of_read found member with (here | symbol) | layout
  · exact inside here
  · rw [not_isSymbolChar_of_opensGap (by decide)] at symbol
    contradiction
  · exact absurd layout (by decide)

theorem Readable.getLast?_print (readable : form.Readable) :
    ∀ c ∈ form.print.getLast?, opensGap c = false := by
  cases readable with
  | @atom value token holds =>
      obtain ⟨kind, isLexeme, _⟩ := holds.spelled
      exact isLexeme.getLast?_not_opensGap
  | @list items token each =>
      intro c last
      have closing : (list items token).print.getLast? = some ')' := by
        rw [print, ← List.cons_append, List.getLast?_concat]
      rw [closing] at last
      cases last
      rfl

theorem fitsLine_of_respond (responds : respond text = .ok response) (inside : '\n' ∉ text) :
    FitsLine response := by
  rcases respond_eq_ok responds with ⟨_, rfl⟩ | ⟨form, found, rfl⟩
  · exact ⟨nofun, nofun⟩
  · refine ⟨feed_not_mem_print found inside, ?_⟩
    intro last
    have visible := (readable_of_read found).1.getLast?_print _ last
    exact absurd visible (by decide)

end Form

end Sexpr
