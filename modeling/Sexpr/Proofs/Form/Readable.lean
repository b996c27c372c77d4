import Sexpr.Proofs.Double.Decimal
import Sexpr.Proofs.Form.Linear
import Sexpr.Proofs.Token.Run
/-!
Readable atoms, those that a lexeme stands for. Main statements: every atom of a form that was read is
readable, and the text of a readable atom is a lexeme that stands for this very atom.
-/
namespace Sexpr

namespace Atom

/-- A string is one lexeme, a symbol is one that stands for no value, a number has no sign and is
finite. -/
inductive Readable : Atom → Prop
  | nil : Readable .nil
  | bool {value : Bool} : Readable (.bool value)
  | number {value : Double} : value.isFinite = true → value.negative = false →
      Readable (.number value)
  | string {body : Text} : StringBody body → Readable (.string ('"' :: body))
  | symbol {text : Text} : SymbolSpelling text → ¬ Literal text → Readable (.symbol text)

theorem Readable.same_self {value : Atom} (readable : value.Readable) : value.same value = true := by
  cases readable with
  | nil => rfl
  | bool => simp [same]
  | number finite _ =>
      have below := of_decide_eq_true finite
      simp [same, Double.same, Double.isNaN, Nat.le_of_lt below]
  | string _ => simp [same]
  | symbol _ _ => simp [same]

theorem literal_spelling {text : Text} (literal : Literal text) : SymbolSpelling text := by
  rcases literal with rfl | rfl | rfl
  · exact ⟨List.all_eq_true.mp (by decide), 't', rfl, rfl⟩
  · exact ⟨List.all_eq_true.mp (by decide), 'f', rfl, rfl⟩
  · exact ⟨List.all_eq_true.mp (by decide), 'n', rfl, rfl⟩

theorem Readable.spelled {value : Atom} (readable : value.Readable) :
    ∃ kind, Lexeme kind value.text ∧ ∀ position, Denotes ⟨kind, value.text, position⟩ value := by
  cases readable with
  | nil => exact ⟨.symbol, .symbol (literal_spelling (by simp [Literal, text])), fun _ => .nil rfl rfl⟩
  | @bool value =>
      refine ⟨.symbol, .symbol (literal_spelling (by cases value <;> simp [Literal, text])), ?_⟩
      intro position
      cases value with
      | true => exact .true rfl rfl
      | false => exact .false rfl rfl
  | number finite unsigned =>
      obtain ⟨numeral, found⟩ := Double.text_reads_back finite unsigned
      exact ⟨.number, .number numeral, fun _ => .number rfl found⟩
  | string body => exact ⟨.string, .string body, fun _ => .string rfl⟩
  | symbol spelling other => exact ⟨.symbol, .symbol spelling, fun _ => .symbol rfl other⟩

end Atom

theorem Denotes.readable {token : Token} {value : Atom} (denotes : Denotes token value)
    (isLexeme : Lexeme token.kind token.text) : value.Readable := by
  cases denotes with
  | number _ found =>
      obtain ⟨finite, unsigned⟩ := Double.isFinite_of_ofNumeral? found
      exact .number finite unsigned
  | string kind =>
      rw [kind] at isLexeme
      obtain ⟨body, same, string⟩ := isLexeme.of_string
      rw [same]
      exact .string string
  | true _ _ => exact .bool
  | false _ _ => exact .bool
  | nil _ _ => exact .nil
  | symbol kind other =>
      rw [kind] at isLexeme
      exact .symbol isLexeme.of_symbol other

namespace Form

def Readable (form : Form) : Prop :=
  form.Every Atom.Readable

theorem every_of_read {P : Atom → Prop} {depthLimit : Nat} {text : Text} {form : Form}
    (found : read depthLimit text = .ok (some form))
    (gives : ∀ token ∈ (Scan.ofText text).lexemes, ∀ value, Denotes token value → P value) :
    form.Every P ∧ form.depth ≤ depthLimit := by
  obtain ⟨spent, left, stop, scan, linear, shallow⟩ := read_eq_some_iff.mp found
  refine ⟨linear.every ?_, shallow⟩
  intro token member
  exact gives token (by simp [scan, member])

theorem readable_of_read {depthLimit : Nat} {text : Text} {form : Form}
    (found : read depthLimit text = .ok (some form)) : form.Readable ∧ form.depth ≤ depthLimit := by
  apply every_of_read found
  intro token member value denotes
  exact denotes.readable (Scan.isLexeme_of_mem text token member)

end Form

end Sexpr
