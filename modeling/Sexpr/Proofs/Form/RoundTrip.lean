import Sexpr.Proofs.Form.Equality
import Sexpr.Proofs.Form.Nesting
import Sexpr.Proofs.Token.Layout
import Sexpr.Proofs.Token.Spaced
import Sexpr.Response
/-!
Printing and reading back. The text of a readable form is scanned as the tokens of a copy, which differs
from the form in its tokens only. Main statements: what was read reads back from its printed text, so
that a response is its own response; and the printed text of a form reads back as this form exactly when
the form is readable and nests no deeper than allowed. So readable forms with one text are equal.
-/
namespace Sexpr

open Scanner (Yields)

namespace Form

/-- The text of a form, where no number or symbol goes on behind it, is scanned as the tokens of a
copy. -/
def Rescans (form : Form) : Prop :=
  ∀ beyond, Boundary beyond → ∀ position, ∃ copy tokens, Linear copy tokens ∧
    Alike (· = ·) copy form ∧
    Yields ⟨form.print ++ beyond, position⟩ tokens ⟨beyond, position.through form.print⟩

def CopiedBy (form : Form) (tokens : List Token) : Prop :=
  ∃ copy, Linear copy tokens ∧ Alike (· = ·) copy form

theorem CopiedBy.ne_nil {form : Form} {tokens : List Token} (copied : form.CopiedBy tokens) :
    tokens ≠ [] := by
  obtain ⟨copy, linear, _⟩ := copied
  exact linear.ne_nil

theorem linearAll_of_copiedBy {items : List Form} {parts : List (List Token)}
    (copied : List.Forall₂ CopiedBy items parts) :
    ∃ copies, LinearAll copies parts.flatten ∧ List.Forall₂ (Alike (· = ·)) copies items := by
  induction copied with
  | nil => exact ⟨[], .nil, .nil⟩
  | cons head _ ih =>
      obtain ⟨copy, linear, alike⟩ := head
      obtain ⟨copies, linearAll, alikeAll⟩ := ih
      exact ⟨copy :: copies, .cons linear linearAll, .cons alike alikeAll⟩

theorem Rescans.scansAs {form : Form} (rescans : form.Rescans) :
    Scanner.ScansAs form.print form.CopiedBy := by
  intro beyond boundary position
  obtain ⟨copy, tokens, linear, alike, yields⟩ := rescans beyond boundary position
  exact ⟨tokens, ⟨copy, linear, alike⟩, yields⟩

theorem spaced_printAll (items : List Form) : Spaced print items (printAll items) := by
  induction items with
  | nil => exact .none
  | cons item items ih =>
      cases items with
      | nil => exact .one
      | cons next items =>
          have space : Gap [' '] := .white rfl .empty
          exact .more space (by simp) ih

theorem printAll_rescans {items : List Form} (each : ∀ item ∈ items, item.Rescans) :
    ∀ beyond, Boundary beyond → ∀ position, ∃ copies tokens, LinearAll copies tokens ∧
      List.Forall₂ (Alike (· = ·)) copies items ∧
      Yields ⟨printAll items ++ beyond, position⟩ tokens
        ⟨beyond, position.through (printAll items)⟩ := by
  intro beyond boundary position
  have scansAs := (spaced_printAll items).scansAs (fun item member => (each item member).scansAs)
    fun _ _ _ => CopiedBy.ne_nil
  obtain ⟨tokens, ⟨parts, rfl, copied⟩, yields⟩ := scansAs beyond boundary position
  obtain ⟨copies, linear, alike⟩ := linearAll_of_copiedBy copied
  exact ⟨copies, parts.flatten, linear, alike, yields⟩

theorem Readable.rescans {form : Form} (readable : form.Readable) : form.Rescans := by
  induction form using Form.induct with
  | atom value token =>
      cases readable with
      | atom holds =>
          intro beyond boundary position
          obtain ⟨kind, isLexeme, denotes⟩ := holds.spelled
          exact ⟨.atom value _, _, .atom (denotes position), .atom rfl,
            Yields.lexeme isLexeme boundary position⟩
  | list items token ih =>
      cases readable with
      | list each =>
          intro beyond _ position
          -- Parentheses end by themselves, so that any text may follow them.
          obtain ⟨copies, tokens, linear, alike, yields⟩ :=
            printAll_rescans (fun item member => ih item member (each item member))
              (')' :: beyond) (.of_isSpecial SpecialChar.rightParen.isSpecial _) (position.after '(')
          refine ⟨.list copies ⟨.leftParen, ['('], position⟩,
            ⟨.leftParen, ['('], position⟩ ::
              (tokens ++ [⟨.rightParen, [')'], (position.after '(').through (printAll items)⟩]),
            .list rfl rfl linear, .list alike, ?_⟩
          have all := (Yields.special .leftParen _ position).append
            (yields.append (Yields.special .rightParen beyond _))
          simpa [print, Position.through_append, Position.through_cons,
            Position.through_nil] using all

theorem Readable.scan_print {form : Form} (readable : form.Readable) :
    ∃ copy tokens stop, Scan.ofText form.print = ⟨tokens ++ [], .ok stop⟩ ∧
      Linear copy tokens ∧ Alike (· = ·) copy form := by
  obtain ⟨copy, tokens, linear, alike, yields⟩ := readable.rescans [] .nil .start
  have last := Scanner.next_finished (.closed .empty) (Position.start.through form.print)
  have scan := Scan.ofScanner_of_yields yields
  rw [Scan.ofScanner_finished last rfl] at scan
  exact ⟨copy, tokens, _, by simpa [Scan.ofText, Scanner.ofText] using scan, linear, alike⟩

theorem Readable.read_print {depthLimit : Nat} {form : Form} (readable : form.Readable)
    (shallow : form.depth ≤ depthLimit) :
    ∃ copy, read depthLimit form.print = .ok (some copy) ∧ Alike (· = ·) copy form := by
  obtain ⟨copy, tokens, stop, scan, linear, alike⟩ := readable.scan_print
  rw [← alike.depth_eq] at shallow
  exact ⟨copy, read_eq_some_iff.mpr ⟨tokens, [], stop, scan, linear, shallow⟩, alike⟩

theorem Readable.read_print_tooDeep {depthLimit : Nat} {form : Form} (readable : form.Readable)
    (deep : depthLimit < form.depth) :
    ∃ position, read depthLimit form.print = .error ⟨.nestingTooDeep, position⟩ := by
  obtain ⟨copy, tokens, stop, scan, linear, alike⟩ := readable.scan_print
  rw [← alike.depth_eq] at deep
  obtain ⟨token, _, refused⟩ := read_tooDeep scan linear deep
  exact ⟨token.position, refused⟩

theorem Readable.same_of_alike {copy form : Form} (readable : form.Readable)
    (alike : Alike (· = ·) copy form) : copy.same form = true := by
  rw [alike.same_eq]
  exact readable.same_self

theorem print_eq_of_alike {copy form : Form} (alike : Alike (· = ·) copy form) :
    copy.print = form.print :=
  alike.print_eq fun _ _ equal => congrArg Atom.text equal

theorem read_again {depthLimit : Nat} {text : Text} {form : Form}
    (found : read depthLimit text = .ok (some form)) :
    ∃ again, read depthLimit form.print = .ok (some again) ∧ Alike (· = ·) again form ∧
      again.same form = true ∧ again.print = form.print := by
  obtain ⟨readable, shallow⟩ := readable_of_read found
  obtain ⟨copy, reads, alike⟩ := readable.read_print shallow
  exact ⟨copy, reads, alike, readable.same_of_alike alike, print_eq_of_alike alike⟩

theorem respond_eq_ok {text response : Text} (responds : respond text = .ok response) :
    (read defaultDepthLimit text = .ok none ∧ response = []) ∨
      ∃ form, read defaultDepthLimit text = .ok (some form) ∧ response = form.print := by
  cases found : read defaultDepthLimit text with
  | error fault => simp [respond, found, Except.map] at responds
  | ok first =>
      have shows : shown print first = response := by
        simpa [respond, found, Except.map] using responds
      cases first with
      | none => exact Or.inl ⟨rfl, shows.symm⟩
      | some form => exact Or.inr ⟨form, rfl, shows.symm⟩

theorem respond_again {text response : Text} (responds : respond text = .ok response) :
    respond response = .ok response := by
  rcases respond_eq_ok responds with ⟨_, rfl⟩ | ⟨form, found, rfl⟩
  · have nothing : read defaultDepthLimit [] = .ok none :=
      read_eq_none_iff.mpr (Scan.finds_nothing_iff.mpr (.closed .empty))
    simp [respond, nothing, shown, Except.map]
  · obtain ⟨copy, reads, _, _, prints⟩ := read_again found
    simp [respond, reads, prints, shown, evaluate, Except.map]

/-- What was read reads back from its text with the same depth limit, number for number and text for
text. So the response to a response is this response. -/
theorem read_and_respond_again :
    (∀ depthLimit text form, read depthLimit text = .ok (some form) →
      ∃ again, read depthLimit form.print = .ok (some again) ∧ Alike (· = ·) again form ∧
        again.same form = true ∧ again.print = form.print) ∧
      ∀ text response, respond text = .ok response → respond response = .ok response := by
  constructor
  · intro depthLimit text form found
    exact read_again found
  · intro text response responds
    exact respond_again responds

theorem read_again_of_list :
    ∃ form, read 1 "(-0 1.50)".toList = .ok (some form) ∧ form.print = "(-0 1.5)".toList ∧
      ∃ again, read 1 form.print = .ok (some again) ∧ again.same form = true := by
  have shows : (read 1 "(-0 1.50)".toList).map (Option.map print) =
      .ok (some "(-0 1.5)".toList) := by decide +kernel
  cases found : read 1 "(-0 1.50)".toList with
  | error fault =>
      rw [found] at shows
      cases shows
  | ok first =>
      rw [found] at shows
      cases first with
      | none => cases shows
      | some form =>
          have prints : form.print = "(-0 1.5)".toList := Option.some.inj (Except.ok.inj shows)
          obtain ⟨again, reads, _, same, _⟩ := read_and_respond_again.1 _ _ _ found
          exact ⟨form, rfl, prints, again, reads, same⟩

theorem eq_of_readable_same {a b : Atom} (readable : a.Readable) (same : a.same b = true)
    (other : b ≠ .number .negativeZero) : a = b :=
  (Atom.same_iff.mp same).eq readable.ne_negativeZero other

theorem Readable.same_iff {first second : Form} (readable : first.Readable) (other : second.Readable) :
    first.same second = true ↔ Alike (· = ·) first second := by
  refine ⟨?_, other.same_of_alike⟩
  intro same
  apply (readable.along other (same_iff_alike.mp same)).mono
  rintro a b ⟨readable, readableOther, same⟩
  exact eq_of_readable_same readable same readableOther.ne_negativeZero

theorem Readable.print_eq_iff {first second : Form} (readable : first.Readable) (other : second.Readable) :
    first.print = second.print ↔ Alike (· = ·) first second := by
  refine ⟨?_, print_eq_of_alike⟩
  intro prints
  obtain ⟨copy, reads, alike⟩ := readable.read_print (Nat.le_max_left first.depth second.depth)
  obtain ⟨again, readsAgain, alikeOther⟩ := other.read_print (Nat.le_max_right first.depth second.depth)
  rw [prints, readsAgain] at reads
  cases reads
  have turned : Alike (· = ·) first copy := alike.symm fun _ _ => Eq.symm
  exact turned.trans (fun _ _ _ same next => same.trans next) alikeOther

/-- Negative zero equals a readable atom without being one, but a symbol has its text. So an atom that
equals a readable one has the text of a readable one, which only equals it if it is the same atom. -/
theorem exists_readable_text {a b : Atom} (readable : a.Readable) (same : a.same b = true) :
    ∃ c, c.Readable ∧ c.text = b.text ∧ (c.same b = true → c = b) := by
  by_cases zero : b = .number .negativeZero
  · subst zero
    refine ⟨.symbol ['-', '0'], .symbol ⟨List.all_eq_true.mp (by decide), '-', rfl, rfl⟩ ?_, ?_, ?_⟩
    · simp [Literal]
    · decide
    · simp [Atom.same]
  · have equal := eq_of_readable_same readable same zero
    subst equal
    exact ⟨a, readable, rfl, fun _ => rfl⟩

theorem readable_of_read_print {depthLimit : Nat} {form again : Form}
    (found : read depthLimit form.print = .ok (some again)) (same : again.same form = true) :
    form.Readable ∧ form.depth ≤ depthLimit := by
  obtain ⟨readable, shallow⟩ := readable_of_read found
  have alike := same_iff_alike.mp same
  rw [alike.depth_eq] at shallow
  refine ⟨?_, shallow⟩
  -- The form and its readable stand-in have one text, so they read back as one form.
  have replaceable := readable.transfer (fun _ _ holds same => exists_readable_text holds same) alike
  obtain ⟨other, otherReadable, texts⟩ := replaceable.choose
  have otherReadable : other.Readable := otherReadable
  have prints := texts.print_eq fun _ _ related => related.1
  obtain ⟨copy, reads, copied⟩ := otherReadable.read_print (texts.depth_eq ▸ shallow)
  rw [prints, found] at reads
  cases reads
  have equal : Alike (· = ·) again form := by
    have chained := copied.trans (T := fun a b => a.same b = true → a = b) ?_ texts
    · exact (chained.both alike).mono fun _ _ related => related.1 related.2
    · rintro a b c rfl related
      exact related.2
  apply readable.transfer _ equal
  rintro a b holds rfl
  exact holds

/-- Exactly the readable forms that do not nest too deep read back from their text as themselves. A
readable form that nests too deep is refused for that. -/
theorem reads_back_iff (depthLimit : Nat) (form : Form) :
    ((∃ again, read depthLimit form.print = .ok (some again) ∧ again.same form = true) ↔
      form.Readable ∧ form.depth ≤ depthLimit) ∧
      (form.Readable → depthLimit < form.depth →
        ∃ position, read depthLimit form.print = .error ⟨.nestingTooDeep, position⟩) := by
  refine ⟨?_, fun readable deep => readable.read_print_tooDeep deep⟩
  constructor
  · rintro ⟨again, found, same⟩
    exact readable_of_read_print found same
  · rintro ⟨readable, shallow⟩
    obtain ⟨copy, reads, alike⟩ := readable.read_print shallow
    exact ⟨copy, reads, readable.same_of_alike alike⟩

theorem list_in_list_refused :
    ∃ position, read 1 (list [list [] (.eof .start)] (.eof .start)).print =
      .error ⟨.nestingTooDeep, position⟩ := by
  apply (reads_back_iff 1 _).2
  · apply Every.list
    intro item member
    rw [List.mem_singleton.mp member]
    exact .list (by simp)
  · decide

end Form

end Sexpr
