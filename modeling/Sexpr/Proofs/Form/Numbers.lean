import Mathlib.Data.List.Nodup
import Sexpr.Proofs.Double.Rational
import Sexpr.Proofs.Form.Continuation
import Sexpr.Proofs.Token.Layout
/-!
Numbers in texts. Main statements: a number token is read as the double that is nearest to its value, or it
is out of range, and no other fault is ever found at it; and the text of a double is one token, which is a
number and reads back bit for bit if the double is finite and has no sign, and is else a symbol.
-/
namespace Sexpr

open Double (Decimal IsNearest overflowLimit)

namespace Scan

theorem ofText_lexeme {kind : Kind} {text : Text} (isLexeme : Lexeme kind text) :
    ofText text = ⟨[⟨kind, text, .start⟩], .ok (.eof (.through .start text))⟩ := by
  have yields := Scanner.Yields.lexeme isLexeme .nil .start
  have last := Scanner.next_finished (.closed .empty) (Position.start.through text)
  have scan := ofScanner_of_yields yields
  rw [ofScanner_finished last rfl, List.append_nil] at scan
  exact scan

theorem item_of_position {text : Text} {first second : Except (Located ScanFault) Token}
    (member : first ∈ (ofText text).items) (other : second ∈ (ofText text).items)
    (same : itemPosition first = itemPosition second) : first = second := by
  obtain ⟨covered, tail, _, laidOut, ends⟩ := covers text
  have distinct : ((ofText text).items.map itemPosition).Nodup :=
    (positions_pairwise laidOut ends).imp Position.Before.ne
  exact List.inj_on_of_nodup_map distinct member other same

end Scan

/-- What comes of reading a number token with this value. -/
inductive NumberOutcome (token : Token) (q : ℚ) : Except (Located ReadFault) Form → Prop
  | inRange {x : Double} : q < overflowLimit → IsNearest q x →
      NumberOutcome token q (.ok (.atom (.number x) token))
  | outOfRange : overflowLimit ≤ q →
      NumberOutcome token q (.error ⟨.outOfRange token, token.position⟩)

theorem NumberOutcome.unique {token : Token} {q : ℚ} {first second : Except (Located ReadFault) Form}
    (outcome : NumberOutcome token q first) (other : NumberOutcome token q second) : first = second := by
  cases outcome with
  | inRange small near =>
      cases other with
      | inRange _ also => rw [near.unique also]
      | outOfRange large => exact absurd small large.not_gt
  | outOfRange large =>
      cases other with
      | inRange small _ => exact absurd small large.not_gt
      | outOfRange _ => rfl

theorem readsForm_number {token : Token} {q : ℚ} (number : token.kind = .number)
    (decimal : Decimal token.text q) : ∃ outcome, NumberOutcome token q outcome ∧
      ∀ stop depth rest, ReadsForm stop depth (token :: rest) outcome rest := by
  cases found : Double.ofNumeral? token.text with
  | some x =>
      obtain ⟨small, near⟩ := decimal.ofNumeral?_eq_some_iff.mp found
      exact ⟨_, .inRange small near, fun _ _ _ => .atom (.number number found)⟩
  | none =>
      have large := decimal.ofNumeral?_eq_none_iff.mp found
      have failed : Atom.ofToken token = .error (.outOfRange token) := by
        simp [Atom.ofToken, number, found]
      exact ⟨_, .outOfRange large, fun _ _ _ => .atomFault (by simp [number]) failed⟩

theorem FaultOf.of_number {token : Token} {fault : Located ReadFault} (faultOf : FaultOf token fault)
    (number : token.kind = .number) :
    fault = ⟨.outOfRange token, token.position⟩ ∧ Double.ofNumeral? token.text = none := by
  cases faultOf with
  | tooDeep opening => simp [number] at opening
  | atom _ failed =>
      cases found : Double.ofNumeral? token.text with
      | some x => simp [Atom.ofToken, number, found] at failed
      | none =>
          simp only [Atom.ofToken, number, found] at failed
          cases failed
          exact ⟨rfl, rfl⟩

mutual

theorem Linear.outline_denotes {form : Form} {spent : List Token} {value : Atom} {token : Token} :
    Linear form spent → ∀ depth inner, (inner, .atom value token) ∈ form.outline depth →
      token ∈ spent ∧ Denotes token value
  | .atom denotes, depth, inner, member => by
      simp only [Form.outline, List.mem_singleton, Prod.mk.injEq, Form.atom.injEq] at member
      obtain ⟨_, rfl, rfl⟩ := member
      exact ⟨List.mem_cons_self, denotes⟩
  | .list _ _ items, depth, inner, member => by
      simp only [Form.outline, List.mem_cons, Prod.mk.injEq, reduceCtorEq, and_false, false_or] at member
      obtain ⟨inside, denotes⟩ := items.outline_denotes _ _ member
      exact ⟨by simp [inside], denotes⟩

theorem LinearAll.outline_denotes {items : List Form} {spent : List Token} {value : Atom}
    {token : Token} :
    LinearAll items spent → ∀ depth inner, (inner, .atom value token) ∈ Form.outlineAll depth items →
      token ∈ spent ∧ Denotes token value
  | .nil, _, _, member => by simp [Form.outlineAll] at member
  | .cons first later, depth, inner, member => by
      rw [Form.outlineAll, List.mem_append] at member
      rcases member with here | behind
      · obtain ⟨inside, denotes⟩ := first.outline_denotes _ _ here
        exact ⟨List.mem_append_left _ inside, denotes⟩
      · obtain ⟨inside, denotes⟩ := later.outline_denotes _ _ behind
        exact ⟨List.mem_append_right _ inside, denotes⟩

end

namespace Form

theorem decimal_of_mem {text : Text} {token : Token} (member : token ∈ (Scan.ofText text).lexemes)
    (number : token.kind = .number) : ∃ q, Decimal token.text q := by
  have isLexeme := Scan.isLexeme_of_mem text token member
  rw [number] at isLexeme
  exact Double.exists_decimal isLexeme.of_number

theorem read_lexeme {depthLimit : Nat} {kind : Kind} {text : Text}
    {outcome : Except (Located ReadFault) Form} (isLexeme : Lexeme kind text)
    (reads : ∀ stop, ReadsForm stop depthLimit [⟨kind, text, .start⟩] outcome []) :
    read depthLimit text = outcome.map some :=
  read_of_scan (Scan.ofText_lexeme isLexeme) (by simp) (reads _)

theorem faultOf_of_read {depthLimit : Nat} {text : Text} {fault : Located ReadFault} {token : Token}
    (failed : read depthLimit text = .error fault) (member : token ∈ (Scan.ofText text).lexemes)
    (blamed : fault.position = token.position ∨ fault.fault.token? = some token) :
    FaultOf token fault := by
  have item : .ok token ∈ (Scan.ofText text).items := by simp [Scan.items, member]
  rcases read_eq_error failed with
    ⟨scanFault, ending, rfl⟩ | ⟨lexemes, stop, left, scan, present, reads⟩
  · have last : .error scanFault ∈ (Scan.ofText text).items := by simp [Scan.items, ending]
    rcases blamed with same | tells
    · cases Scan.item_of_position last item same
    · cases tells
  · rcases (reads.fails _ rfl).faultOf present with ⟨other, found, faultOf⟩ | rfl
    · rcases blamed with same | tells
      · have also : .ok other ∈ (Scan.ofText text).items := by simp [Scan.items, scan, found]
        cases Scan.item_of_position also item (faultOf.position.symm.trans same)
        exact faultOf
      · rw [faultOf.told tells]
        exact faultOf
    · have last : .ok stop ∈ (Scan.ofText text).items := by simp [Scan.items, scan]
      rcases blamed with same | tells
      · cases Scan.item_of_position last item same
        have isLexeme := Scan.isLexeme_of_mem text token member
        exact absurd (congrArg Token.kind (Scan.stop_eq scan)) isLexeme.kind_ne_eof
      · cases tells

/-- A numeral is read as the double that is nearest to its value, ties to the even significand, and never
negative; its token is, wherever it stands. From the middle between the largest double and the one that would
follow it, the number is out of range, and this is said of its token at its position. No other fault is found
at a number token or tells of one. -/
theorem numbers_read_as_nearest (depthLimit : Nat) :
    (∀ text q, Decimal text q → ∃ outcome, NumberOutcome ⟨.number, text, .start⟩ q outcome ∧
      read depthLimit text = outcome.map some) ∧
    (∀ stop depth token rest q, token.kind = .number → Decimal token.text q →
      ∃ outcome, NumberOutcome token q outcome ∧
        (readForm stop depth (token :: rest)).Leaves outcome rest) ∧
    (∀ token q first second, NumberOutcome token q first → NumberOutcome token q second →
      first = second) ∧
    (∀ text, ∀ token ∈ (Scan.ofText text).lexemes, token.kind = .number → ∃ q, Decimal token.text q ∧
      ∀ fault, read depthLimit text = .error fault →
        fault.position = token.position ∨ fault.fault.token? = some token →
          fault = ⟨.outOfRange token, token.position⟩ ∧ overflowLimit ≤ q) ∧
    (∀ text form, read depthLimit text = .ok (some form) →
      ∀ depth x token, (depth, .atom (.number x) token) ∈ form.outline 0 →
        token ∈ (Scan.ofText text).lexemes ∧ token.kind = .number ∧
          ∃ q, Decimal token.text q ∧ q < overflowLimit ∧ IsNearest q x) := by
  refine ⟨?_, ?_, fun _ _ _ _ => NumberOutcome.unique, ?_, ?_⟩
  · intro text q decimal
    have number : (⟨.number, text, .start⟩ : Token).kind = .number := rfl
    obtain ⟨outcome, isOutcome, reads⟩ := readsForm_number number decimal
    have isLexeme : Lexeme .number text := .number decimal.numeral
    exact ⟨outcome, isOutcome, read_lexeme isLexeme fun _ => reads _ _ _⟩
  · intro stop depth token rest q number decimal
    obtain ⟨outcome, isOutcome, reads⟩ := readsForm_number number decimal
    exact ⟨outcome, isOutcome, (reads stop depth rest).readForm_leaves⟩
  · intro text token member number
    obtain ⟨q, decimal⟩ := decimal_of_mem member number
    refine ⟨q, decimal, ?_⟩
    intro fault failed blamed
    obtain ⟨same, large⟩ := (faultOf_of_read failed member blamed).of_number number
    exact ⟨same, decimal.ofNumeral?_eq_none_iff.mp large⟩
  · intro text form found depth x token member
    obtain ⟨spent, left, stop, scan, linear, _⟩ := read_eq_some_iff.mp found
    obtain ⟨inside, denotes⟩ := linear.outline_denotes _ _ member
    have lexeme : token ∈ (Scan.ofText text).lexemes := by simp [scan, inside]
    cases denotes with
    | number number denoted =>
        obtain ⟨q, decimal⟩ := decimal_of_mem lexeme number
        exact ⟨lexeme, number, q, decimal, decimal.ofNumeral?_eq_some_iff.mp denoted⟩

theorem tenth_and_nines :
    IsNearest (1 / 10) (.ofBits 0x3FB999999999999A) ∧
      read 0 "0.1".toList = .ok (some (.atom (.number (.ofBits 0x3FB999999999999A))
        ⟨.number, "0.1".toList, .start⟩)) ∧
      ∃ q, overflowLimit ≤ q ∧ Decimal (List.replicate 309 '9') q := by
  have decimal : Decimal "0.1".toList (1 / 10) := by
    have pointed : Decimal (['0'] ++ '.' :: ['1']) _ := .pointed ⟨by simp, by simp⟩ ⟨by simp, by simp⟩
    have zero : Nat.ofDigitChars 10 ['0'] 0 = 0 := by decide
    have one : Nat.ofDigitChars 10 ['1'] 0 = 1 := by decide
    simpa [zero, one] using pointed
  have found : Double.ofNumeral? "0.1".toList = some (.ofBits 0x3FB999999999999A) := by decide +kernel
  obtain ⟨outcome, isOutcome, reads⟩ := (numbers_read_as_nearest 0).1 _ _ decimal
  obtain ⟨small, near⟩ := decimal.ofNumeral?_eq_some_iff.mp found
  rw [isOutcome.unique (.inRange small near)] at reads
  refine ⟨near, reads, ?_⟩
  have failed : read 1 ('(' :: List.replicate 309 '9') =
      .error ⟨.outOfRange ⟨.number, List.replicate 309 '9', ⟨0, 1⟩⟩, ⟨0, 1⟩⟩ :=
    read_eq_error_of_map (by decide +kernel)
  obtain ⟨q, nines, fails⟩ := (numbers_read_as_nearest 1).2.2.2.1 ('(' :: List.replicate 309 '9')
    ⟨.number, List.replicate 309 '9', ⟨0, 1⟩⟩ (by decide +kernel) rfl
  exact ⟨q, (fails _ failed (Or.inl rfl)).2, nines⟩

end Form

theorem minus_spelling {text : Text} (symbols : ∀ c ∈ text, isSymbolChar c = true) :
    SymbolSpelling ('-' :: text) ∧ ¬ Literal ('-' :: text) := by
  have minus : isSymbolChar '-' = true := by decide
  refine ⟨⟨by simpa [minus] using symbols, '-', rfl, rfl⟩, ?_⟩
  simp [Literal]

namespace Double

theorem text_spelling {x : Double} (other : ¬ (x.isFinite = true ∧ x.negative = false)) :
    SymbolSpelling x.text ∧ ¬ Literal x.text := by
  simp only [text]
  split
  · exact ⟨⟨List.all_eq_true.mp (by decide), 'N', rfl, rfl⟩, by simp [Literal]⟩
  · by_cases finite : x.isFinite = true
    · have signed : x.negative = true := by simpa [finite] using other
      obtain ⟨numeral, _⟩ := magnitude_reads_back (of_decide_eq_true finite) x.rank_lt
      rw [if_pos finite, if_pos signed]
      exact minus_spelling numeral.isSymbolChar
    · rw [if_neg finite]
      split
      · exact minus_spelling (List.all_eq_true.mp (by decide))
      · exact ⟨⟨List.all_eq_true.mp (by decide), 'i', rfl, rfl⟩, by simp [Literal]⟩

end Double

namespace Form

/-- The text of every double is one token and nothing else. If the double is finite and has no sign, this is
a number token, and it is read as a double with the same bits. Else it is a symbol token, and it is read as
the symbol of this text: a number that is negative, the negative zero, an infinity, or what is no number. -/
theorem number_text_is_one_token (bits : UInt64) (token : Token) (depthLimit : Nat) :
    let x := Double.ofBits bits
    let text := (atom (.number x) token).print
    ∃ kind value, Scan.ofText text = ⟨[⟨kind, text, .start⟩], .ok (.eof (.through .start text))⟩ ∧
      read depthLimit text = .ok (some (.atom value ⟨kind, text, .start⟩)) ∧
      if x.isFinite = true ∧ x.negative = false then
        kind = .number ∧ ∃ again : Double, value = .number again ∧ again.toBits = bits
      else kind = .symbol ∧ value = .symbol text := by
  intro x text
  by_cases readable : x.isFinite = true ∧ x.negative = false
  · obtain ⟨numeral, found⟩ := Double.text_reads_back readable.1 readable.2
    have isLexeme : Lexeme .number text := .number numeral
    refine ⟨.number, .number x, Scan.ofText_lexeme isLexeme,
      read_lexeme isLexeme fun _ => .atom (.number rfl found), ?_⟩
    rw [if_pos readable]
    exact ⟨rfl, x, rfl, Double.toBits_ofBits bits⟩
  · obtain ⟨spelling, notLiteral⟩ := Double.text_spelling readable
    have isLexeme : Lexeme .symbol text := .symbol spelling
    refine ⟨.symbol, .symbol text, Scan.ofText_lexeme isLexeme,
      read_lexeme isLexeme fun _ => .atom (.symbol rfl notLiteral), ?_⟩
    rw [if_neg readable]
    exact ⟨rfl, rfl⟩

end Form

end Sexpr
