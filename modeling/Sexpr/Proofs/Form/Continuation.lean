import Sexpr.Proofs.Form.Failing
import Sexpr.Proofs.Form.Readable
import Sexpr.Proofs.Token.Below
/-!
Reading a text that goes on. Main statements: a fault at a token is met again at this token, or a fault of
the scanner comes first; and where only closing parentheses are missing, as many of them as lists are open
make the text readable, and any more change nothing. A form that was read is read again whatever stands on
the lines behind it, unless the scanner finds a fault there.
-/
namespace Sexpr

/-- A fault that is met again. A number out of range may have more digits then. -/
inductive ReadFault.Persists : ReadFault → ReadFault → Prop
  | same {fault : ReadFault} : Persists fault fault
  | outOfRange {token again : Token} : token.GoesOn again →
      Persists (.outOfRange token) (.outOfRange again)

inductive ReadFault.Incurable : ReadFault → Prop
  | unexpectedToken {token : Token} : Incurable (.unexpectedToken token)
  | outOfRange {token : Token} : Incurable (.outOfRange token)
  | nestingTooDeep : Incurable .nestingTooDeep
  | unexpectedChar {c : Char} : Incurable (.scan (.unexpectedChar c))

theorem ReadFault.Incurable.not_mismatch {fault : ReadFault} (incurable : fault.Incurable)
    (expected got : Kind) : fault ≠ .mismatch expected got := by
  cases incurable <;> simp

theorem Token.GoesOn.ofToken_error {token again : Token} {fault : ReadFault}
    (goesOn : token.GoesOn again) (failed : Atom.ofToken token = .error fault) :
    ∃ later, Atom.ofToken again = .error later ∧ fault.Persists later := by
  cases goesOn with
  | same => exact ⟨fault, failed, .same⟩
  | number kind numeral longer =>
      cases found : Double.ofNumeral? token.text with
      | some value => simp [Atom.ofToken, kind, found] at failed
      | none =>
          have large := Double.ofNumeral?_eq_none_of_append numeral longer found
          simp only [Atom.ofToken, kind, found] at failed
          cases failed
          exact ⟨_, by simp [Atom.ofToken, kind, large], .outOfRange (.number kind numeral longer)⟩

theorem not_symbol_of_ofToken_error {token : Token} {fault : ReadFault}
    (failed : Atom.ofToken token = .error fault) : token.kind ≠ .symbol := by
  intro symbol
  simp [Atom.ofToken, symbol] at failed

/-- The fault of some reading of the tokens stands at a token that is no symbol. Where this token or one
that goes on from it stands behind the same tokens, the reading fails there too, whatever follows. -/
structure FaultsAt (Fails : Token → List Token → Located ReadFault → Prop) (tokens : List Token)
    (fault : Located ReadFault) (before : List Token) (token : Token) : Prop where
  here : ∃ later, tokens = before ++ token :: later
  notSymbol : token.kind ≠ .symbol
  notScan : ∀ cause, fault.fault ≠ .scan cause
  again : ∀ again, token.GoesOn again → ∀ stop rest, ∃ later,
    Fails stop (before ++ again :: rest) ⟨later, fault.position⟩ ∧ fault.fault.Persists later

namespace FaultsAt

variable {depth : Nat} {token opening : Token} {rest before middle spent : List Token}
  {fault : Located ReadFault}

theorem atom (other : token.kind ≠ .leftParen) {cause : ReadFault}
    (failed : Atom.ofToken token = .error cause) :
    FaultsAt (FailsForm · depth) (token :: rest) ⟨cause, token.position⟩ [] token := by
  refine ⟨⟨rest, rfl⟩, not_symbol_of_ofToken_error failed, ?_, ?_⟩
  · rcases ofToken_error_cases failed with rfl | rfl <;> simp
  intro again goesOn stop tokens
  obtain ⟨later, failedAgain, persists⟩ := goesOn.ofToken_error failed
  rw [← goesOn.kind_eq] at other
  refine ⟨later, ?_, persists⟩
  rw [← goesOn.position_eq]
  exact .atom other failedAgain

theorem tooDeep (opens : token.kind = .leftParen) :
    FaultsAt (FailsForm · 0) (token :: rest) ⟨.nestingTooDeep, token.position⟩ [] token := by
  refine ⟨⟨rest, rfl⟩, by simp [opens], by simp, ?_⟩
  intro again goesOn stop tokens
  rw [← goesOn.kind_eq] at opens
  refine ⟨.nestingTooDeep, ?_, .same⟩
  rw [← goesOn.position_eq]
  exact .tooDeep opens

theorem behind {Fails Around : Token → List Token → Located ReadFault → Prop} (front : List Token)
    (around : ∀ stop tokens cause, Fails stop tokens cause → Around stop (front ++ tokens) cause)
    (faults : FaultsAt Fails rest fault before token) :
    FaultsAt Around (front ++ rest) fault (front ++ before) token := by
  obtain ⟨⟨later, rfl⟩, notSymbol, notScan, again⟩ := faults
  refine ⟨⟨later, (List.append_assoc _ _ _).symm⟩, notSymbol, notScan, ?_⟩
  intro other goesOn stop tokens
  obtain ⟨cause, fails, persists⟩ := again other goesOn stop tokens
  refine ⟨cause, ?_, persists⟩
  rw [List.append_assoc]
  exact around _ _ _ fails

theorem in_list (opens : opening.kind = .leftParen)
    (faults : FaultsAt (FailsItems · depth) rest fault before token) :
    FaultsAt (FailsForm · (depth + 1)) (opening :: rest) fault (opening :: before) token :=
  faults.behind [opening] fun _ _ _ => FailsForm.inList opens

theorem at_item (other : opening.kind ≠ .rightParen)
    (faults : FaultsAt (FailsForm · depth) (opening :: rest) fault before token) :
    FaultsAt (FailsItems · depth) (opening :: rest) fault before token := by
  obtain ⟨⟨later, same⟩, notSymbol, notScan, again⟩ := faults
  refine ⟨⟨later, same⟩, notSymbol, notScan, ?_⟩
  intro replaced goesOn stop tokens
  obtain ⟨cause, first, persists⟩ := again replaced goesOn stop tokens
  refine ⟨cause, ?_, persists⟩
  -- The item starts as it did, with the token at the fault or with one in front of it.
  cases before with
  | nil =>
      obtain ⟨rfl, _⟩ := List.cons.inj same
      exact .atItem (goesOn.kind_eq ▸ other) first
  | cons start before =>
      obtain ⟨rfl, _⟩ := List.cons.inj same
      exact .atItem other first

theorem behind_item {item : Form} (linear : Linear item spent) (shallow : item.depth ≤ depth)
    (faults : FaultsAt (FailsItems · depth) middle fault before token) :
    FaultsAt (FailsItems · depth) (spent ++ middle) fault (spent ++ before) token :=
  faults.behind spent fun _ _ _ => FailsItems.behindItem linear shallow

end FaultsAt

mutual

theorem FailsForm.faultsAt {stop : Token} {depth : Nat} {tokens : List Token}
    {fault : Located ReadFault} :
    FailsForm stop depth tokens fault → tokens ≠ [] →
      (∀ expected got, fault.fault ≠ .mismatch expected got) →
        ∃ before token, FaultsAt (FailsForm · depth) tokens fault before token
  | .ended, present, _ => absurd rfl present
  | .tooDeep opening, _, _ => ⟨[], _, .tooDeep opening⟩
  | .inList opening items, _, closed => by
      obtain ⟨before, token, faults⟩ := items.faultsAt closed
      exact ⟨_, token, faults.in_list opening⟩
  | .atom other failed, _, _ => ⟨[], _, .atom other failed⟩

theorem FailsItems.faultsAt {stop : Token} {depth : Nat} {tokens : List Token}
    {fault : Located ReadFault} :
    FailsItems stop depth tokens fault →
      (∀ expected got, fault.fault ≠ .mismatch expected got) →
        ∃ before token, FaultsAt (FailsItems · depth) tokens fault before token
  | .unclosed, closed => absurd rfl (closed _ _)
  | .atItem other first, closed => by
      obtain ⟨before, token, faults⟩ := first.faultsAt (by simp) closed
      exact ⟨before, token, faults.at_item other⟩
  | .behindItem linear shallow later, closed => by
      obtain ⟨before, token, faults⟩ := later.faultsAt closed
      exact ⟨_, token, faults.behind_item linear shallow⟩

end

/-- The tokens lack `opened` closing parentheses: with fewer the reading ends in an open list, and with as
many or more it finds the same, and leaves those that are too many. -/
structure Lacks {result : Type} (stop : Token)
    (Reads : List Token → Except (Located ReadFault) result → List Token → Prop) (tokens : List Token)
    (opened : Nat) (value : result) : Prop where
  short : ∀ closing, (∀ token ∈ closing, token.kind = .rightParen) → closing.length < opened →
    Reads (tokens ++ closing) (.error ⟨.mismatch .rightParen stop.kind, stop.position⟩) []
  enough : ∀ closing, (∀ token ∈ closing, token.kind = .rightParen) → opened ≤ closing.length →
    Reads (tokens ++ closing) (.ok value) (closing.drop opened)

namespace Lacks

variable {stop token : Token} {depth opened : Nat} {rest middle spent : List Token} {items : List Form}
  {form item : Form}

theorem nothing_read : Lacks stop (ReadsItems stop depth) [] 1 [] := by
  constructor
  · intro closing _ short
    rw [List.length_eq_zero_iff.mp (Nat.lt_one_iff.mp short)]
    exact .unclosed
  · intro closing kinds enough
    obtain ⟨first, others, rfl⟩ := List.exists_cons_of_length_pos enough
    exact .closed (kinds first (by simp))

theorem in_list (opening : token.kind = .leftParen)
    (lacks : Lacks stop (ReadsItems stop depth) rest opened items) :
    Lacks stop (ReadsForm stop (depth + 1)) (token :: rest) opened (.list items token) := by
  constructor
  · intro closing kinds short
    exact .listFault opening (lacks.short closing kinds short)
  · intro closing kinds enough
    exact .list opening (lacks.enough closing kinds enough)

theorem at_item (other : token.kind ≠ .rightParen)
    (lacks : Lacks stop (ReadsForm stop depth) (token :: rest) opened form) :
    Lacks stop (ReadsItems stop depth) (token :: rest) (opened + 1) [form] := by
  constructor
  · intro closing kinds short
    rcases Nat.lt_or_eq_of_le (Nat.le_of_lt_succ short) with fewer | all
    · exact .itemFault other (lacks.short closing kinds fewer)
    · have first := lacks.enough closing kinds (Nat.le_of_eq all.symm)
      rw [List.drop_eq_nil_of_le (Nat.le_of_eq all)] at first
      exact .laterFault other first .unclosed
  · intro closing kinds enough
    have first := lacks.enough closing kinds (Nat.le_of_succ_le enough)
    rw [List.drop_eq_getElem_cons enough] at first
    exact .item other first (.closed (kinds _ (List.getElem_mem enough)))

theorem behind_item (linear : Linear item spent) (shallow : item.depth ≤ depth)
    (lacks : Lacks stop (ReadsItems stop depth) middle opened items) :
    Lacks stop (ReadsItems stop depth) (spent ++ middle) opened (item :: items) := by
  constructor
  · intro closing kinds short
    rw [List.append_assoc]
    exact (lacks.short closing kinds short).behind_item linear shallow
  · intro closing kinds enough
    rw [List.append_assoc]
    exact (lacks.enough closing kinds enough).behind_item linear shallow

end Lacks

mutual

theorem FailsForm.lacks {stop : Token} {depth : Nat} {tokens : List Token}
    {fault : Located ReadFault} :
    FailsForm stop depth tokens fault → (∃ expected got, fault.fault = .mismatch expected got) →
      ∃ opened form, 1 ≤ opened ∧ opened ≤ depth ∧
        ∀ stop, Lacks stop (ReadsForm stop depth) tokens opened form
  | .ended, mismatch => by simp at mismatch
  | .tooDeep _, mismatch => by simp at mismatch
  | .inList opening items, mismatch => by
      obtain ⟨opened, inner, some, few, lacks⟩ := items.lacks mismatch
      exact ⟨opened, _, some, few, fun stop => (lacks stop).in_list opening⟩
  | .atom _ failed, mismatch => by
      rcases ofToken_error_cases failed with rfl | rfl <;> simp at mismatch

theorem FailsItems.lacks {stop : Token} {depth : Nat} {tokens : List Token}
    {fault : Located ReadFault} :
    FailsItems stop depth tokens fault → (∃ expected got, fault.fault = .mismatch expected got) →
      ∃ opened items, 1 ≤ opened ∧ opened ≤ depth + 1 ∧
        ∀ stop, Lacks stop (ReadsItems stop depth) tokens opened items
  | .unclosed, _ => ⟨1, [], Nat.le_refl _, Nat.le_add_left _ _, fun _ => .nothing_read⟩
  | .atItem other first, mismatch => by
      obtain ⟨opened, form, _, few, lacks⟩ := first.lacks mismatch
      exact ⟨opened + 1, [form], Nat.le_add_left _ _, Nat.succ_le_succ few,
        fun stop => (lacks stop).at_item other⟩
  | .behindItem linear shallow later, mismatch => by
      obtain ⟨opened, items, some, few, lacks⟩ := later.lacks mismatch
      exact ⟨opened, _, some, few, fun stop => (lacks stop).behind_item linear shallow⟩

end

namespace Form

theorem read_goesOn {depthLimit : Nat} {text : Text} {fault : ReadFault} {position : Position}
    (incurable : fault.Incurable) (failed : read depthLimit text = .error ⟨fault, position⟩)
    (more : Text) :
    ∃ again, read depthLimit (text ++ more) = .error again ∧
      ((fault.Persists again.fault ∧ again.position = position) ∨
        ∃ cause, again.fault = .scan cause) ∧
      ∀ c, fault = .scan (.unexpectedChar c) → again = ⟨fault, position⟩ := by
  rcases read_eq_error failed with ⟨⟨cause, place⟩, ending, same⟩ | ⟨lexemes, stop, left, scan, present, reads⟩
  · cases same
    cases incurable with
    | unexpectedChar =>
        have again := read_of_scanFault (Scan.stray_goesOn ending more) depthLimit
        exact ⟨_, again, Or.inl ⟨.same, rfl⟩, fun _ _ => rfl⟩
  · obtain ⟨before, token, ⟨later, same⟩, notSymbol, notScan, fails⟩ :=
      (reads.fails _ rfl).faultsAt present incurable.not_mismatch
    subst same
    obtain ⟨again, beyond, longer, goesOn⟩ :=
      Scan.lexemes_goOn (congrArg Scan.lexemes scan) notSymbol more
    rcases longerScan : Scan.ofText (text ++ more) with ⟨tokens, scanFault | last⟩
    · have failedAgain := read_of_scanFault (congrArg Scan.ending longerScan) depthLimit
      exact ⟨_, failedAgain, Or.inr ⟨_, rfl⟩, fun c stray => absurd stray (notScan _)⟩
    · obtain ⟨cause, failsAgain, persists⟩ := fails again goesOn last beyond
      obtain ⟨left, readsAgain⟩ := failsAgain.reads
      rw [longerScan] at longer
      subst longer
      exact ⟨_, read_of_scan longerScan (by simp) readsAgain, Or.inl ⟨persists, rfl⟩,
        fun c stray => absurd stray (notScan _)⟩

theorem read_closed {depthLimit : Nat} {text : Text} {expected got : Kind} {position : Position}
    (failed : read depthLimit text = .error ⟨.mismatch expected got, position⟩) :
    ∃ opened form, 1 ≤ opened ∧ opened ≤ depthLimit ∧ ∀ count,
      (count < opened → ∃ place, read depthLimit (text ++ '\n' :: List.replicate count ')') =
        .error ⟨.mismatch .rightParen .eof, place⟩) ∧
      (opened ≤ count →
        read depthLimit (text ++ '\n' :: List.replicate count ')') = .ok (some form)) := by
  rcases read_eq_error failed with ⟨cause, _, same⟩ | ⟨lexemes, stop, left, scan, present, reads⟩
  · cases same
  · obtain ⟨opened, form, some, few, lacks⟩ := (reads.fails _ rfl).lacks ⟨expected, got, rfl⟩
    refine ⟨opened, form, some, few, ?_⟩
    intro count
    obtain ⟨closing, place, longer, length, kinds⟩ := Scan.ofText_closed scan count
    have more : lexemes ++ closing ≠ [] := by simp [present]
    constructor
    · intro fewer
      exact ⟨place, read_of_scan longer more ((lacks _).short closing kinds (length.symm ▸ fewer))⟩
    · intro enough
      exact read_of_scan longer more ((lacks _).enough closing kinds (length.symm ▸ enough))

theorem read_eq_error_of_map {depthLimit : Nat} {text : Text} {fault : Located ReadFault}
    (failed : (read depthLimit text).map (fun _ => ()) = .error fault) :
    read depthLimit text = .error fault := by
  cases found : read depthLimit text with
  | error other =>
      rw [found] at failed
      cases failed
      rfl
  | ok form =>
      rw [found] at failed
      cases failed

/-- More text cures no fault of a token or of a character: it is met again, unless the scanner finds a
fault, and a stray character is met again in any case. Where lists are open at the end, a new line of as
many closing parentheses makes the text readable, fewer do not, and more change nothing. -/
theorem cured_by_closing_only :
    (∀ depthLimit text fault position, fault.Incurable →
      read depthLimit text = .error ⟨fault, position⟩ → ∀ more, ∃ again,
        read depthLimit (text ++ more) = .error again ∧
          ((fault.Persists again.fault ∧ again.position = position) ∨
            ∃ cause, again.fault = .scan cause) ∧
          ∀ c, fault = .scan (.unexpectedChar c) → again = ⟨fault, position⟩) ∧
    (∀ depthLimit text expected got position,
      read depthLimit text = .error ⟨.mismatch expected got, position⟩ →
        ∃ opened form, 1 ≤ opened ∧ opened ≤ depthLimit ∧ ∀ count,
          (count < opened → ∃ place, read depthLimit (text ++ '\n' :: List.replicate count ')') =
            .error ⟨.mismatch .rightParen .eof, place⟩) ∧
          (opened ≤ count →
            read depthLimit (text ++ '\n' :: List.replicate count ')') = .ok (some form))) := by
  constructor
  · intro depthLimit text fault position incurable failed more
    exact read_goesOn incurable failed more
  · intro depthLimit text expected got position failed
    exact read_closed failed

theorem bracket_stays_and_list_closes :
    (∃ again, read 1 ("(]".toList ++ "\"".toList) = .error again ∧
      ((ReadFault.unexpectedToken ⟨.special, [']'], ⟨0, 1⟩⟩).Persists again.fault ∨
        ∃ cause, again.fault = .scan cause)) ∧
      ∃ opened, 1 ≤ opened ∧ opened ≤ 1 ∧
        ∃ form, read 1 ("(a;".toList ++ '\n' :: List.replicate opened ')') = .ok (some form) := by
  constructor
  · have failed : read 1 "(]".toList =
        .error ⟨.unexpectedToken ⟨.special, [']'], ⟨0, 1⟩⟩, ⟨0, 1⟩⟩ :=
      read_eq_error_of_map (by decide +kernel)
    obtain ⟨again, reads, same, _⟩ :=
      cured_by_closing_only.1 _ _ _ _ .unexpectedToken failed "\"".toList
    exact ⟨again, reads, same.imp_left And.left⟩
  · have failed : read 1 "(a;".toList = .error ⟨.mismatch .rightParen .eof, ⟨0, 3⟩⟩ :=
      read_eq_error_of_map (by decide +kernel)
    obtain ⟨opened, form, some, few, closes⟩ := cured_by_closing_only.2 _ _ _ _ _ failed
    exact ⟨opened, some, few, form, (closes opened).2 (Nat.le_refl _)⟩

/-- The form that was read is read again, with the same tokens, whatever is written on the lines behind it,
if this is scanned without a fault. The first fault of the scanner there is what reading fails with, as many
lines further down as the text in front takes. -/
theorem first_form_stays (depthLimit : Nat) (text : Text) (form : Form)
    (found : read depthLimit text = .ok (some form)) (more : Text) :
    ((∃ stop, (Scan.ofText more).ending = .ok stop) →
      read depthLimit (text ++ '\n' :: more) = .ok (some form)) ∧
    ∀ cause line column, (Scan.ofText more).ending = .error ⟨cause, ⟨line, column⟩⟩ →
      read depthLimit (text ++ '\n' :: more) =
        .error ⟨.scan cause, ⟨line + text.count '\n' + 1, column⟩⟩ := by
  obtain ⟨spent, left, stop, scan, linear, shallow⟩ := read_eq_some_iff.mp found
  have longer := Scan.ofText_on_new_line scan more
  constructor
  · rintro ⟨last, ending⟩
    -- The form is read off the same tokens, with more of them left behind it.
    rw [Scan.below, ending, itemBelow, List.append_assoc] at longer
    exact read_eq_some_iff.mpr ⟨spent, _, _, longer, linear, shallow⟩
  · intro cause line column ending
    rw [Scan.below, ending, itemBelow] at longer
    exact read_of_scanFault (congrArg Scan.ending longer) depthLimit

theorem list_stays_in_front :
    ∃ form, read 1 "(a);".toList = .ok (some form) ∧
      read 1 ("(a);".toList ++ '\n' :: ")(".toList) = .ok (some form) ∧
      read 1 ("(a);".toList ++ '\n' :: "\n(\"".toList) =
        .error ⟨.scan .unterminatedString, ⟨2, 1⟩⟩ := by
  have lexemes : (Scan.ofText "(a);".toList).lexemes = [⟨.leftParen, ['('], ⟨0, 0⟩⟩,
      ⟨.symbol, ['a'], ⟨0, 1⟩⟩, ⟨.rightParen, [')'], ⟨0, 2⟩⟩] := by decide +kernel
  have ending : (Scan.ofText "(a);".toList).ending = .ok (.eof ⟨0, 4⟩) := by decide +kernel
  have found : read 1 "(a);".toList = .ok (some (.list [.atom (.symbol ['a'])
      ⟨.symbol, ['a'], ⟨0, 1⟩⟩] ⟨.leftParen, ['('], ⟨0, 0⟩⟩)) :=
    read_of_scan (congrArg₂ Scan.mk lexemes ending) (by simp)
      (.list rfl (.item (by decide) (.atom (.symbol rfl (by simp [Literal]))) (.closed rfl)))
  have stays := first_form_stays 1 _ _ found
  have parens : ∃ stop, (Scan.ofText ")(".toList).ending = .ok stop :=
    ⟨.eof ⟨0, 2⟩, by decide +kernel⟩
  have quote : (Scan.ofText "\n(\"".toList).ending = .error ⟨.unterminatedString, ⟨1, 1⟩⟩ := by
    decide +kernel
  exact ⟨_, found, (stays _).1 parens, (stays _).2 _ _ _ quote⟩

end Form

end Sexpr
