import Sexpr.Form.Reader
/-!
Reading a form, as rules: `ReadsForm` and `ReadsItems` list every way in which reading goes on, ends or
fails, with the tokens left over. Main statements: `readForm` follows the rules and nothing else does;
a call of a reader follows them on the tokens not used up, and reading a text on its lexemes.
-/
namespace Sexpr

def Literal (text : Text) : Prop :=
  text = "true".toList ∨ text = "false".toList ∨ text = "nil".toList

/-- The atom that a token stands for. -/
inductive Denotes : Token → Atom → Prop
  | number {token : Token} {value : Double} : token.kind = .number →
      Double.ofNumeral? token.text = some value → Denotes token (.number value)
  | string {token : Token} : token.kind = .string → Denotes token (.string token.text)
  | true {token : Token} : token.kind = .symbol → token.text = "true".toList →
      Denotes token (.bool true)
  | false {token : Token} : token.kind = .symbol → token.text = "false".toList →
      Denotes token (.bool false)
  | nil {token : Token} : token.kind = .symbol → token.text = "nil".toList → Denotes token .nil
  | symbol {token : Token} : token.kind = .symbol → ¬ Literal token.text →
      Denotes token (.symbol token.text)

theorem Atom.ofSymbol_of_not_literal {text : Text} (other : ¬ Literal text) :
    ofSymbol text = .symbol text := by
  obtain ⟨notTrue, notFalse, notNil⟩ : _ ∧ _ ∧ _ := by simpa only [Literal, not_or] using other
  rw [ofSymbol, if_neg notTrue, if_neg notFalse, if_neg notNil]

theorem Denotes.of_same {token other : Token} {value : Atom} (denotes : Denotes other value)
    (kinds : token.kind = other.kind) (texts : token.text = other.text) : Denotes token value := by
  obtain ⟨kind, text, position⟩ := token
  simp only at kinds texts
  subst kinds texts
  cases denotes with
  | number kind found => exact .number kind found
  | string kind => exact .string kind
  | true kind same => exact .true kind same
  | false kind same => exact .false kind same
  | nil kind same => exact .nil kind same
  | symbol kind other => exact .symbol kind other

theorem Denotes.ofToken_eq {token : Token} {value : Atom} (denotes : Denotes token value) :
    Atom.ofToken token = .ok value := by
  cases denotes with
  | number kind found => simp [Atom.ofToken, kind, found]
  | string kind => simp [Atom.ofToken, kind]
  | true kind same => simp [Atom.ofToken, kind, same, Atom.ofSymbol]
  | false kind same => simp [Atom.ofToken, kind, same, Atom.ofSymbol]
  | nil kind same => simp [Atom.ofToken, kind, same, Atom.ofSymbol]
  | symbol kind other => simp [Atom.ofToken, kind, Atom.ofSymbol_of_not_literal other]

theorem denotes_ofSymbol {token : Token} (kind : token.kind = .symbol) :
    Denotes token (.ofSymbol token.text) := by
  by_cases literal : Literal token.text
  · rcases literal with same | same | same
    · simpa [Atom.ofSymbol, same] using Denotes.true kind same
    · simpa [Atom.ofSymbol, same] using Denotes.false kind same
    · simpa [Atom.ofSymbol, same] using Denotes.nil kind same
  · rw [Atom.ofSymbol_of_not_literal literal]
    exact .symbol kind literal

theorem denotes_of_ofToken {token : Token} {value : Atom}
    (found : Atom.ofToken token = .ok value) : Denotes token value := by
  simp only [Atom.ofToken] at found
  split at found
  · next kind =>
      split at found
      · next value same =>
          cases found
          exact .number kind same
      · cases found
  · next kind =>
      cases found
      exact .string kind
  · next kind =>
      cases found
      exact denotes_ofSymbol kind
  · cases found

theorem ofToken_error_cases {token : Token} {fault : ReadFault}
    (failed : Atom.ofToken token = .error fault) :
    fault = .unexpectedToken token ∨ fault = .outOfRange token := by
  simp only [Atom.ofToken] at failed
  split at failed
  · split at failed
    · cases failed
    · cases failed
      exact Or.inr rfl
  · cases failed
  · cases failed
  · cases failed
    exact Or.inl rfl

theorem Denotes.kind_ne_leftParen {token : Token} {value : Atom} (denotes : Denotes token value) :
    token.kind ≠ .leftParen := by
  intro opening
  have found := denotes.ofToken_eq
  simp [Atom.ofToken, opening] at found

mutual

inductive ReadsForm (stop : Token) :
    Nat → List Token → Except (Located ReadFault) Form → List Token → Prop
  | ended {depth : Nat} :
      ReadsForm stop depth [] (.error ⟨.unexpectedToken stop, stop.position⟩) []
  | tooDeep {token : Token} {rest : List Token} : token.kind = .leftParen →
      ReadsForm stop 0 (token :: rest) (.error ⟨.nestingTooDeep, token.position⟩) (token :: rest)
  | list {depth : Nat} {token : Token} {rest beyond : List Token} {items : List Form} :
      token.kind = .leftParen → ReadsItems stop depth rest (.ok items) beyond →
      ReadsForm stop (depth + 1) (token :: rest) (.ok (.list items token)) beyond
  | listFault {depth : Nat} {token : Token} {rest beyond : List Token}
      {fault : Located ReadFault} :
      token.kind = .leftParen → ReadsItems stop depth rest (.error fault) beyond →
      ReadsForm stop (depth + 1) (token :: rest) (.error fault) beyond
  | atom {depth : Nat} {token : Token} {rest : List Token} {value : Atom} :
      Denotes token value → ReadsForm stop depth (token :: rest) (.ok (.atom value token)) rest
  | atomFault {depth : Nat} {token : Token} {rest : List Token} {fault : ReadFault} :
      token.kind ≠ .leftParen → Atom.ofToken token = .error fault →
      ReadsForm stop depth (token :: rest) (.error ⟨fault, token.position⟩) rest

inductive ReadsItems (stop : Token) :
    Nat → List Token → Except (Located ReadFault) (List Form) → List Token → Prop
  | unclosed {depth : Nat} :
      ReadsItems stop depth [] (.error ⟨.mismatch .rightParen stop.kind, stop.position⟩) []
  | closed {depth : Nat} {token : Token} {rest : List Token} : token.kind = .rightParen →
      ReadsItems stop depth (token :: rest) (.ok []) rest
  | item {depth : Nat} {token : Token} {rest middle beyond : List Token} {item : Form}
      {items : List Form} : token.kind ≠ .rightParen →
      ReadsForm stop depth (token :: rest) (.ok item) middle →
      ReadsItems stop depth middle (.ok items) beyond →
      ReadsItems stop depth (token :: rest) (.ok (item :: items)) beyond
  | itemFault {depth : Nat} {token : Token} {rest beyond : List Token}
      {fault : Located ReadFault} : token.kind ≠ .rightParen →
      ReadsForm stop depth (token :: rest) (.error fault) beyond →
      ReadsItems stop depth (token :: rest) (.error fault) beyond
  | laterFault {depth : Nat} {token : Token} {rest middle beyond : List Token} {item : Form}
      {fault : Located ReadFault} : token.kind ≠ .rightParen →
      ReadsForm stop depth (token :: rest) (.ok item) middle →
      ReadsItems stop depth middle (.error fault) beyond →
      ReadsItems stop depth (token :: rest) (.error fault) beyond

end

namespace Attempt

variable {result : Type} {tokens left : List Token}

/-- An attempt seen from outside: what came of it and which tokens are left. -/
def Leaves (attempt : Attempt result tokens) (outcome : Except (Located ReadFault) result)
    (left : List Token) : Prop :=
  attempt.outcome = outcome ∧ attempt.rest = left

theorem Leaves.eq_read {attempt : Attempt result tokens} {value : result}
    (leaves : attempt.Leaves (.ok value) left) : ∃ shorter, attempt = .read value left shorter := by
  obtain ⟨outcome, rest⟩ := leaves
  cases attempt with
  | read _ _ shorter =>
      cases outcome
      cases rest
      exact ⟨shorter, rfl⟩
  | failed => cases outcome

theorem Leaves.eq_failed {attempt : Attempt result tokens} {fault : Located ReadFault}
    (leaves : attempt.Leaves (.error fault) left) : attempt = .failed fault left := by
  obtain ⟨outcome, rest⟩ := leaves
  cases attempt with
  | read => cases outcome
  | failed =>
      cases outcome
      cases rest
      rfl

end Attempt

theorem readAtom_reads (stop : Token) (depth : Nat) {token : Token} (rest : List Token)
    (other : token.kind ≠ .leftParen) :
    ReadsForm stop depth (token :: rest) (readAtom token rest).outcome (readAtom token rest).rest := by
  simp only [readAtom]
  split
  · next found => exact .atom (denotes_of_ofToken found)
  · next failed => exact .atomFault other failed

theorem readItems_reads {stop : Token} {depth : Nat}
    {readItem : (tokens : List Token) → Attempt Form tokens}
    (reads : ∀ tokens, ReadsForm stop depth tokens (readItem tokens).outcome (readItem tokens).rest)
    (tokens : List Token) :
    ReadsItems stop depth tokens (readItems stop readItem tokens).outcome
      (readItems stop readItem tokens).rest := by
  -- An item leaves fewer tokens than there were, so the induction is on their number.
  induction count : tokens.length using Nat.strongRecOn generalizing tokens with
  | ind size ih =>
    cases tokens with
    | nil =>
        rw [readItems]
        exact .unclosed
    | cons token rest =>
        rw [readItems]
        by_cases closing : token.kind = .rightParen
        · rw [if_pos closing]
          exact .closed closing
        · rw [if_neg closing]
          have first := reads (token :: rest)
          split
          · next same =>
              rw [same] at first
              exact .itemFault closing first
          · next item middle shorter same =>
              rw [same] at first
              have later := ih middle.length (count ▸ shorter) middle rfl
              split
              · next failed =>
                  rw [failed] at later
                  exact .laterFault closing first later
              · next found =>
                  rw [found] at later
                  exact .item closing first later

theorem readForm_reads (stop : Token) (depth : Nat) (tokens : List Token) :
    ReadsForm stop depth tokens (readForm stop depth tokens).outcome
      (readForm stop depth tokens).rest := by
  induction depth generalizing tokens with
  | zero =>
      cases tokens with
      | nil => exact .ended
      | cons token rest =>
          by_cases opening : token.kind = .leftParen
          · simp only [readForm, opening, if_true]
            exact .tooDeep opening
          · simp only [readForm, opening, if_false]
            exact readAtom_reads stop 0 rest opening
  | succ depth ih =>
      cases tokens with
      | nil => exact .ended
      | cons token rest =>
          by_cases opening : token.kind = .leftParen
          · simp only [readForm, opening, if_true]
            -- One level further in, every item is read by the rules.
            have items := readItems_reads ih rest
            split
            · next failed =>
                rw [failed] at items
                exact .listFault opening items
            · next found =>
                rw [found] at items
                exact .list opening items
          · simp only [readForm, opening, if_false]
            exact readAtom_reads stop (depth + 1) rest opening

mutual

theorem ReadsForm.readForm_leaves {stop : Token} {depth : Nat} {tokens left : List Token}
    {outcome : Except (Located ReadFault) Form} :
    ReadsForm stop depth tokens outcome left → (readForm stop depth tokens).Leaves outcome left
  | .ended => by cases depth <;> exact ⟨rfl, rfl⟩
  | .tooDeep opening => by
      simp [Attempt.Leaves, readForm, opening, Attempt.outcome, Attempt.rest]
  | .list opening items => by
      obtain ⟨shorter, same⟩ := items.readItems_leaves.eq_read
      simp [Attempt.Leaves, readForm, opening, same, Attempt.outcome, Attempt.rest]
  | .listFault opening items => by
      have same := items.readItems_leaves.eq_failed
      simp [Attempt.Leaves, readForm, opening, same, Attempt.outcome, Attempt.rest]
  | .atom denotes => by
      have found := denotes.ofToken_eq
      have other := denotes.kind_ne_leftParen
      cases depth <;>
        simp [Attempt.Leaves, readForm, readAtom, other, found, Attempt.outcome, Attempt.rest]
  | .atomFault other failed => by
      cases depth <;>
        simp [Attempt.Leaves, readForm, readAtom, other, failed, Attempt.outcome, Attempt.rest]

theorem ReadsItems.readItems_leaves {stop : Token} {depth : Nat} {tokens left : List Token}
    {outcome : Except (Located ReadFault) (List Form)} :
    ReadsItems stop depth tokens outcome left →
      (readItems stop (fun tokens => readForm stop depth tokens) tokens).Leaves outcome left
  | .unclosed => by
      rw [readItems]
      exact ⟨rfl, rfl⟩
  | .closed closing => by simp [Attempt.Leaves, readItems, closing, Attempt.outcome, Attempt.rest]
  | .item other first later => by
      obtain ⟨_, same⟩ := first.readForm_leaves.eq_read
      obtain ⟨_, rest⟩ := later.readItems_leaves.eq_read
      simp [Attempt.Leaves, readItems, other, same, rest, Attempt.outcome, Attempt.rest]
  | .itemFault other first => by
      have same := first.readForm_leaves.eq_failed
      simp [Attempt.Leaves, readItems, other, same, Attempt.outcome, Attempt.rest]
  | .laterFault other first later => by
      obtain ⟨_, same⟩ := first.readForm_leaves.eq_read
      have rest := later.readItems_leaves.eq_failed
      simp [Attempt.Leaves, readItems, other, same, rest, Attempt.outcome, Attempt.rest]

end

mutual

theorem ReadsForm.suffix {stop : Token} {depth : Nat} {tokens left : List Token}
    {outcome : Except (Located ReadFault) Form} :
    ReadsForm stop depth tokens outcome left → left <:+ tokens
  | .ended => List.suffix_rfl
  | .tooDeep _ => List.suffix_rfl
  | .list _ items => items.suffix.trans (List.suffix_cons _ _)
  | .listFault _ items => items.suffix.trans (List.suffix_cons _ _)
  | .atom _ => List.suffix_cons _ _
  | .atomFault _ _ => List.suffix_cons _ _

theorem ReadsItems.suffix {stop : Token} {depth : Nat} {tokens left : List Token}
    {outcome : Except (Located ReadFault) (List Form)} :
    ReadsItems stop depth tokens outcome left → left <:+ tokens
  | .unclosed => List.suffix_rfl
  | .closed _ => List.suffix_cons _ _
  | .item _ first later => later.suffix.trans first.suffix
  | .itemFault _ first => first.suffix
  | .laterFault _ first later => later.suffix.trans first.suffix

end

namespace Reader

variable {reader : Reader}

theorem pending_suffix (reader : Reader) : reader.pending <:+ reader.lexemes :=
  List.drop_suffix _ _

theorem cursor_eq_of_pending (more : reader.pending ≠ []) :
    reader.cursor = reader.lexemes.length - reader.pending.length := by
  have inside := (not_congr List.drop_eq_nil_iff).mp more
  simp only [pending, List.length_drop]
  omega

theorem next_of_ended (ended : reader.pending = []) :
    reader.next = (.error ⟨.unexpectedToken reader.stop, reader.stop.position⟩,
      { reader with cursor := max reader.cursor (reader.lexemes.length + 1) }) := by
  have reads : ReadsForm reader.stop reader.depthLimit reader.pending
      (.error ⟨.unexpectedToken reader.stop, reader.stop.position⟩) [] := by
    rw [ended]
    exact .ended
  simp only [next, reads.readForm_leaves.1, ended, List.isEmpty_nil, if_true]

theorem next_of_reads {outcome : Except (Located ReadFault) Form} {left : List Token}
    (more : reader.pending ≠ [])
    (reads : ReadsForm reader.stop reader.depthLimit reader.pending outcome left) :
    reader.next = (outcome, { reader with cursor := reader.lexemes.length - left.length }) := by
  obtain ⟨same, rest⟩ := reads.readForm_leaves
  have present : reader.pending.isEmpty = false := by simpa using more
  simp only [next, same, rest, present, Bool.false_eq_true, if_false]

theorem next_cases (reader : Reader) :
    (reader.pending = [] ∧ reader.next = (.error ⟨.unexpectedToken reader.stop, reader.stop.position⟩,
      { reader with cursor := max reader.cursor (reader.lexemes.length + 1) })) ∨
    (reader.pending ≠ [] ∧ ∃ outcome left,
      ReadsForm reader.stop reader.depthLimit reader.pending outcome left ∧
        reader.next = (outcome, { reader with cursor := reader.lexemes.length - left.length })) := by
  by_cases ended : reader.pending = []
  · exact Or.inl ⟨ended, next_of_ended ended⟩
  · have reads := readForm_reads reader.stop reader.depthLimit reader.pending
    exact Or.inr ⟨ended, _, _, reads, next_of_reads ended reads⟩

end Reader

namespace Form

theorem read_eq (depthLimit : Nat) (text : Text) :
    read depthLimit text =
      match (Scan.ofText text).ending with
      | .error fault => .error (fault.map .scan)
      | .ok stop =>
        if (Scan.ofText text).lexemes.isEmpty then .ok none
        else (readForm stop depthLimit (Scan.ofText text).lexemes).outcome.map some := by
  rw [read, Reader.ofText, Reader.ofScan]
  cases (Scan.ofText text).ending <;> rfl

theorem read_eq_none_iff {depthLimit : Nat} {text : Text} :
    read depthLimit text = .ok none ↔ ∃ stop, Scan.ofText text = ⟨[], .ok stop⟩ := by
  rw [read_eq]
  rcases Scan.ofText text with ⟨lexemes, fault | stop⟩
  · simp
  · cases lexemes with
    | nil => simp
    | cons first others =>
        dsimp only
        rw [if_neg (by simp)]
        cases (readForm stop depthLimit (first :: others)).outcome <;> simp [Except.map]

theorem read_of_scan {depthLimit : Nat} {text : Text} {lexemes : List Token} {stop : Token}
    {outcome : Except (Located ReadFault) Form} {left : List Token}
    (scan : Scan.ofText text = ⟨lexemes, .ok stop⟩) (present : lexemes ≠ [])
    (reads : ReadsForm stop depthLimit lexemes outcome left) :
    read depthLimit text = outcome.map some := by
  rw [read_eq, scan]
  dsimp only
  rw [if_neg (by simpa using present), reads.readForm_leaves.1]

theorem read_eq_some {depthLimit : Nat} {text : Text} {form : Form}
    (found : read depthLimit text = .ok (some form)) :
    ∃ lexemes stop left, Scan.ofText text = ⟨lexemes, .ok stop⟩ ∧
      ReadsForm stop depthLimit lexemes (.ok form) left := by
  rw [read_eq] at found
  rcases scan : Scan.ofText text with ⟨lexemes, fault | stop⟩ <;> rw [scan] at found <;>
    dsimp only at found
  · cases found
  · split at found
    · cases found
    · have reads := readForm_reads stop depthLimit lexemes
      cases outcome : (readForm stop depthLimit lexemes).outcome with
      | error fault => simp [outcome, Except.map] at found
      | ok first =>
          rw [outcome] at reads found
          cases found
          exact ⟨lexemes, stop, _, rfl, reads⟩

theorem read_eq_error {depthLimit : Nat} {text : Text} {fault : Located ReadFault}
    (failed : read depthLimit text = .error fault) :
    (∃ scanFault, (Scan.ofText text).ending = .error scanFault ∧ fault = scanFault.map .scan) ∨
      ∃ lexemes stop left, Scan.ofText text = ⟨lexemes, .ok stop⟩ ∧ lexemes ≠ [] ∧
        ReadsForm stop depthLimit lexemes (.error fault) left := by
  rw [read_eq] at failed
  rcases scan : Scan.ofText text with ⟨lexemes, scanFault | stop⟩ <;> rw [scan] at failed <;>
    dsimp only at failed
  · cases failed
    exact Or.inl ⟨scanFault, rfl, rfl⟩
  · split at failed
    · cases failed
    · next present =>
        have reads := readForm_reads stop depthLimit lexemes
        cases outcome : (readForm stop depthLimit lexemes).outcome with
        | ok form => simp [outcome, Except.map] at failed
        | error first =>
            rw [outcome] at reads failed
            cases failed
            exact Or.inr ⟨lexemes, stop, _, rfl, by simpa using present, reads⟩

theorem read_of_scanFault {text : Text} {scanFault : Located ScanFault}
    (failed : (Scan.ofText text).ending = .error scanFault) (depthLimit : Nat) :
    read depthLimit text = .error (scanFault.map .scan) := by
  rw [read_eq, failed]

end Form

end Sexpr
