import Sexpr.Proofs.Form.Reading
/-!
A stack machine that reads one form in one pass: the lists that are open stand on a stack, and each step
looks at one token. Main statement: the machine stops, with the outcome of `Reader.next` and as many
tokens used up, whatever the tokens, the cursor and the depth limit are.
-/
namespace Sexpr

/-- A list that is still open: the parenthesis that opened it and its items so far, the last one
first. -/
structure OpenList where
  opening : Token
  items : List Form

structure Machine where
  opened : List OpenList
  cursor : Nat

inductive Move where
  | go (machine : Machine)
  | stop (outcome : Except (Located ReadFault) Form) (cursor : Nat)

namespace Machine

/-- A finished form is an item of the innermost open list. Where none is open, it is the outcome. -/
def place (form : Form) (opened : List OpenList) (cursor : Nat) : Move :=
  match opened with
  | [] => .stop (.ok form) cursor
  | ⟨opening, items⟩ :: outer => .go ⟨⟨opening, form :: items⟩ :: outer, cursor⟩

def refuse (fault : ReadFault) (position : Position) (cursor : Nat) : Move :=
  .stop (.error ⟨fault, position⟩) cursor

def move (depthLimit : Nat) (token : Token) (opened : List OpenList) (cursor behind : Nat) : Move :=
  match token.kind with
  | .leftParen =>
    if opened.length = depthLimit then refuse .nestingTooDeep token.position cursor
    else .go ⟨⟨token, []⟩ :: opened, behind⟩
  | .rightParen =>
    match opened with
    | [] => refuse (.unexpectedToken token) token.position behind
    | ⟨opening, items⟩ :: outer => place (.list items.reverse opening) outer behind
  | .eof =>
    match opened with
    | [] => refuse (.unexpectedToken token) token.position behind
    | _ :: _ => refuse (.mismatch .rightParen .eof) token.position cursor
  | .special => refuse (.unexpectedToken token) token.position behind
  | .number =>
    match Double.ofNumeral? token.text with
    | some value => place (.atom (.number value) token) opened behind
    | none => refuse (.outOfRange token) token.position behind
  | .string => place (.atom (.string token.text) token) opened behind
  | .symbol => place (.atom (.ofSymbol token.text) token) opened behind

/-- Behind all other tokens the current token is the end token. It can be used up once. -/
def step (reader : Reader) (machine : Machine) : Move :=
  let token := reader.lexemes.getD machine.cursor reader.stop
  let behind :=
    if machine.cursor ≤ reader.lexemes.length then machine.cursor + 1 else machine.cursor
  move reader.depthLimit token machine.opened machine.cursor behind

inductive Leads (reader : Reader) : Machine → Move → Prop
  | step {machine : Machine} : Leads reader machine (machine.step reader)
  | next {machine middle : Machine} {move : Move} : machine.step reader = .go middle →
      Leads reader middle move → Leads reader machine move

namespace Leads

variable {reader : Reader} {machine middle : Machine}

theorem of_step {move : Move} (same : machine.step reader = move) : Leads reader machine move :=
  same ▸ .step

theorem trans {move : Move} {other : Move} (first : Leads reader machine move)
    (goes : move = .go middle) (later : Leads reader middle other) : Leads reader machine other := by
  induction first with
  | step => exact .next goes later
  | next steps _ ih => exact .next steps (ih goes)

theorem stop_unique {first second : Except (Located ReadFault) Form} {cursor other : Nat}
    (stops : Leads reader machine (.stop first cursor))
    (again : Leads reader machine (.stop second other)) : first = second ∧ cursor = other := by
  generalize same : Move.stop first cursor = move at stops
  induction stops with
  | step =>
      generalize still : Move.stop second other = move at again
      cases again with
      | step =>
          cases same.trans still.symm
          exact ⟨rfl, rfl⟩
      | next steps _ => cases same.trans steps
  | next steps _ ih =>
      generalize still : Move.stop second other = move at again
      cases again with
      | step => cases still.trans steps
      | next goes later =>
          cases steps.symm.trans goes
          subst still
          exact ih later same

end Leads

/-- What an outcome of reading an item, or the form itself, means to the machine. -/
def settle (opened : List OpenList) (cursor : Nat) : Except (Located ReadFault) Form → Move
  | .ok form => place form opened cursor
  | .error fault => .stop (.error fault) cursor

def used (reader : Reader) (left : List Token) : Nat :=
  reader.lexemes.length - left.length

variable {reader : Reader} {token : Token} {rest : List Token} {opened : List OpenList}

theorem step_at (here : token :: rest <:+ reader.lexemes) :
    step reader ⟨opened, used reader (token :: rest)⟩ =
      move reader.depthLimit token opened (used reader (token :: rest)) (used reader rest) := by
  obtain ⟨before, same⟩ := here
  have here : used reader (token :: rest) = before.length := by simp [used, ← same]
  have behind : used reader rest = before.length + 1 := by
    simp only [used, ← same, List.length_append, List.length_cons]
    omega
  have current : reader.lexemes.getD before.length reader.stop = token := by simp [← same]
  have inside : before.length ≤ reader.lexemes.length := by simp [← same]
  simp only [step, here, behind, current, inside, if_true]

theorem step_behind {cursor : Nat} (behind : reader.lexemes.length ≤ cursor) :
    step reader ⟨opened, cursor⟩ =
      move reader.depthLimit reader.stop opened cursor (max cursor (reader.lexemes.length + 1)) := by
  have current : reader.lexemes.getD cursor reader.stop = reader.stop := by simp [behind]
  have counted : (if cursor ≤ reader.lexemes.length then cursor + 1 else cursor) =
      max cursor (reader.lexemes.length + 1) := by
    split <;> omega
  simp only [step, current, counted]

theorem move_of_denotes {depthLimit cursor behind : Nat} {value : Atom}
    (denotes : Denotes token value) :
    move depthLimit token opened cursor behind = place (.atom value token) opened behind := by
  cases denotes with
  | number kind found => simp [move, kind, found]
  | string kind => simp [move, kind]
  | true kind same => simp [move, kind, same, Atom.ofSymbol]
  | false kind same => simp [move, kind, same, Atom.ofSymbol]
  | nil kind same => simp [move, kind, same, Atom.ofSymbol]
  | symbol kind other => simp [move, kind, Atom.ofSymbol_of_not_literal other]

theorem move_of_fault {depthLimit cursor behind : Nat} {fault : ReadFault}
    (notOpening : token.kind ≠ .leftParen) (notClosing : opened = [] ∨ token.kind ≠ .rightParen)
    (notLast : opened = [] ∨ token.kind ≠ .eof) (failed : Atom.ofToken token = .error fault) :
    move depthLimit token opened cursor behind = refuse fault token.position behind := by
  cases kind : token.kind with
  | leftParen => exact absurd kind notOpening
  | rightParen =>
      have outermost : opened = [] := notClosing.resolve_right fun other => other kind
      simp only [Atom.ofToken, kind] at failed
      cases failed
      simp only [move, kind, outermost]
  | eof =>
      have outermost : opened = [] := notLast.resolve_right fun other => other kind
      simp only [Atom.ofToken, kind] at failed
      cases failed
      simp only [move, kind, outermost]
  | special =>
      simp only [Atom.ofToken, kind] at failed
      cases failed
      simp only [move, kind]
  | number =>
      cases found : Double.ofNumeral? token.text with
      | some value => simp [Atom.ofToken, kind, found] at failed
      | none =>
          simp only [Atom.ofToken, kind, found] at failed
          cases failed
          simp only [move, kind, found]
  | string => simp [Atom.ofToken, kind] at failed
  | symbol => simp [Atom.ofToken, kind] at failed

mutual

theorem leads_of_readsForm {reader : Reader} (last : reader.stop.kind = .eof)
    (only : ∀ token ∈ reader.lexemes, token.kind ≠ .eof) {depth : Nat} {tokens left : List Token}
    {outcome : Except (Located ReadFault) Form} :
    ReadsForm reader.stop depth tokens outcome left → tokens <:+ reader.lexemes →
      ∀ opened : List OpenList, opened.length + depth = reader.depthLimit →
        (∃ token rest, tokens = token :: rest ∧ (opened = [] ∨ token.kind ≠ .rightParen)) →
          Leads reader ⟨opened, used reader tokens⟩ (settle opened (used reader left) outcome)
  | .ended, _, _, _, starts => by
      obtain ⟨_, _, same, _⟩ := starts
      cases same
  | .tooDeep opening, here, opened, level, _ => by
      apply Leads.of_step
      rw [step_at here]
      simp only [move, opening]
      rw [if_pos (by simpa using level)]
      rfl
  | @ReadsForm.list _ _ token _ _ _ opening items, here, opened, level, _ => by
      -- One list more is open, and one level of depth less is left.
      have further := (List.suffix_cons _ _).trans here
      have inner := leads_of_readsItems last only items further opened token [] (by omega)
      apply Leads.next _ inner
      rw [step_at here]
      simp only [move, opening]
      rw [if_neg (by omega)]
  | @ReadsForm.listFault _ _ token _ _ _ opening items, here, opened, level, _ => by
      have further := (List.suffix_cons _ _).trans here
      have inner := leads_of_readsItems last only items further opened token [] (by omega)
      apply Leads.next _ inner
      rw [step_at here]
      simp only [move, opening]
      rw [if_neg (by omega)]
  | .atom denotes, here, opened, _, _ => by
      apply Leads.of_step
      rw [step_at here, move_of_denotes denotes]
      rfl
  | .atomFault other failed, here, opened, _, starts => by
      obtain ⟨_, _, same, notClosing⟩ := starts
      cases same
      apply Leads.of_step
      rw [step_at here, move_of_fault other notClosing (Or.inr (only _ _)) failed]
      · rfl
      · exact here.subset (by simp)

theorem leads_of_readsItems {reader : Reader} (last : reader.stop.kind = .eof)
    (only : ∀ token ∈ reader.lexemes, token.kind ≠ .eof) {depth : Nat} {tokens left : List Token}
    {outcome : Except (Located ReadFault) (List Form)} :
    ReadsItems reader.stop depth tokens outcome left → tokens <:+ reader.lexemes →
      ∀ (opened : List OpenList) (opening : Token) (done : List Form),
        opened.length + 1 + depth = reader.depthLimit →
          Leads reader ⟨⟨opening, done⟩ :: opened, used reader tokens⟩
            (settle opened (used reader left)
              (outcome.map fun items => .list (done.reverse ++ items) opening))
  | .unclosed, _, opened, opening, done, _ => by
      apply Leads.of_step
      have all : used reader [] = reader.lexemes.length := rfl
      rw [all, step_behind (Nat.le_refl _)]
      simp [move, last, settle, refuse, Except.map]
  | .closed closing, here, opened, opening, done, _ => by
      apply Leads.of_step
      rw [step_at here]
      simp [move, closing, settle, Except.map]
  | @ReadsItems.item _ _ _ _ _ _ item _ other first later, here, opened, opening, done, level => by
      have head := leads_of_readsForm last only first here (⟨opening, done⟩ :: opened) level
        ⟨_, _, rfl, Or.inr other⟩
      have tail := leads_of_readsItems last only later (first.suffix.trans here) opened opening
        (item :: done) level
      -- The item lands on top of those before it, and the list goes on behind it.
      apply head.trans rfl
      simpa [Except.map] using tail
  | .itemFault other first, here, opened, opening, done, level =>
      leads_of_readsForm last only first here (⟨opening, done⟩ :: opened) level
        ⟨_, _, rfl, Or.inr other⟩
  | @ReadsItems.laterFault _ _ _ _ _ _ item _ other first later, here, opened, opening, done, level => by
      have head := leads_of_readsForm last only first here (⟨opening, done⟩ :: opened) level
        ⟨_, _, rfl, Or.inr other⟩
      have tail := leads_of_readsItems last only later (first.suffix.trans here) opened opening
        (item :: done) level
      exact head.trans rfl tail

end

theorem leads_to_next (last : reader.stop.kind = .eof)
    (only : ∀ token ∈ reader.lexemes, token.kind ≠ .eof) :
    Leads reader ⟨[], reader.cursor⟩ (.stop reader.next.1 reader.next.2.cursor) := by
  rcases Reader.next_cases reader with ⟨ended, next⟩ | ⟨more, outcome, left, reads, next⟩
  · -- Only the end token is left, and no list is open.
    have behind : reader.lexemes.length ≤ reader.cursor := List.drop_eq_nil_iff.mp ended
    apply Leads.of_step
    rw [step_behind behind, next]
    simp only [move, last]
    rfl
  · obtain ⟨token, rest, same⟩ := List.exists_cons_of_ne_nil more
    have leads := leads_of_readsForm last only reads reader.pending_suffix [] (Nat.zero_add _)
      ⟨token, rest, same, Or.inl rfl⟩
    rw [used, ← Reader.cursor_eq_of_pending more] at leads
    rw [next]
    cases outcome <;> simpa [settle, place, used] using leads

/-- The machine stops exactly as the reader says, in its outcome and with its cursor. -/
theorem stops_iff_next (last : reader.stop.kind = .eof)
    (only : ∀ token ∈ reader.lexemes, token.kind ≠ .eof)
    (outcome : Except (Located ReadFault) Form) (cursor : Nat) :
    Leads reader ⟨[], reader.cursor⟩ (.stop outcome cursor) ↔
      reader.next = (outcome, { reader with cursor }) := by
  have stops := leads_to_next last only
  constructor
  · intro again
    obtain ⟨rfl, rfl⟩ := again.stop_unique stops
    rfl
  · intro same
    rw [same] at stops
    exact stops

theorem stops_in_open_list :
    Leads ⟨[⟨.leftParen, ['('], ⟨0, 0⟩⟩], .eof ⟨0, 1⟩, 0, 1⟩ ⟨[], 0⟩
      (.stop (.error ⟨.mismatch .rightParen .eof, ⟨0, 1⟩⟩) 1) := by
  have reads : ReadsForm (.eof ⟨0, 1⟩) 1 [⟨.leftParen, ['('], ⟨0, 0⟩⟩]
      (.error ⟨.mismatch .rightParen .eof, ⟨0, 1⟩⟩) [] := .listFault rfl .unclosed
  obtain ⟨outcome, left⟩ := reads.readForm_leaves
  apply (stops_iff_next rfl (by decide) _ _).mpr
  apply Prod.ext outcome
  exact congrArg (fun rest : List Token =>
    Reader.mk [⟨.leftParen, ['('], ⟨0, 0⟩⟩] (.eof ⟨0, 1⟩) (1 - rest.length) 1) left

end Machine

end Sexpr
