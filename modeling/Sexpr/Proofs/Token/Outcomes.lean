import Mathlib.Order.Bounds.Defs
import Sexpr.Proofs.Token.Continuation
/-!
Asking one scanner for token after token, without an end. Main statements: behind the tokens of a text,
no more than it has characters, a scanner finds the end token for ever, or one stray character for ever, or
an open string once and then the end token for ever; and a scan holds these outcomes up to the first end
token or fault.
-/
namespace Sexpr

namespace Scanner

def outcome (scanner : Scanner) (count : Nat) : Except (Located ScanFault) Token :=
  (scanner.afterSteps count).next.1

theorem outcome_zero (scanner : Scanner) : scanner.outcome 0 = scanner.next.1 := rfl

theorem outcome_succ (scanner : Scanner) (count : Nat) :
    scanner.outcome (count + 1) = scanner.next.2.outcome count := rfl

variable {scanner after last : Scanner} {tokens : List Token}

theorem outcome_of_still (still : scanner.next.2 = scanner) (count : Nat) :
    scanner.outcome count = scanner.next.1 := by
  induction count with
  | zero => rfl
  | succ count ih => rw [outcome_succ, still, ih]

namespace Yields

theorem outcome_getElem (yields : Yields scanner tokens last) {count : Nat} (inside : count < tokens.length) :
    scanner.outcome count = .ok tokens[count] := by
  induction yields generalizing count with
  | done => exact absurd inside (Nat.not_lt_zero count)
  | found found _ _ ih =>
      cases count with
      | zero => rw [outcome_zero, found, List.getElem_cons_zero]
      | succ count =>
          rw [outcome_succ, found, List.getElem_cons_succ]
          exact ih (Nat.lt_of_succ_lt_succ inside)

theorem outcome_add (yields : Yields scanner tokens last) (count : Nat) :
    scanner.outcome (tokens.length + count) = last.outcome count := by
  induction yields with
  | done => rw [List.length_nil, Nat.zero_add]
  | found found _ _ ih => rw [List.length_cons, Nat.add_right_comm, outcome_succ, found, ih]

theorem length_le (yields : Yields scanner tokens last) :
    tokens.length + last.rest.length ≤ scanner.rest.length := by
  induction yields with
  | done => exact Nat.le_of_eq (Nat.zero_add _)
  | found found more _ ih =>
      have shorter := next_shorter found more
      rw [List.length_cons]
      omega

end Yields

inductive Fate where
  | finished
  | stray
  | openString

/-- The outcomes from there on. A stray character, or the quote that opens a string, stands where it is
found. -/
def Fate.Shows (text : Text) (outcome : Nat → Except (Located ScanFault) Token) : Fate → Prop
  | .finished => ∀ count, outcome count = .ok (.eof (.through .start text))
  | .stray => ∃ before c beyond, text = before ++ c :: beyond ∧ Stray c ∧
      ∀ count, outcome count = .error ⟨.unexpectedChar c, .through .start before⟩
  | .openString => ∃ before body, text = before ++ '"' :: body ∧ OpenString body ∧
      outcome 0 = .error ⟨.unterminatedString, .through .start before⟩ ∧
      ∀ count, outcome (count + 1) = .ok (.eof (.through .start text))

def Fate.ofOutcome : Except (Located ScanFault) Token → Fate
  | .ok _ => .finished
  | .error ⟨.unexpectedChar _, _⟩ => .stray
  | .error ⟨.unterminatedString, _⟩ => .openString

theorem Fate.Shows.eq_ofOutcome {text : Text} {outcome : Nat → Except (Located ScanFault) Token}
    {fate : Fate} (shows : fate.Shows text outcome) : fate = .ofOutcome (outcome 0) := by
  cases fate with
  | finished => rw [shows 0, ofOutcome]
  | stray =>
      obtain ⟨_, _, _, _, _, again⟩ := shows
      rw [again 0, ofOutcome]
  | openString =>
      obtain ⟨_, _, _, _, first, _⟩ := shows
      rw [first, ofOutcome]

theorem outcome_at_end (position : Position) (count : Nat) :
    outcome ⟨[], position⟩ count = .ok (.eof position) := by
  have ended : next ⟨[], position⟩ = (.ok (.eof position), ⟨[], position⟩) :=
    next_finished (.closed .empty) position
  have still : (next ⟨[], position⟩).2 = ⟨[], position⟩ := congrArg Prod.snd ended
  rw [outcome_of_still still, ended]

theorem outcome_at_stray {c : Char} (isStray : Stray c) (beyond : Text) (position : Position)
    (count : Nat) : outcome ⟨c :: beyond, position⟩ count = .error ⟨.unexpectedChar c, position⟩ := by
  have found : next ⟨c :: beyond, position⟩ =
      (.error ⟨.unexpectedChar c, position⟩, ⟨c :: beyond, position⟩) :=
    next_stray .empty isStray beyond position
  have still : (next ⟨c :: beyond, position⟩).2 = ⟨c :: beyond, position⟩ := congrArg Prod.snd found
  rw [outcome_of_still still, found]

theorem exists_fate {before text : Text}
    (concludes : ∀ token, (next ⟨text, .through .start before⟩).1 = .ok token → token.kind = .eof) :
    ∃ fate : Fate, fate.Shows (before ++ text) (outcome ⟨text, .through .start before⟩) := by
  have step := next_step ⟨text, .through .start before⟩
  have first := outcome_zero ⟨text, .through .start before⟩
  have later := outcome_succ ⟨text, .through .start before⟩
  generalize outcome ⟨text, .through .start before⟩ = outcomes at first later ⊢
  generalize next ⟨text, .through .start before⟩ = found at concludes step first later
  obtain ⟨found, after⟩ := found
  simp only at concludes step first later
  -- Every step but that of a token leads to a scanner that the next step leaves as it is.
  cases step with
  | @finished gap _ _ =>
      refine ⟨.finished, ?_⟩
      rw [← Position.through_append] at first later
      intro count
      cases count with
      | zero => exact first
      | succ count => rw [later, outcome_at_end]
  | lexeme _ isLexeme => exact absurd (concludes _ rfl) isLexeme.kind_ne_eof
  | @openString gap body _ _ isOpen =>
      refine ⟨.openString, before ++ gap, body, by simp, isOpen, ?_, ?_⟩
      · rw [first, Position.through_append]
      · intro count
        rw [later, outcome_at_end]
        simp only [Position.through_append]
  | @stray gap beyond c _ _ isStray =>
      refine ⟨.stray, before ++ gap, c, beyond, by simp, isStray, ?_⟩
      rw [← Position.through_append] at first later
      intro count
      cases count with
      | zero => exact first
      | succ count => rw [later, outcome_at_stray isStray]

def Concludes (outcome : Except (Located ScanFault) Token) : Prop :=
  ∀ token, outcome = .ok token → token.kind = .eof

theorem Yields.isLeast_concludes (yields : Yields scanner tokens last)
    (concludes : Concludes last.next.1) :
    IsLeast {count | Concludes (scanner.outcome count)} tokens.length := by
  constructor
  · have here := yields.outcome_add 0
    rw [Nat.add_zero, outcome_zero] at here
    change Concludes (scanner.outcome tokens.length)
    rw [here]
    exact concludes
  · intro count concluded
    by_contra short
    have inside := Nat.lt_of_not_le short
    exact yields.kind_ne_eof _ (List.getElem_mem inside) (concluded _ (yields.outcome_getElem inside))

theorem Yields.map_outcome (yields : Yields scanner tokens last) :
    (List.range (tokens.length + 1)).map scanner.outcome = tokens.map .ok ++ [last.next.1] := by
  have behind := yields.outcome_add 0
  rw [Nat.add_zero, outcome_zero] at behind
  rw [List.range_succ, List.map_append, List.map_singleton, behind]
  congr 1
  apply List.ext_getElem (by simp)
  intro count _ inside
  simp [yields.outcome_getElem (by simpa using inside)]

end Scanner

namespace Scan

open Scanner (Concludes Fate)

theorem eq_last_of_concludes {scan : Scan} (lexemes : ∀ token ∈ scan.lexemes, token.kind ≠ .eof)
    {count : Nat} {item : Except (Located ScanFault) Token} (here : scan.items[count]? = some item)
    (concludes : Concludes item) : count + 1 = scan.items.length := by
  have inside : count < scan.items.length := (List.getElem?_eq_some_iff.mp here).1
  simp only [items, List.length_append, List.length_map, List.length_singleton] at inside ⊢
  rcases Nat.lt_or_eq_of_le (Nat.le_of_lt_succ inside) with before | same
  · rw [items, List.getElem?_append_left (by simpa using before), List.getElem?_map,
      List.getElem?_eq_getElem before] at here
    have token : item = .ok scan.lexemes[count] := (Option.some.inj here).symm
    exact absurd (concludes _ token) (lexemes _ (List.getElem_mem before))
  · rw [same]

/-- A scanner that is asked for ever finds tokens, no more than the text has characters, and is then past
its last token: from there on it finds the end token for ever, or one stray character for ever, or an open
string and then the end token for ever. A scan holds what is found up to the first end token or fault, and
nothing behind that. -/
theorem outcomes_settle (text : Text) :
    ∃ lexemes : List Token, lexemes.length ≤ text.length ∧ (∀ token ∈ lexemes, token.kind ≠ .eof) ∧
      (∀ count (inside : count < lexemes.length),
        (Scanner.ofText text).outcome count = .ok lexemes[count]) ∧
      (∃! fate : Fate, fate.Shows text fun count =>
        (Scanner.ofText text).outcome (lexemes.length + count)) ∧
      IsLeast {count | Concludes ((Scanner.ofText text).outcome count)} lexemes.length ∧
      (ofText text).items =
        (List.range (lexemes.length + 1)).map (Scanner.ofText text).outcome ∧
      (∀ count item, (ofText text).items[count]? = some item → Concludes item →
        count + 1 = (ofText text).items.length) ∧
      (ofText text).items.length ≤ text.length + 1 := by
  obtain ⟨covered, rest, same, _, yields, ending, concludes⟩ := ofText_stops text
  rw [← ending] at concludes
  have few : (ofText text).lexemes.length ≤ text.length := Nat.le_of_add_right_le yields.length_le
  refine ⟨(ofText text).lexemes, few, yields.kind_ne_eof, fun count => yields.outcome_getElem, ?_,
    yields.isLeast_concludes concludes, ?_, ?_, ?_⟩
  · obtain ⟨fate, shows⟩ := Scanner.exists_fate concludes
    rw [← same, ← funext yields.outcome_add] at shows
    exact ⟨fate, shows, fun other again => again.eq_ofOutcome.trans shows.eq_ofOutcome.symm⟩
  · rw [yields.map_outcome, ending, items]
  · exact fun count item => eq_last_of_concludes yields.kind_ne_eof
  · simp only [items, List.length_append, List.length_map, List.length_singleton]
    exact Nat.succ_le_succ few

theorem outcomes_settle_at_stray :
    ∀ count, (Scanner.ofText "(/".toList).outcome (1 + count) = .error ⟨.unexpectedChar '/', ⟨0, 1⟩⟩ := by
  have two : (ofText "(/".toList).items.length = 2 := by decide +kernel
  have stray : (Scanner.ofText "(/".toList).outcome 1 = .error ⟨.unexpectedChar '/', ⟨0, 1⟩⟩ := by
    decide +kernel
  obtain ⟨lexemes, _, _, _, ⟨fate, shows, _⟩, _, same, _⟩ := outcomes_settle "(/".toList
  have one : lexemes.length = 1 := by
    have counted := congrArg List.length same
    rw [two, List.length_map, List.length_range] at counted
    omega
  rw [one] at shows
  have isStray := shows.eq_ofOutcome
  rw [stray] at isStray
  subst isStray
  obtain ⟨before, c, beyond, _, _, again⟩ := shows
  intro count
  exact (again count).trans ((again 0).symm.trans stray)

end Scan

end Sexpr
