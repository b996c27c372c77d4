import Sexpr.Proofs.Form.Linear
/-!
Readings that fail. A fault stands behind the forms that have been read so far, in the lists that are
still open. Main statements: this is how a reading ends in a fault, and there is no other way; and a fault
is that of one of the tokens, or that a list is open where they end.
-/
namespace Sexpr

mutual

/-- How a form fails to be read, from the outermost list to the token at fault. -/
inductive FailsForm (stop : Token) : Nat → List Token → Located ReadFault → Prop
  | ended {depth : Nat} : FailsForm stop depth [] ⟨.unexpectedToken stop, stop.position⟩
  | tooDeep {token : Token} {rest : List Token} : token.kind = .leftParen →
      FailsForm stop 0 (token :: rest) ⟨.nestingTooDeep, token.position⟩
  | inList {depth : Nat} {token : Token} {rest : List Token} {fault : Located ReadFault} :
      token.kind = .leftParen → FailsItems stop depth rest fault →
      FailsForm stop (depth + 1) (token :: rest) fault
  | atom {depth : Nat} {token : Token} {rest : List Token} {fault : ReadFault} :
      token.kind ≠ .leftParen → Atom.ofToken token = .error fault →
      FailsForm stop depth (token :: rest) ⟨fault, token.position⟩

inductive FailsItems (stop : Token) : Nat → List Token → Located ReadFault → Prop
  | unclosed {depth : Nat} :
      FailsItems stop depth [] ⟨.mismatch .rightParen stop.kind, stop.position⟩
  | atItem {depth : Nat} {token : Token} {rest : List Token} {fault : Located ReadFault} :
      token.kind ≠ .rightParen → FailsForm stop depth (token :: rest) fault →
      FailsItems stop depth (token :: rest) fault
  | behindItem {depth : Nat} {item : Form} {spent rest : List Token} {fault : Located ReadFault} :
      Linear item spent → item.depth ≤ depth → FailsItems stop depth rest fault →
      FailsItems stop depth (spent ++ rest) fault

end

theorem ReadsItems.behind_item {stop : Token} {depth : Nat} {item : Form}
    {spent rest left : List Token} {outcome : Except (Located ReadFault) (List Form)}
    (linear : Linear item spent) (shallow : item.depth ≤ depth)
    (later : ReadsItems stop depth rest outcome left) :
    ReadsItems stop depth (spent ++ rest) (outcome.map (item :: ·)) left := by
  have first : ReadsForm stop depth (spent ++ rest) (.ok item) rest := linear.reads shallow rest
  obtain ⟨others, same, notClosing⟩ := linear.exists_cons
  rw [same, List.cons_append] at first ⊢
  cases outcome with
  | error fault => exact .laterFault notClosing first later
  | ok found => exact .item notClosing first later

mutual

theorem ReadsForm.fails {stop : Token} {depth : Nat} {tokens left : List Token}
    {outcome : Except (Located ReadFault) Form} :
    ReadsForm stop depth tokens outcome left → ∀ fault, outcome = .error fault →
      FailsForm stop depth tokens fault
  | .ended, _, same => by
      cases same
      exact .ended
  | .tooDeep opening, _, same => by
      cases same
      exact .tooDeep opening
  | .list _ _, _, same => nomatch same
  | .listFault opening items, _, same => by
      cases same
      exact .inList opening (items.fails _ rfl)
  | .atom _, _, same => nomatch same
  | .atomFault other failed, _, same => by
      cases same
      exact .atom other failed

theorem ReadsItems.fails {stop : Token} {depth : Nat} {tokens left : List Token}
    {outcome : Except (Located ReadFault) (List Form)} :
    ReadsItems stop depth tokens outcome left → ∀ fault, outcome = .error fault →
      FailsItems stop depth tokens fault
  | .unclosed, _, same => by
      cases same
      exact .unclosed
  | .closed _, _, same => nomatch same
  | .item _ _ _, _, same => nomatch same
  | .itemFault other first, _, same => by
      cases same
      exact .atItem other (first.fails _ rfl)
  | .laterFault _ first later, _, same => by
      cases same
      obtain ⟨spent, same, linear, shallow⟩ := first.linear
      rw [same]
      exact .behindItem linear shallow (later.fails _ rfl)

end

mutual

theorem FailsForm.reads {stop : Token} {depth : Nat} {tokens : List Token}
    {fault : Located ReadFault} :
    FailsForm stop depth tokens fault → ∃ left, ReadsForm stop depth tokens (.error fault) left
  | .ended => ⟨_, .ended⟩
  | .tooDeep opening => ⟨_, .tooDeep opening⟩
  | .inList opening items => by
      obtain ⟨left, reads⟩ := items.reads
      exact ⟨left, .listFault opening reads⟩
  | .atom other failed => ⟨_, .atomFault other failed⟩

theorem FailsItems.reads {stop : Token} {depth : Nat} {tokens : List Token}
    {fault : Located ReadFault} :
    FailsItems stop depth tokens fault → ∃ left, ReadsItems stop depth tokens (.error fault) left
  | .unclosed => ⟨_, .unclosed⟩
  | .atItem other first => by
      obtain ⟨left, reads⟩ := first.reads
      exact ⟨left, .itemFault other reads⟩
  | .behindItem linear shallow later => by
      obtain ⟨left, reads⟩ := later.reads
      exact ⟨left, reads.behind_item linear shallow⟩

end

def unclosedAt (stop : Token) : Located ReadFault :=
  ⟨.mismatch .rightParen stop.kind, stop.position⟩

/-- The faults that reading finds at a token, and at its position. -/
inductive FaultOf (token : Token) : Located ReadFault → Prop
  | tooDeep : token.kind = .leftParen → FaultOf token ⟨.nestingTooDeep, token.position⟩
  | atom {fault : ReadFault} : token.kind ≠ .leftParen → Atom.ofToken token = .error fault →
      FaultOf token ⟨fault, token.position⟩

theorem FaultOf.position {token : Token} {fault : Located ReadFault} (faultOf : FaultOf token fault) :
    fault.position = token.position := by
  cases faultOf <;> rfl

def ReadFault.token? : ReadFault → Option Token
  | .unexpectedToken token => some token
  | .outOfRange token => some token
  | _ => none

theorem FaultOf.told {token other : Token} {fault : Located ReadFault} (faultOf : FaultOf token fault)
    (tells : fault.fault.token? = some other) : other = token := by
  cases faultOf with
  | tooDeep _ => cases tells
  | atom _ failed =>
      rcases ofToken_error_cases failed with rfl | rfl
      · exact (Option.some.inj tells).symm
      · exact (Option.some.inj tells).symm

mutual

theorem FailsForm.faultOf {stop : Token} {depth : Nat} {tokens : List Token} {fault : Located ReadFault} :
    FailsForm stop depth tokens fault → tokens ≠ [] →
      (∃ token ∈ tokens, FaultOf token fault) ∨ fault = unclosedAt stop
  | .ended, present => absurd rfl present
  | .tooDeep opening, _ => Or.inl ⟨_, List.mem_cons_self, .tooDeep opening⟩
  | .inList _ items, _ => items.faultOf.imp_left fun ⟨token, member, cause⟩ =>
      ⟨token, List.mem_cons_of_mem _ member, cause⟩
  | .atom other failed, _ => Or.inl ⟨_, List.mem_cons_self, .atom other failed⟩

theorem FailsItems.faultOf {stop : Token} {depth : Nat} {tokens : List Token}
    {fault : Located ReadFault} :
    FailsItems stop depth tokens fault →
      (∃ token ∈ tokens, FaultOf token fault) ∨ fault = unclosedAt stop
  | .unclosed => Or.inr rfl
  | .atItem _ first => first.faultOf (by simp)
  | .behindItem _ _ later => later.faultOf.imp_left fun ⟨token, member, cause⟩ =>
      ⟨token, List.mem_append_right _ member, cause⟩

end

theorem FailsForm.unexpected_mem {stop token : Token} {depth : Nat} {tokens : List Token}
    {fault : Located ReadFault} (fails : FailsForm stop depth tokens fault) (present : tokens ≠ [])
    (unexpected : fault.fault = .unexpectedToken token) : token ∈ tokens := by
  rcases fails.faultOf present with ⟨other, member, faultOf⟩ | rfl
  · have tells : fault.fault.token? = some token := by rw [unexpected, ReadFault.token?]
    rw [faultOf.told tells]
    exact member
  · cases unexpected

end Sexpr
