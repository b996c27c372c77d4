import Sexpr.Proofs.Form.Alike
import Sexpr.Proofs.Form.Reading
/-!
Forms as sequences of tokens. Main statements: what was read is linearised by the tokens used up, and
nests no deeper than allowed; and a form that does not nest too deep is read from its tokens, whatever
follows them. So a text reads as the form whose tokens its lexemes start with.
-/
namespace Sexpr

mutual

/-- The tokens that a form consists of, in order. -/
inductive Linear : Form → List Token → Prop
  | atom {token : Token} {value : Atom} : Denotes token value → Linear (.atom value token) [token]
  | list {token close : Token} {items : List Form} {tokens : List Token} :
      token.kind = .leftParen → close.kind = .rightParen → LinearAll items tokens →
      Linear (.list items token) (token :: (tokens ++ [close]))

inductive LinearAll : List Form → List Token → Prop
  | nil : LinearAll [] []
  | cons {item : Form} {items : List Form} {first later : List Token} : Linear item first →
      LinearAll items later → LinearAll (item :: items) (first ++ later)

end

theorem Denotes.kind_ne_rightParen {token : Token} {value : Atom} (denotes : Denotes token value) :
    token.kind ≠ .rightParen := by
  intro closing
  have found := denotes.ofToken_eq
  simp [Atom.ofToken, closing] at found

theorem Linear.exists_cons {form : Form} {tokens : List Token} (linear : Linear form tokens) :
    ∃ rest, tokens = form.token :: rest ∧ form.token.kind ≠ .rightParen := by
  cases linear with
  | atom denotes => exact ⟨[], rfl, denotes.kind_ne_rightParen⟩
  | list opening _ _ => exact ⟨_, rfl, by simp [Form.token, opening]⟩

theorem Linear.ne_nil {form : Form} {tokens : List Token} (linear : Linear form tokens) : tokens ≠ [] := by
  obtain ⟨rest, same, _⟩ := linear.exists_cons
  simp [same]

mutual

theorem Linear.every {P : Atom → Prop} {form : Form} {tokens : List Token} :
    Linear form tokens → (∀ token ∈ tokens, ∀ value, Denotes token value → P value) → form.Every P
  | .atom denotes, gives => .atom (gives _ (by simp) _ denotes)
  | .list _ _ items, gives =>
      .list (items.every fun token member => gives token (by simp [member]))

theorem LinearAll.every {P : Atom → Prop} {items : List Form} {tokens : List Token} :
    LinearAll items tokens → (∀ token ∈ tokens, ∀ value, Denotes token value → P value) →
      ∀ item ∈ items, item.Every P
  | .nil, _ => nofun
  | .cons first later, gives => by
      have head := first.every fun token member => gives token (by simp [member])
      have rest := later.every fun token member => gives token (by simp [member])
      exact List.forall_mem_cons.mpr ⟨head, rest⟩

end

variable {stop : Token}

mutual

theorem ReadsForm.linear {depth : Nat} {form : Form} {tokens left : List Token} :
    ReadsForm stop depth tokens (.ok form) left →
      ∃ spent, tokens = spent ++ left ∧ Linear form spent ∧ form.depth ≤ depth
  | .atom denotes => ⟨_, rfl, .atom denotes, Nat.zero_le _⟩
  | .list opening items => by
      obtain ⟨spent, close, rfl, closing, linear, shallow⟩ := items.linearAll
      exact ⟨_, by simp, .list opening closing linear, Nat.succ_le_succ shallow⟩

theorem ReadsItems.linearAll {depth : Nat} {items : List Form} {tokens left : List Token} :
    ReadsItems stop depth tokens (.ok items) left →
      ∃ spent close, tokens = spent ++ close :: left ∧ close.kind = .rightParen ∧
        LinearAll items spent ∧ Form.depthAll items ≤ depth
  | .closed closing => ⟨[], _, rfl, closing, .nil, Nat.zero_le _⟩
  | .item _ first later => by
      obtain ⟨firstSpent, firstSame, firstLinear, firstShallow⟩ := first.linear
      obtain ⟨laterSpent, close, rfl, closing, laterLinear, laterShallow⟩ := later.linearAll
      refine ⟨firstSpent ++ laterSpent, close, by simp [firstSame], closing,
        .cons firstLinear laterLinear, ?_⟩
      exact Nat.max_le.mpr ⟨firstShallow, laterShallow⟩

end

mutual

theorem Linear.reads {depth : Nat} {form : Form} {spent : List Token} :
    Linear form spent → form.depth ≤ depth →
      ∀ left, ReadsForm stop depth (spent ++ left) (.ok form) left
  | .atom denotes, _, _ => .atom denotes
  | .list opening closing items, shallow, left => by
      obtain ⟨less, rfl⟩ := Nat.exists_eq_succ_of_ne_zero (Nat.ne_of_gt (Nat.zero_lt_of_lt shallow))
      have inner := items.reads closing (Nat.le_of_succ_le_succ shallow) left
      simpa using ReadsForm.list opening inner

theorem LinearAll.reads {depth : Nat} {items : List Form} {spent : List Token} {close : Token} :
    LinearAll items spent → close.kind = .rightParen → Form.depthAll items ≤ depth →
      ∀ left, ReadsItems stop depth (spent ++ close :: left) (.ok items) left
  | .nil, closing, _, _ => .closed closing
  | @LinearAll.cons _ _ _ laterSpent first later, closing, shallow, left => by
      obtain ⟨firstShallow, laterShallow⟩ := Nat.max_le.mp shallow
      have head := first.reads firstShallow (laterSpent ++ close :: left)
      have rest := later.reads closing laterShallow left
      -- A form does not start with a closing parenthesis, so the list goes on with it.
      obtain ⟨_, same, other⟩ := first.exists_cons
      subst same
      simpa using ReadsItems.item other head rest

end

theorem Form.read_eq_some_iff {depthLimit : Nat} {text : Text} {form : Form} :
    read depthLimit text = .ok (some form) ↔
      ∃ spent left stop, Scan.ofText text = ⟨spent ++ left, .ok stop⟩ ∧ Linear form spent ∧
        form.depth ≤ depthLimit := by
  constructor
  · intro found
    obtain ⟨lexemes, stop, left, scan, reads⟩ := read_eq_some found
    obtain ⟨spent, rfl, linear, shallow⟩ := reads.linear
    exact ⟨spent, left, stop, scan, linear, shallow⟩
  · rintro ⟨spent, left, stop, scan, linear, shallow⟩
    exact read_of_scan scan (by simp [linear.ne_nil]) (linear.reads shallow left)

end Sexpr
