import Sexpr.Proofs.Form.Linear
/-!
The grammar of forms and the reader. Main statements: no tokens start with the linearisations of two
forms; the tokens that a form carries are those of its linearisation without the closing parentheses; and
the reader reads a form exactly where a linearisation of it stands and its lists are not too deep.
-/
namespace Sexpr

/-- The tokens that a form and the forms inside of it carry, in the order of the text. -/
def Form.carried (form : Form) : List Token :=
  (form.outline 0).map fun part => part.2.token

mutual

theorem Linear.outline_tokens {form : Form} {spent : List Token} :
    Linear form spent → ∀ depth,
      (form.outline depth).map (fun part => part.2.token) = spent.filter (·.kind ≠ .rightParen)
  | .atom denotes, _ => by simp [Form.outline, denotes.kind_ne_rightParen]
  | .list opening closing items, depth => by
      simp [Form.outline, opening, closing, items.outline_tokens (depth + 1)]

theorem LinearAll.outline_tokens {items : List Form} {spent : List Token} :
    LinearAll items spent → ∀ depth,
      (Form.outlineAll depth items).map (fun part => part.2.token) =
        spent.filter (·.kind ≠ .rightParen)
  | .nil, _ => rfl
  | .cons first later, depth => by
      simp [Form.outlineAll, first.outline_tokens depth, later.outline_tokens depth]

end

namespace Linear

variable {form other : Form} {spent otherSpent tokens : List Token}

theorem carried_eq (linear : Linear form spent) :
    form.carried = spent.filter (·.kind ≠ .rightParen) :=
  linear.outline_tokens 0

theorem length_pos (linear : Linear form spent) : 0 < spent.length :=
  List.length_pos_of_ne_nil linear.ne_nil

theorem unique (linear : Linear form spent) (otherLinear : Linear other otherSpent)
    (starts : spent <+: tokens) (otherStarts : otherSpent <+: tokens) :
    form = other ∧ spent = otherSpent := by
  obtain ⟨left, rfl⟩ := starts
  obtain ⟨otherLeft, same⟩ := otherStarts
  have reads : ReadsForm (.eof .start) (max form.depth other.depth) (spent ++ left) (.ok form) left :=
    linear.reads (Nat.le_max_left _ _) left
  have otherReads : ReadsForm (.eof .start) (max form.depth other.depth) (otherSpent ++ otherLeft)
      (.ok other) otherLeft :=
    otherLinear.reads (Nat.le_max_right _ _) otherLeft
  rw [same] at otherReads
  obtain ⟨outcome, rest⟩ := reads.readForm_leaves
  obtain ⟨otherOutcome, otherRest⟩ := otherReads.readForm_leaves
  rw [outcome] at otherOutcome
  rw [rest] at otherRest
  cases otherOutcome
  cases otherRest
  exact ⟨rfl, (List.append_cancel_right same).symm⟩

end Linear

namespace Reader

variable {reader : Reader} {form : Form} {spent : List Token}

theorem pending_ne_nil_of_linear (linear : Linear form spent) (starts : spent <+: reader.pending) :
    reader.pending ≠ [] := by
  intro ended
  rw [ended, List.prefix_nil] at starts
  have present := linear.length_pos
  simp [starts] at present

theorem next_of_linear (linear : Linear form spent) (starts : spent <+: reader.pending)
    (shallow : form.depth ≤ reader.depthLimit) :
    reader.next = (.ok form, { reader with cursor := reader.cursor + spent.length }) := by
  have more := pending_ne_nil_of_linear linear starts
  obtain ⟨left, same⟩ := starts
  have reads : ReadsForm reader.stop reader.depthLimit reader.pending (.ok form) left := by
    rw [← same]
    exact linear.reads shallow left
  have counted : reader.lexemes.length - left.length = reader.cursor + spent.length := by
    have all := congrArg List.length same
    have inside := (not_congr List.drop_eq_nil_iff).mp more
    simp only [pending, List.length_append, List.length_drop] at all
    omega
  rw [next_of_reads more reads, counted]

theorem linear_of_next (found : reader.next.1 = .ok form) :
    ∃ spent, spent <+: reader.pending ∧ Linear form spent ∧ form.depth ≤ reader.depthLimit := by
  rcases next_cases reader with ⟨_, next⟩ | ⟨_, outcome, left, reads, next⟩ <;> rw [next] at found
  · cases found
  · cases found
    obtain ⟨spent, same, linear, shallow⟩ := reads.linear
    exact ⟨spent, ⟨left, same.symm⟩, linear, shallow⟩

theorem cursor_add_le (linear : Linear form spent) (starts : spent <+: reader.pending) :
    reader.cursor + spent.length ≤ reader.lexemes.length := by
  have counted := starts.length_le
  have present := linear.length_pos
  simp only [pending, List.length_drop] at counted
  omega

/-- The reader reads the one form whose linearisation stands at the cursor, if there is one and its lists
nest no deeper than allowed. It uses up this linearisation, at least one token and never the end token;
and the tokens go into the form one by one, but for the closing parentheses. -/
theorem reads_exactly_linear (reader : Reader) :
    (∀ form, reader.next.1 = .ok form ↔
      ∃ spent, spent <+: reader.pending ∧ Linear form spent ∧ form.depth ≤ reader.depthLimit) ∧
    (∀ form spent, spent <+: reader.pending → Linear form spent → form.depth ≤ reader.depthLimit →
      reader.next = (.ok form, { reader with cursor := reader.cursor + spent.length }) ∧
        1 ≤ spent.length ∧ reader.cursor + spent.length ≤ reader.lexemes.length ∧
        form.carried = spent.filter (·.kind ≠ .rightParen)) ∧
    (∀ form other spent otherSpent, spent <+: reader.pending → otherSpent <+: reader.pending →
      Linear form spent → Linear other otherSpent → form = other ∧ spent = otherSpent) := by
  refine ⟨?_, ?_, ?_⟩
  · intro form
    constructor
    · exact linear_of_next
    · rintro ⟨spent, starts, linear, shallow⟩
      rw [next_of_linear linear starts shallow]
  · intro form spent starts linear shallow
    exact ⟨next_of_linear linear starts shallow, linear.length_pos, cursor_add_le linear starts,
      linear.carried_eq⟩
  · intro form other spent otherSpent starts otherStarts linear otherLinear
    exact linear.unique otherLinear starts otherStarts

theorem reads_empty_list :
    (⟨[⟨.symbol, ['a'], ⟨0, 0⟩⟩, ⟨.leftParen, ['('], ⟨0, 1⟩⟩, ⟨.rightParen, [')'], ⟨0, 2⟩⟩,
        ⟨.symbol, ['b'], ⟨0, 3⟩⟩], .eof ⟨0, 4⟩, 1, 1⟩ : Reader).next.1 =
      .ok (.list [] ⟨.leftParen, ['('], ⟨0, 1⟩⟩) := by
  apply ((reads_exactly_linear _).1 _).mpr
  exact ⟨[⟨.leftParen, ['('], ⟨0, 1⟩⟩, ⟨.rightParen, [')'], ⟨0, 2⟩⟩], ⟨_, rfl⟩,
    .list rfl rfl .nil, by decide⟩

end Reader

end Sexpr
