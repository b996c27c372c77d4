import Sexpr.Proofs.Form.Calls
import Sexpr.Proofs.Form.RoundTrip
/-!
Texts that hold several forms. Main statements: a reader in front of the tokens of some forms reads one
form a call and is then at the end; so readable forms that are printed with gaps between them are read
back one by one.
-/
namespace Sexpr

namespace Reader

variable {reader : Reader}

theorem after_succ (reader : Reader) (calls : Nat) :
    reader.after (calls + 1) = reader.next.2.after calls := by
  induction calls with
  | zero => rfl
  | succ calls ih => rw [after, ih, after]

theorem next_of_ended_before {first later : Nat} (order : first ≤ later)
    (ended : (reader.after first).pending = []) :
    (reader.after later).next.1 = .error ⟨.unexpectedToken reader.stop, reader.stop.position⟩ := by
  have used := List.drop_eq_nil_iff.mp ended
  have follows := follows_after reader order
  have still : (reader.after later).pending = [] := by
    rw [pending, follows.lexemes]
    exact List.drop_eq_nil_of_le (used.trans follows.cursor)
  rw [next_of_ended still, (after_follows reader later).stop]

theorem next_of_append {form : Form} {spent left : List Token} (linear : Linear form spent)
    (here : reader.pending = spent ++ left) (shallow : form.depth ≤ reader.depthLimit) :
    reader.next.1 = .ok form ∧ reader.next.2.pending = left := by
  have starts : spent <+: reader.pending := ⟨left, here.symm⟩
  rw [next_of_linear linear starts shallow]
  have behind : reader.pending.drop spent.length = left := by rw [here, List.drop_left]
  rw [pending, List.drop_drop] at behind
  exact ⟨rfl, behind⟩

theorem reads_one_by_one {forms : List Form} {parts : List (List Token)}
    (copied : List.Forall₂ Form.CopiedBy forms parts) (here : reader.pending = parts.flatten)
    (shallow : ∀ form ∈ forms, form.depth ≤ reader.depthLimit) :
    (∀ call form, forms[call]? = some form →
      ∃ copy, (reader.after call).next.1 = .ok copy ∧ Form.Alike (· = ·) copy form) ∧
    (reader.after forms.length).pending = [] := by
  induction copied generalizing reader with
  | nil => exact ⟨by simp, here⟩
  | @cons form spent forms parts head _ ih =>
      obtain ⟨copy, linear, alike⟩ := head
      have enough : copy.depth ≤ reader.depthLimit := by
        rw [alike.depth_eq]
        exact shallow form (by simp)
      have step := next_of_append linear here enough
      have later := ih step.2 fun form member => shallow form (List.mem_cons_of_mem _ member)
      refine ⟨?_, by rw [List.length_cons, after_succ]; exact later.2⟩
      intro call other at_call
      cases call with
      | zero =>
          have same : form = other := by simpa using at_call
          exact ⟨copy, step.1, same ▸ alike⟩
      | succ call =>
          rw [after_succ]
          exact later.1 call other (by simpa using at_call)

end Reader

namespace Form

/-- Readable forms that nest no deeper than allowed, printed one behind another with gaps between them,
are read back call by call, and every call after that finds the end. -/
theorem reads_back_in_sequence (depthLimit : Nat) (forms : List Form) (lead whole trail : Text)
    (readable : ∀ form ∈ forms, form.Readable) (shallow : ∀ form ∈ forms, form.depth ≤ depthLimit)
    (isLead : Gap lead) (spaced : Spaced print forms whole) (isTrail : Gap trail) :
    ∃ reader position, Reader.ofText depthLimit (lead ++ (whole ++ trail)) = .ok reader ∧
      (∀ call form, forms[call]? = some form → ∃ copy, (reader.after call).next.1 = .ok copy ∧
        copy.same form = true ∧ Alike (· = ·) copy form) ∧
      ∀ calls, forms.length ≤ calls →
        (reader.after calls).next.1 = .error ⟨.unexpectedToken (.eof position), position⟩ := by
  have scansAs := spaced.scansAs (fun form member => (readable form member).rescans.scansAs)
    fun _ _ _ => CopiedBy.ne_nil
  obtain ⟨tokens, position, ⟨parts, rfl, copied⟩, scan⟩ :=
    Scan.ofText_between_gaps scansAs isLead isTrail
  have opened : Reader.ofText depthLimit (lead ++ (whole ++ trail)) =
      .ok ⟨parts.flatten, .eof position, 0, depthLimit⟩ := by
    rw [Reader.ofText, Reader.ofScan, scan]
  have here : Reader.pending ⟨parts.flatten, .eof position, 0, depthLimit⟩ = parts.flatten := rfl
  have calls := Reader.reads_one_by_one copied here shallow
  refine ⟨_, position, opened, ?_, ?_⟩
  · intro call form at_call
    obtain ⟨copy, found, alike⟩ := calls.1 call form at_call
    have member : form ∈ forms := List.mem_of_getElem? at_call
    exact ⟨copy, found, (readable form member).same_of_alike alike, alike⟩
  · intro count enough
    exact Reader.next_of_ended_before enough calls.2

theorem string_behind_list_read_back :
    ∃ reader copy, Reader.ofText 1 "();)\n\"(\"".toList = .ok reader ∧
      (reader.after 1).next.1 = .ok copy ∧
      copy.same (.atom (.string "\"(\"".toList) (.eof .start)) = true := by
  have comment : Gap (';' :: ([')'] ++ '\n' :: [])) := .comment (by decide) .empty
  have body : StringBody ['(', '"'] := .plain (by decide) (by decide) .close
  have readable : ∀ form ∈ [list [] (.eof .start), .atom (.string "\"(\"".toList) (.eof .start)],
      form.Readable := by
    intro form member
    rcases List.mem_pair.mp member with rfl | rfl
    · exact .list (by simp)
    · exact .atom (.string body)
  obtain ⟨reader, _, opened, reads, _⟩ := reads_back_in_sequence 1 _ [] _ [] readable (by decide) .empty
    (.more comment (by simp) .one) .empty
  obtain ⟨copy, found, same, _⟩ := reads 1 _ rfl
  exact ⟨reader, copy, opened, found, same⟩

end Form

end Sexpr
