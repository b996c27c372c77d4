import Mathlib.Data.List.Nodup
import Sexpr.Proofs.Form.Failing
import Sexpr.Proofs.Form.Grammar
import Sexpr.Proofs.Token.Layout
/-!
Asking one reader for form after form, going on after faults. Main statements: every call uses up the
tokens behind those of the call before, at least one of them unless no list may be opened; so no token
gets into two forms, and after as many calls as there are tokens only the end token is found.
-/
namespace Sexpr

theorem ReadsForm.uses_up {stop token : Token} {depth : Nat} {rest left : List Token}
    {outcome : Except (Located ReadFault) Form}
    (reads : ReadsForm stop depth (token :: rest) outcome left) :
    left <:+ rest ∨ (depth = 0 ∧ token.kind = .leftParen) := by
  cases reads with
  | tooDeep opening => exact Or.inr ⟨rfl, opening⟩
  | list _ items => exact Or.inl items.suffix
  | listFault _ items => exact Or.inl items.suffix
  | atom _ => exact Or.inl List.suffix_rfl
  | atomFault _ _ => exact Or.inl List.suffix_rfl

namespace Scan

variable {text : Text} {lexemes : List Token} {stop : Token}

theorem lexemes_nodup (text : Text) : (ofText text).lexemes.Nodup := by
  obtain ⟨covered, tail, _, laidOut, _⟩ := covers text
  refine laidOut.pairwise.imp ?_
  rintro first second before rfl
  exact before.ne rfl

theorem eof_only_last (scan : ofText text = ⟨lexemes, .ok stop⟩) :
    stop.kind = .eof ∧ ∀ token ∈ lexemes, token.kind ≠ .eof := by
  obtain ⟨last, yields, _, closed⟩ := ofText_run text
  rw [scan] at yields closed
  exact ⟨closed stop rfl, yields.kind_ne_eof⟩

end Scan

namespace Reader

def tokens (reader : Reader) : List Token :=
  reader.lexemes ++ [reader.stop]

def slice (reader : Reader) : List Token :=
  (reader.tokens.take reader.next.2.cursor).drop reader.cursor

def after (reader : Reader) : Nat → Reader
  | 0 => reader
  | calls + 1 => (reader.after calls).next.2

/-- Only the cursor has moved, and only forwards. -/
structure Follows (first now : Reader) : Prop where
  lexemes : now.lexemes = first.lexemes
  stop : now.stop = first.stop
  depthLimit : now.depthLimit = first.depthLimit
  cursor : first.cursor ≤ now.cursor

namespace Follows

variable {first middle now : Reader}

theorem refl (reader : Reader) : Follows reader reader :=
  ⟨rfl, rfl, rfl, Nat.le_refl _⟩

theorem trans (follows : Follows first middle) (later : Follows middle now) : Follows first now :=
  ⟨later.lexemes.trans follows.lexemes, later.stop.trans follows.stop,
    later.depthLimit.trans follows.depthLimit, Nat.le_trans follows.cursor later.cursor⟩

theorem tokens (follows : Follows first now) : now.tokens = first.tokens := by
  rw [Reader.tokens, follows.lexemes, follows.stop, Reader.tokens]

theorem isEmpty_iff (follows : Follows first now) : now.isEmpty = true ↔ first.lexemes = [] := by
  rw [isEmpty, follows.lexemes, List.isEmpty_iff]

end Follows

variable {reader : Reader}

theorem follows_next (reader : Reader) : Follows reader reader.next.2 := by
  refine ⟨rfl, rfl, rfl, ?_⟩
  rcases next_cases reader with ⟨_, next⟩ | ⟨more, outcome, left, reads, next⟩ <;> rw [next]
  · exact Nat.le_max_left _ _
  · rw [cursor_eq_of_pending more]
    exact Nat.sub_le_sub_left reads.suffix.length_le _

theorem next_cursor_le (within : reader.cursor ≤ reader.tokens.length) :
    reader.next.2.cursor ≤ reader.tokens.length := by
  simp only [tokens, List.length_append, List.length_singleton] at within ⊢
  rcases next_cases reader with ⟨_, next⟩ | ⟨_, outcome, left, _, next⟩ <;> rw [next]
  · exact Nat.max_le.mpr ⟨within, Nat.le_refl _⟩
  · exact Nat.le_trans (Nat.sub_le _ _) (Nat.le_succ _)

theorem cursor_lt_next {token : Token} {rest : List Token} (here : reader.pending = token :: rest) :
    reader.cursor < reader.next.2.cursor ∨ (reader.depthLimit = 0 ∧ token.kind = .leftParen) := by
  rcases next_cases reader with ⟨ended, _⟩ | ⟨more, outcome, left, reads, next⟩
  · simp [ended] at here
  · have inside := (pending_suffix reader).length_le
    rw [next, cursor_eq_of_pending more]
    rw [here] at reads inside ⊢
    refine reads.uses_up.imp_left ?_
    intro suffix
    have fewer : left.length < (token :: rest).length := Nat.lt_succ_of_le suffix.length_le
    exact Nat.sub_lt_sub_left (Nat.lt_of_lt_of_le fewer inside) fewer

theorem next_stuck {token : Token} {rest : List Token} (here : reader.pending = token :: rest)
    (flat : reader.depthLimit = 0) (opening : token.kind = .leftParen) :
    reader.next = (.error ⟨.nestingTooDeep, token.position⟩, reader) := by
  have more : reader.pending ≠ [] := by simp [here]
  have reads : ReadsForm reader.stop reader.depthLimit reader.pending
      (.error ⟨.nestingTooDeep, token.position⟩) reader.pending := by
    rw [here, flat]
    exact .tooDeep opening
  rw [next_of_reads more reads, ← cursor_eq_of_pending more]

theorem after_of_stuck (stuck : reader.next.2 = reader) (calls : Nat) :
    reader.after calls = reader := by
  induction calls with
  | zero => rfl
  | succ calls ih => rw [after, ih, stuck]

theorem follows_after (reader : Reader) {first later : Nat} (order : first ≤ later) :
    Follows (reader.after first) (reader.after later) := by
  induction order with
  | refl => exact .refl _
  | step _ ih => exact ih.trans (follows_next _)

theorem after_follows (reader : Reader) (calls : Nat) : Follows reader (reader.after calls) :=
  follows_after reader (Nat.zero_le calls)

theorem after_cursor_le (within : reader.cursor ≤ reader.tokens.length) (calls : Nat) :
    (reader.after calls).cursor ≤ (reader.after calls).tokens.length := by
  induction calls with
  | zero => exact within
  | succ calls ih =>
      have bounded := next_cursor_le ih
      rwa [← (follows_next (reader.after calls)).tokens] at bounded

theorem min_le_after_cursor (deep : 1 ≤ reader.depthLimit) (calls : Nat) :
    min calls reader.lexemes.length ≤ (reader.after calls).cursor := by
  induction calls with
  | zero => simp
  | succ calls ih =>
      have follows := after_follows reader calls
      have forwards := (follows_next (reader.after calls)).cursor
      change _ ≤ (reader.after calls).next.2.cursor
      cases here : (reader.after calls).pending with
      | nil =>
          have ended := List.drop_eq_nil_iff.mp here
          rw [follows.lexemes] at ended
          exact Nat.le_trans (Nat.min_le_right _ _) (Nat.le_trans ended forwards)
      | cons token rest =>
          rcases cursor_lt_next here with further | ⟨flat, _⟩
          · omega
          · rw [follows.depthLimit] at flat
            exact absurd flat (Nat.ne_of_gt deep)

theorem next_after_all (deep : 1 ≤ reader.depthLimit) {calls : Nat}
    (enough : reader.lexemes.length ≤ calls) :
    (reader.after calls).next.1 = .error ⟨.unexpectedToken reader.stop, reader.stop.position⟩ := by
  have follows := after_follows reader calls
  have used := min_le_after_cursor deep calls
  rw [Nat.min_eq_right enough] at used
  have ended : (reader.after calls).pending = [] := by
    rw [pending, follows.lexemes]
    exact List.drop_eq_nil_of_le used
  rw [next_of_ended ended, follows.stop]

theorem flatMap_slice (start : reader.cursor = 0) (calls : Nat) :
    ((List.range calls).flatMap fun call => (reader.after call).slice) =
      reader.tokens.take (reader.after calls).cursor := by
  induction calls with
  | zero => simp [after, start]
  | succ calls ih =>
      have forwards := (follows_next (reader.after calls)).cursor
      have parts := List.take_append_drop (reader.after calls).cursor
        (reader.tokens.take (reader.after calls).next.2.cursor)
      rw [List.take_take, Nat.min_eq_left forwards] at parts
      rw [List.range_succ, List.flatMap_append, ih, List.flatMap_singleton, slice,
        (after_follows reader calls).tokens]
      exact parts

theorem slice_disjoint (distinct : reader.tokens.Nodup) {first later : Nat} (order : first < later) :
    (reader.after first).slice.Disjoint (reader.after later).slice := by
  intro token inFirst inLater
  have behind := follows_after reader (Nat.succ_le_of_lt order)
  rw [slice, (after_follows reader _).tokens] at inFirst inLater
  apply List.disjoint_take_drop distinct (Nat.le_refl (reader.after later).cursor)
  · exact List.take_subset_take_left _ behind.cursor (List.mem_of_mem_drop inFirst)
  · exact ((List.take_sublist _ _).drop _).subset inLater

theorem slice_of_linear {form : Form} {spent : List Token} (linear : Linear form spent)
    (starts : spent <+: reader.pending) (shallow : form.depth ≤ reader.depthLimit) :
    reader.slice = spent := by
  have inside := Nat.le_of_add_right_le (cursor_add_le linear starts)
  rw [slice, next_of_linear linear starts shallow, List.drop_take, Nat.add_sub_cancel_left, tokens,
    List.drop_append_of_le_length inside]
  exact (List.prefix_iff_eq_take.mp (starts.trans (List.prefix_append _ _))).symm

theorem carried_subset_slice {form : Form} (found : reader.next.1 = .ok form) :
    form.carried ⊆ reader.slice := by
  obtain ⟨spent, starts, linear, shallow⟩ := linear_of_next found
  rw [linear.carried_eq, slice_of_linear linear starts shallow]
  exact List.filter_subset_self _

variable {depthLimit : Nat} {text : Text}

theorem ofText_eq_ok (opened : ofText depthLimit text = .ok reader) :
    Scan.ofText text = ⟨reader.lexemes, .ok reader.stop⟩ ∧ reader.cursor = 0 ∧
      reader.depthLimit = depthLimit := by
  rw [ofText, ofScan] at opened
  rcases scan : Scan.ofText text with ⟨lexemes, fault | stop⟩ <;> rw [scan] at opened
  · cases opened
  · cases opened
    exact ⟨rfl, rfl, rfl⟩

theorem tokens_nodup (opened : ofText depthLimit text = .ok reader) : reader.tokens.Nodup := by
  obtain ⟨scan, _, _⟩ := ofText_eq_ok opened
  obtain ⟨last, others⟩ := Scan.eof_only_last scan
  have distinct := Scan.lexemes_nodup text
  rw [scan] at distinct
  apply List.nodup_append.mpr
  refine ⟨distinct, List.nodup_singleton _, ?_⟩
  rintro token member stop ending rfl
  rw [List.mem_singleton.mp ending] at member
  exact others _ member last

/-- What holds of a reader after any calls, `first` being the reader before all of them. -/
structure Orderly (depthLimit : Nat) (first now : Reader) : Prop where
  tokens : now.tokens = first.tokens
  last : now.stop.kind = .eof
  others : ∀ token ∈ now.lexemes, token.kind ≠ .eof
  forwards : now.cursor ≤ now.next.2.cursor
  within : now.cursor ≤ now.tokens.length
  isEmpty : now.isEmpty = true ↔ first.lexemes = []
  progress : ∀ token rest, now.pending = token :: rest →
    now.cursor < now.next.2.cursor ∨ (depthLimit = 0 ∧ token.kind = .leftParen)
  stuck : ∀ token rest, now.pending = token :: rest → depthLimit = 0 → token.kind = .leftParen →
    ∀ more, (now.after more).next = (.error ⟨.nestingTooDeep, token.position⟩, now)

theorem orderly_after (opened : ofText depthLimit text = .ok reader) (calls : Nat) :
    Orderly depthLimit reader (reader.after calls) := by
  obtain ⟨scan, start, rfl⟩ := ofText_eq_ok opened
  obtain ⟨last, others⟩ := Scan.eof_only_last scan
  have follows := after_follows reader calls
  constructor
  case tokens => exact follows.tokens
  case last => exact follows.stop.symm ▸ last
  case others => exact follows.lexemes.symm ▸ others
  case forwards => exact (follows_next _).cursor
  case within => exact after_cursor_le (by simp [start]) calls
  case isEmpty => exact follows.isEmpty_iff
  case progress =>
    intro token rest here
    rw [← follows.depthLimit]
    exact cursor_lt_next here
  case stuck =>
    intro token rest here flat opening more
    have stuck := next_stuck here (follows.depthLimit.trans flat) opening
    have stays : (reader.after calls).next.2 = reader.after calls := congrArg Prod.snd stuck
    rw [after_of_stuck stays, stuck]

theorem carried_disjoint (opened : ofText depthLimit text = .ok reader) {first later : Nat}
    (order : first < later) {form other : Form} (found : (reader.after first).next.1 = .ok form)
    (foundLater : (reader.after later).next.1 = .ok other) : form.carried.Disjoint other.carried := by
  have apart := slice_disjoint (tokens_nodup opened) order
  intro token inForm inOther
  exact apart (carried_subset_slice found inForm) (carried_subset_slice foundLater inOther)

end Reader

theorem Form.read_unexpected {depthLimit : Nat} {text : Text} {token : Token} {position : Position}
    (failed : read depthLimit text = .error ⟨.unexpectedToken token, position⟩) :
    token.kind ≠ .eof := by
  rcases read_eq_error failed with ⟨cause, _, same⟩ | ⟨lexemes, stop, left, scan, present, reads⟩
  · cases same
  · exact (Scan.eof_only_last scan).2 token ((reads.fails _ rfl).unexpected_mem present rfl)

namespace Reader

/-- Calls of a reader, going on after faults, use up its tokens slice by slice and none of them twice; so
no token gets into two forms. Where lists may be opened, as many calls as there are tokens come to the
end, where every further call finds the end token; reading a text never does. -/
theorem calls_use_up_tokens :
    (∀ depthLimit text reader, ofText depthLimit text = .ok reader →
      (∀ calls, Orderly depthLimit reader (reader.after calls)) ∧
      (∀ calls, ((List.range calls).flatMap fun call => (reader.after call).slice) =
        reader.tokens.take (reader.after calls).cursor) ∧
      (∀ first later, first < later →
        (reader.after first).slice.Disjoint (reader.after later).slice) ∧
      (∀ first later form other, first < later → (reader.after first).next.1 = .ok form →
        (reader.after later).next.1 = .ok other → form.carried.Disjoint other.carried) ∧
      (1 ≤ depthLimit → ∀ calls, reader.lexemes.length ≤ calls →
        (reader.after calls).next.1 =
          .error ⟨.unexpectedToken reader.stop, reader.stop.position⟩)) ∧
    (∀ depthLimit text token position,
      Form.read depthLimit text = .error ⟨.unexpectedToken token, position⟩ → token.kind ≠ .eof) := by
  constructor
  · intro depthLimit text reader opened
    obtain ⟨_, start, limit⟩ := ofText_eq_ok opened
    refine ⟨orderly_after opened, flatMap_slice start, ?_, ?_, ?_⟩
    · intro first later order
      exact slice_disjoint (tokens_nodup opened) order
    · intro first later form other order found foundLater
      exact carried_disjoint opened order found foundLater
    · intro deep calls enough
      exact next_after_all (limit.symm ▸ deep) enough
  · intro depthLimit text token position failed
    exact Form.read_unexpected failed

theorem closing_used_up :
    ∃ reader, ofText 1 [')'] = .ok reader ∧
      ∀ calls, 1 ≤ calls → (reader.after calls).next.1 =
        .error ⟨.unexpectedToken (.eof ⟨0, 1⟩), ⟨0, 1⟩⟩ := by
  have scan : Scan.ofText [')'] = ⟨[⟨.rightParen, [')'], ⟨0, 0⟩⟩], .ok (.eof ⟨0, 1⟩)⟩ := by
    have lexemes : (Scan.ofText [')']).lexemes = [⟨.rightParen, [')'], ⟨0, 0⟩⟩] := by decide +kernel
    have ending : (Scan.ofText [')']).ending = .ok (.eof ⟨0, 1⟩) := by decide +kernel
    rw [← lexemes, ← ending]
  have opened : ofText 1 [')'] =
      .ok ⟨[⟨.rightParen, [')'], ⟨0, 0⟩⟩], .eof ⟨0, 1⟩, 0, 1⟩ := by
    rw [ofText, ofScan, scan]
  refine ⟨_, opened, ?_⟩
  intro calls some
  exact (calls_use_up_tokens.1 _ _ _ opened).2.2.2.2 (Nat.le_refl _) calls some

end Reader

end Sexpr
