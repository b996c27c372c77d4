import Sexpr.Token.Scanner
/-!
What may stand between two lexemes, said without a scanner: whitespace and comments. Main statements:
splitting takes off the longest gap, and a gap in front of a text changes nothing for the scanner but
the position.
-/
namespace Sexpr

/-- Whitespace and comments, each comment through its line feed. -/
inductive Gap : Text → Prop
  | empty : Gap []
  | white {c : Char} {rest : Text} : isWhitespace c = true → Gap rest → Gap (c :: rest)
  | comment {body rest : Text} : '\n' ∉ body → Gap rest → Gap (';' :: (body ++ '\n' :: rest))

/-- A gap at the end of a text: its last comment may go on to there. -/
inductive FinalGap : Text → Prop
  | closed {gap : Text} : Gap gap → FinalGap gap
  | commented {gap body : Text} : Gap gap → '\n' ∉ body → FinalGap (gap ++ ';' :: body)

theorem not_semicolon_of_isWhitespace {c : Char} (white : isWhitespace c = true) : c ≠ ';' := by
  rintro rfl
  exact absurd white (by decide)

theorem splitGap_white {c : Char} (white : isWhitespace c = true) (rest : Text) :
    splitGap false (c :: rest) = (c :: (splitGap false rest).1, (splitGap false rest).2) := by
  simp [splitGap, opensGap, white, not_semicolon_of_isWhitespace white]

theorem splitGap_semicolon (rest : Text) :
    splitGap false (';' :: rest) = (';' :: (splitGap true rest).1, (splitGap true rest).2) := by
  simp [splitGap, opensGap]

theorem splitGap_of_not_opensGap {c : Char} (other : opensGap c = false) (rest : Text) :
    splitGap false (c :: rest) = ([], c :: rest) := by
  simp [splitGap, other]

theorem splitGap_in_comment {body : Text} (inside : '\n' ∉ body) (rest : Text) :
    splitGap true (body ++ '\n' :: rest) =
      (body ++ '\n' :: (splitGap false rest).1, (splitGap false rest).2) := by
  induction body with
  | nil => simp [splitGap]
  | cons c body ih =>
      have apart : c ≠ '\n' := fun same => inside (by simp [same])
      have later := ih (fun member => inside (List.mem_cons_of_mem c member))
      simp [splitGap, apart, later]

theorem splitGap_in_last_comment {body : Text} (inside : '\n' ∉ body) :
    splitGap true body = (body, []) := by
  induction body with
  | nil => rfl
  | cons c body ih =>
      have apart : c ≠ '\n' := fun same => inside (by simp [same])
      have later := ih (fun member => inside (List.mem_cons_of_mem c member))
      simp [splitGap, apart, later]

theorem Gap.splitGap_append {gap : Text} (isGap : Gap gap) (text : Text) :
    splitGap false (gap ++ text) = (gap ++ (splitGap false text).1, (splitGap false text).2) := by
  induction isGap with
  | empty => rfl
  | white white _ ih => rw [List.cons_append, splitGap_white white, ih, List.cons_append]
  | comment inside _ ih =>
      rw [List.cons_append, splitGap_semicolon, List.append_assoc, List.cons_append,
        splitGap_in_comment inside, ih]
      simp

theorem FinalGap.splitGap_eq {gap : Text} (final : FinalGap gap) :
    splitGap false gap = (gap, []) := by
  cases final with
  | closed isGap => simpa [splitGap] using isGap.splitGap_append []
  | commented isGap inside =>
      rw [isGap.splitGap_append, splitGap_semicolon, splitGap_in_last_comment inside]

theorem Gap.append {first second : Text} (gap : Gap first) (later : Gap second) :
    Gap (first ++ second) := by
  induction gap with
  | empty => exact later
  | white white _ ih => exact .white white ih
  | comment inside _ ih => simpa using Gap.comment inside ih

theorem FinalGap.behind {first second : Text} (gap : Gap first) (final : FinalGap second) :
    FinalGap (first ++ second) := by
  cases final with
  | closed later => exact .closed (gap.append later)
  | commented later inside => simpa using FinalGap.commented (gap.append later) inside

theorem gap_piece_cases (c : Char) (rest : Text) :
    (∃ piece later, Gap piece ∧ piece ≠ [] ∧ c :: rest = piece ++ later) ∨
      (c = ';' ∧ '\n' ∉ rest) ∨ opensGap c = false := by
  by_cases white : isWhitespace c = true
  · exact Or.inl ⟨[c], rest, .white white .empty, by simp, rfl⟩
  · by_cases semicolon : c = ';'
    · by_cases closed : '\n' ∈ rest
      · obtain ⟨body, later, same, inside⟩ := List.eq_append_cons_of_mem closed
        refine Or.inl ⟨c :: (body ++ ['\n']), later, ?_, by simp, by simp [same]⟩
        rw [semicolon]
        exact .comment inside .empty
      · exact Or.inr (Or.inl ⟨semicolon, closed⟩)
    · exact Or.inr (Or.inr (by simp [opensGap, white, semicolon]))

theorem splitGap_spec (text : Text) :
    (FinalGap (splitGap false text).1 ∧ (splitGap false text).2 = []) ∨
      (Gap (splitGap false text).1 ∧
        ∃ c rest, (splitGap false text).2 = c :: rest ∧ opensGap c = false) := by
  -- A comment comes off in one piece, so the induction is on the length.
  induction count : text.length using Nat.strongRecOn generalizing text with
  | ind size ih =>
    cases text with
    | nil => exact Or.inl ⟨.closed .empty, rfl⟩
    | cons c rest =>
        rcases gap_piece_cases c rest with
          ⟨piece, later, isGap, present, same⟩ | ⟨rfl, open'⟩ | other
        · have shorter : later.length < size := by
            have := List.length_pos_iff.mpr present
            rw [same, List.length_append] at count
            omega
          rw [same, isGap.splitGap_append]
          rcases ih later.length shorter later rfl with ⟨final, done⟩ | ⟨laterGap, more⟩
          · exact Or.inl ⟨final.behind isGap, done⟩
          · exact Or.inr ⟨isGap.append laterGap, more⟩
        · rw [splitGap_semicolon, splitGap_in_last_comment open']
          exact Or.inl ⟨.commented .empty open', rfl⟩
        · rw [splitGap_of_not_opensGap other]
          exact Or.inr ⟨.empty, c, rest, rfl, other⟩

theorem finalGap_iff {text : Text} : FinalGap text ↔ (splitGap false text).2 = [] := by
  constructor
  · intro final
    rw [final.splitGap_eq]
  · intro nothing
    rcases splitGap_spec text with ⟨final, _⟩ | ⟨_, c, rest, more, _⟩
    · rw [← splitGap_append false text, nothing, List.append_nil]
      exact final
    · rw [nothing] at more
      cases more

instance : DecidablePred FinalGap :=
  fun _ => decidable_of_iff _ finalGap_iff.symm

namespace Scanner

theorem next_behind_gap {gap : Text} (isGap : Gap gap) (text : Text) (position : Position) :
    next ⟨gap ++ text, position⟩ = next ⟨text, position.through gap⟩ := by
  simp only [next, isGap.splitGap_append, Position.through_append]

end Scanner

end Sexpr
