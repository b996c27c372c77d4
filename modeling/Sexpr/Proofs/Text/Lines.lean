import Sexpr.Text.Lines
/-!
Cutting and joining lines. Main statements: the pieces of a sequence are the one way to cut it behind each
end; and lines that are written one behind another, each with a line feed or with a carriage return and a
line feed, are found again, whatever follows them.
-/
namespace Sexpr

section Cut
variable {α : Type} {ends : α → Bool} {sequence : List α} {pieces : List (List α)}

/-- The pieces of a sequence, said without a recursion over it. Each goes through the first end in it, but
for a last piece that has none. -/
inductive CutAfter (ends : α → Bool) : List α → List (List α) → Prop
  | none : CutAfter ends [] []
  | unended {piece : List α} : piece ≠ [] → (∀ a ∈ piece, ends a = false) →
      CutAfter ends piece [piece]
  | ended {body rest : List α} {last : α} {pieces : List (List α)} : (∀ a ∈ body, ends a = false) →
      ends last = true → CutAfter ends rest pieces →
      CutAfter ends (body ++ last :: rest) ((body ++ [last]) :: pieces)

theorem splitAfter_ended {body : List α} {last : α} (inside : ∀ a ∈ body, ends a = false)
    (final : ends last = true) (rest : List α) :
    splitAfter ends (body ++ last :: rest) = (body ++ [last]) :: splitAfter ends rest := by
  induction body with
  | nil => simp [splitAfter, final]
  | cons a body ih =>
      have later := ih fun b member => inside b (List.mem_cons_of_mem a member)
      have goesOn : ends a = false := inside a (by simp)
      simp [splitAfter, goesOn, later]

theorem splitAfter_unended {piece : List α} (present : piece ≠ [])
    (inside : ∀ a ∈ piece, ends a = false) : splitAfter ends piece = [piece] := by
  induction piece with
  | nil => exact absurd rfl present
  | cons a piece ih =>
      have goesOn : ends a = false := inside a (by simp)
      by_cases empty : piece = []
      · simp [splitAfter, goesOn, empty]
      · have later := ih empty fun b member => inside b (List.mem_cons_of_mem a member)
        simp [splitAfter, goesOn, later]

theorem cutAfter_splitAfter (sequence : List α) : CutAfter ends sequence (splitAfter ends sequence) := by
  induction sequence with
  | nil => exact .none
  | cons a rest ih =>
      by_cases final : ends a = true
      · have first : CutAfter ends ([] ++ a :: rest) (([] ++ [a]) :: splitAfter ends rest) :=
          .ended nofun final ih
        simpa [splitAfter, final] using first
      · have goesOn : ends a = false := by simpa using final
        have inside {body : List α} (others : ∀ b ∈ body, ends b = false) :
            ∀ b ∈ a :: body, ends b = false := List.forall_mem_cons.mpr ⟨goesOn, others⟩
        -- The first piece of the rest starts with this element instead, if there is one.
        simp only [splitAfter, goesOn]
        generalize splitAfter ends rest = pieces at ih
        cases ih with
        | none => exact .unended (by simp) (inside nofun)
        | unended _ others => exact .unended (by simp) (inside others)
        | ended others final later => exact .ended (inside others) final later

theorem cutAfter_iff : CutAfter ends sequence pieces ↔ splitAfter ends sequence = pieces := by
  constructor
  · intro cut
    induction cut with
    | none => rfl
    | unended present inside => exact splitAfter_unended present inside
    | ended inside final _ ih => rw [splitAfter_ended inside final, ih]
  · rintro rfl
    exact cutAfter_splitAfter sequence

theorem splitAfter_append (whole : ∀ a ∈ sequence.getLast?, ends a = true) (rest : List α) :
    splitAfter ends (sequence ++ rest) = splitAfter ends sequence ++ splitAfter ends rest := by
  have cut : CutAfter ends sequence (splitAfter ends sequence) := cutAfter_splitAfter sequence
  generalize splitAfter ends sequence = pieces at cut
  induction cut with
  | none => rfl
  | @unended piece present inside =>
      have last := List.getLast?_eq_some_getLast present
      have goesOn := inside _ (List.getLast_mem present)
      rw [whole _ last] at goesOn
      cases goesOn
  | @ended body later last pieces inside final _ ih =>
      have wholeLater : ∀ a ∈ later.getLast?, ends a = true := by
        intro a member
        apply whole
        rw [Option.mem_def] at member
        simp [List.getLast?_append, List.getLast?_cons, member]
      rw [List.append_assoc, List.cons_append, splitAfter_ended inside final, ih wholeLater,
        List.cons_append]

end Cut

/-- A text that can be a line: no line feed is in it, and no carriage return at its end, which would be
taken for a part of the line's end. -/
structure FitsLine (line : Text) : Prop where
  inside : '\n' ∉ line
  last : line.getLast? ≠ some '\r'

instance (line : Text) : Decidable (FitsLine line) :=
  decidable_of_iff ('\n' ∉ line ∧ line.getLast? ≠ some '\r')
    ⟨fun ⟨inside, last⟩ => ⟨inside, last⟩, fun fits => ⟨fits.inside, fits.last⟩⟩

theorem withoutLineEnd_feed (line : Text) :
    withoutLineEnd (line ++ ['\n']) = if line.getLast? = some '\r' then line.dropLast else line := by
  simp [withoutLineEnd]

theorem goesOn_of_feed_not_mem {line : Text} (inside : '\n' ∉ line) :
    ∀ c ∈ line, decide (c = '\n') = false := by
  intro c member
  have other : c ≠ '\n' := fun same => inside (same ▸ member)
  exact decide_eq_false other

theorem lines_append_feed {line : Text} (inside : '\n' ∉ line) (rest : Text) :
    lines (line ++ '\n' :: rest) = withoutLineEnd (line ++ ['\n']) :: lines rest := by
  rw [lines, splitAfter_ended (goesOn_of_feed_not_mem inside) (by decide), List.map_cons, ← lines]

theorem lines_feed {line : Text} (fits : FitsLine line) (rest : Text) :
    lines (line ++ '\n' :: rest) = line :: lines rest := by
  rw [lines_append_feed fits.inside, withoutLineEnd_feed, if_neg fits.last]

theorem lines_returnFeed {line : Text} (inside : '\n' ∉ line) (rest : Text) :
    lines (line ++ '\r' :: '\n' :: rest) = line :: lines rest := by
  have whole : '\n' ∉ line ++ ['\r'] := by simp [inside]
  have first := lines_append_feed whole rest
  rw [withoutLineEnd_feed, if_pos (by simp), List.dropLast_concat] at first
  simpa using first

def WholeLines (text : Text) : Prop :=
  ∀ c ∈ text.getLast?, c = '\n'

instance (text : Text) : Decidable (WholeLines text) :=
  decidable_of_iff (text.getLast?.all (fun c => c = '\n') = true) (by simp [WholeLines, Option.all_eq_true])

theorem lines_append {front : Text} (whole : WholeLines front) (rest : Text) :
    lines (front ++ rest) = lines front ++ lines rest := by
  have ended : ∀ c ∈ front.getLast?, decide (c = '\n') = true :=
    fun c member => decide_eq_true (whole c member)
  rw [lines, splitAfter_append ended, List.map_append, ← lines, ← lines]

/-- Lines one behind another, each ended by a line feed or by a carriage return and a line feed. -/
inductive Written : List Text → Text → Prop
  | none : Written [] []
  | feed {line text : Text} {contents : List Text} : Written contents text →
      Written (line :: contents) (line ++ '\n' :: text)
  | returnFeed {line text : Text} {contents : List Text} : Written contents text →
      Written (line :: contents) (line ++ '\r' :: '\n' :: text)

theorem Written.lines_append {contents : List Text} {text : Text} (written : Written contents text)
    (fits : ∀ line ∈ contents, FitsLine line) (tail : Text) :
    lines (text ++ tail) = contents ++ lines tail := by
  induction written with
  | none => rfl
  | @feed line text contents _ ih =>
      have later := ih fun line member => fits line (List.mem_cons_of_mem _ member)
      have first := lines_feed (fits line (by simp)) (text ++ tail)
      simpa [later] using first
  | @returnFeed line text contents _ ih =>
      have later := ih fun line member => fits line (List.mem_cons_of_mem _ member)
      have first := lines_returnFeed (fits line (by simp)).inside (text ++ tail)
      simpa [later] using first

theorem lines_of_opening {opening : Text} (fits : FitsLine opening) (present : opening ≠ []) (more : Text) :
    ∃ line later, lines (opening ++ more) = line :: later ∧ opening <+: line := by
  by_cases closed : '\n' ∈ more
  · obtain ⟨body, rest, same, inside⟩ := List.eq_append_cons_of_mem closed
    have whole : '\n' ∉ opening ++ body := by simp [fits.inside, inside]
    refine ⟨_, lines rest, by rw [same, ← List.append_assoc, lines_append_feed whole], ?_⟩
    rw [withoutLineEnd_feed]
    by_cases empty : body = []
    · simp [empty, fits.last]
    · rw [List.dropLast_append_of_ne_nil empty]
      split
      · exact List.prefix_append _ _
      · exact List.prefix_append _ _
  · have whole : '\n' ∉ opening ++ more := by simp [fits.inside, closed]
    have open' : (opening ++ more).getLast? ≠ some '\n' :=
      fun last => whole (List.mem_of_getLast? last)
    refine ⟨opening ++ more, [], ?_, List.prefix_append _ _⟩
    rw [lines, splitAfter_unended (by simp [present]) (goesOn_of_feed_not_mem whole),
      List.map_singleton, withoutLineEnd, if_neg open']

end Sexpr
