import Mathlib.Data.List.TakeWhile
import Sexpr.Proofs.Form.Continuation
import Sexpr.Proofs.Token.Trailing
/-!
Reading a line with and without its end. The end token has a part in one fault only, that of a list which is
open where the tokens end. Main statement: a line is read as it is read with a line feed behind it, or with a
carriage return and a line feed, but for the place where an open list is found to be open.
-/
namespace Sexpr

/-- A reading that fails at some end token fails at every other: in an open list, at each where it stands, or
with a fault that no end token has a part in. -/
def FailsAtAnyEnd (Fails : Token → Located ReadFault → Prop) (stop : Token)
    (fault : Located ReadFault) : Prop :=
  (fault = unclosedAt stop ∧ ∀ other, Fails other (unclosedAt other)) ∨
    ((∀ expected got, fault.fault ≠ .mismatch expected got) ∧ ∀ other, Fails other fault)

theorem FailsAtAnyEnd.mono {Fails Around : Token → Located ReadFault → Prop} {stop : Token}
    {fault : Located ReadFault} (around : ∀ other cause, Fails other cause → Around other cause)
    (fails : FailsAtAnyEnd Fails stop fault) : FailsAtAnyEnd Around stop fault := by
  rcases fails with ⟨unclosed, again⟩ | ⟨closed, again⟩
  · exact Or.inl ⟨unclosed, fun other => around other _ (again other)⟩
  · exact Or.inr ⟨closed, fun other => around other _ (again other)⟩

mutual

theorem FailsForm.atAnyEnd {stop : Token} {depth : Nat} {tokens : List Token}
    {fault : Located ReadFault} : FailsForm stop depth tokens fault → tokens ≠ [] →
      FailsAtAnyEnd (FailsForm · depth tokens) stop fault
  | .ended, present => absurd rfl present
  | .tooDeep opening, _ => Or.inr ⟨nofun, fun _ => .tooDeep opening⟩
  | .inList opening items, _ => items.atAnyEnd.mono fun _ _ => .inList opening
  | .atom other failed, _ => by
      refine Or.inr ⟨?_, fun _ => .atom other failed⟩
      rcases ofToken_error_cases failed with rfl | rfl <;> simp

theorem FailsItems.atAnyEnd {stop : Token} {depth : Nat} {tokens : List Token}
    {fault : Located ReadFault} : FailsItems stop depth tokens fault →
      FailsAtAnyEnd (FailsItems · depth tokens) stop fault
  | .unclosed => Or.inl ⟨rfl, fun _ => .unclosed⟩
  | .atItem other first => (first.atAnyEnd (by simp)).mono fun _ _ => .atItem other
  | .behindItem linear shallow later => later.atAnyEnd.mono fun _ _ => .behindItem linear shallow

end

namespace Position

theorem through_line {line : Text} (single : '\n' ∉ line) : start.through line = ⟨0, line.length⟩ := by
  have whole : lastLine line = line.reverse := by
    rw [lastLine, List.takeWhile_eq_self_iff]
    intro c member
    have other : c ≠ '\n' := fun same => single (same ▸ List.mem_reverse.mp member)
    simpa using other
  rw [through_start_eq, List.count_eq_zero.mpr single, whole, List.length_reverse]

theorem through_line_feed {line : Text} (single : '\n' ∉ line) :
    start.through (line ++ ['\n']) = ⟨1, 0⟩ := by
  rw [through_append_feed, List.count_eq_zero.mpr single]
  rfl

end Position

namespace Form

theorem read_at_other_end {depthLimit : Nat} {text other : Text} {lexemes : List Token}
    {stop last : Token} (scan : Scan.ofText text = ⟨lexemes, .ok stop⟩)
    (again : Scan.ofText other = ⟨lexemes, .ok last⟩) :
    (read depthLimit other = read depthLimit text ∧
      ∀ expected got position, read depthLimit text ≠ .error ⟨.mismatch expected got, position⟩) ∨
    (read depthLimit text = .error (unclosedAt stop) ∧
      read depthLimit other = .error (unclosedAt last)) := by
  by_cases empty : lexemes = []
  · subst empty
    have nothing : read depthLimit text = .ok none := read_eq_none_iff.mpr ⟨stop, scan⟩
    have nothingAgain : read depthLimit other = .ok none := read_eq_none_iff.mpr ⟨last, again⟩
    rw [nothing, nothingAgain]
    exact Or.inl ⟨rfl, nofun⟩
  · have reads := readForm_reads stop depthLimit lexemes
    have found := read_of_scan scan empty reads
    cases outcome : (readForm stop depthLimit lexemes).outcome with
    | ok form =>
        rw [outcome] at reads found
        obtain ⟨spent, same, linear, shallow⟩ := reads.linear
        rw [same] at again
        have foundAgain : read depthLimit other = .ok (some form) :=
          read_eq_some_iff.mpr ⟨spent, _, last, again, linear, shallow⟩
        rw [found, foundAgain]
        exact Or.inl ⟨rfl, nofun⟩
    | error fault =>
        rw [outcome] at reads found
        rcases (reads.fails _ rfl).atAnyEnd empty with ⟨rfl, fails⟩ | ⟨closed, fails⟩
        · obtain ⟨left, readsAgain⟩ := (fails last).reads
          exact Or.inr ⟨found, read_of_scan again empty readsAgain⟩
        · obtain ⟨left, readsAgain⟩ := (fails last).reads
          rw [found, read_of_scan again empty readsAgain]
          refine Or.inl ⟨rfl, ?_⟩
          intro expected got position same
          cases same
          exact closed _ _ rfl

theorem read_append_blank (depthLimit : Nat) (text : Text) {blank : Text}
    (white : ∀ c ∈ blank, isWhitespace c = true) :
    (read depthLimit (text ++ blank) = read depthLimit text ∧
      ∀ expected got position, read depthLimit text ≠ .error ⟨.mismatch expected got, position⟩) ∨
    (read depthLimit text = .error ⟨.mismatch .rightParen .eof, .through .start text⟩ ∧
      read depthLimit (text ++ blank) =
        .error ⟨.mismatch .rightParen .eof, .through .start (text ++ blank)⟩) := by
  have longer := Scan.ofText_append_blank text white
  rcases scan : Scan.ofText text with ⟨lexemes, fault | stop⟩ <;> rw [scan] at longer
  · have failed := read_of_scanFault (congrArg Scan.ending scan) depthLimit
    have failedAgain := read_of_scanFault (congrArg Scan.ending longer) depthLimit
    rw [failed, failedAgain]
    refine Or.inl ⟨rfl, ?_⟩
    intro expected got position same
    cases same
  · obtain rfl := Scan.stop_eq scan
    exact read_at_other_end scan longer

/-- A line is read alike with and without its end, be it a line feed or a carriage return and a line feed:
there is no form in it, or the same one with the same tokens, or the same fault at the same position. Only a
list that is open at the end is found to be open where the line ends, or at the start of the next line. Line
and column of whatever is found together are no larger than the number of characters, so that they fit where
that number fits. -/
theorem read_with_line_end (depthLimit : Nat) (line lineEnd : Text) (single : '\n' ∉ line)
    (ends : lineEnd = ['\n'] ∨ lineEnd = ['\r', '\n']) :
    ((read depthLimit (line ++ lineEnd) = read depthLimit line ∧
        ∀ expected got position, read depthLimit line ≠ .error ⟨.mismatch expected got, position⟩) ∨
      (read depthLimit line = .error ⟨.mismatch .rightParen .eof, ⟨0, line.length⟩⟩ ∧
        read depthLimit (line ++ lineEnd) = .error ⟨.mismatch .rightParen .eof, ⟨1, 0⟩⟩)) ∧
    ∀ item ∈ (Scan.ofText (line ++ lineEnd)).items,
      (itemPosition item).line + (itemPosition item).column ≤ line.length + 2 := by
  have white : ∀ c ∈ lineEnd, isWhitespace c = true := by
    rcases ends with rfl | rfl <;> exact List.all_eq_true.mp (by decide)
  have behind : Position.start.through (line ++ lineEnd) = ⟨1, 0⟩ := by
    rcases ends with rfl | rfl
    · exact Position.through_line_feed single
    · have whole : '\n' ∉ line ++ ['\r'] := by simp [single]
      simpa using Position.through_line_feed whole
  constructor
  · rw [← Position.through_line single, ← behind]
    exact read_append_blank depthLimit line white
  · intro item member
    have short : lineEnd.length ≤ 2 := by rcases ends with rfl | rfl <;> simp
    have within := Scan.item_within (line ++ lineEnd) item member
    rw [List.length_append] at within
    omega

theorem open_list_with_line_end :
    read 1 "(12.;\"".toList = .error ⟨.mismatch .rightParen .eof, ⟨0, 6⟩⟩ ∧
      read 1 ("(12.;\"".toList ++ ['\r', '\n']) = .error ⟨.mismatch .rightParen .eof, ⟨1, 0⟩⟩ := by
  have failed : read 1 "(12.;\"".toList = .error ⟨.mismatch .rightParen .eof, ⟨0, 6⟩⟩ :=
    read_eq_error_of_map (by decide +kernel)
  rcases (read_with_line_end 1 "(12.;\"".toList ['\r', '\n'] (by decide) (Or.inr rfl)).1 with
    ⟨_, closed⟩ | unclosed
  · exact absurd failed (closed _ _ _)
  · exact unclosed

end Form

end Sexpr
