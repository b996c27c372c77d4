import Sexpr.Proofs.Token.Continuation
/-!
Scanning a text that stands further down. Main statements: some lines further down the scanner finds the
same, with all positions that many lines further down; so a text on a new line behind another one is
scanned as it is alone, whatever the text in front ends with, and the items of both together are the items
of each.
-/
namespace Sexpr

def Token.moved (shift : Position → Position) (token : Token) : Token :=
  { token with position := shift token.position }

namespace Position

/-- The position that many lines further down, in the same column. -/
def below (lines : Nat) (p : Position) : Position :=
  ⟨p.line + lines, p.column⟩

theorem after_below (lines : Nat) (p : Position) (c : Char) :
    (p.below lines).after c = (p.after c).below lines := by
  by_cases feed : c = '\n'
  · simp [after, below, feed, Nat.add_right_comm]
  · simp [after, below, feed]

theorem through_below (lines : Nat) (p : Position) (text : Text) :
    (p.below lines).through text = (p.through text).below lines := by
  induction text generalizing p with
  | nil => rfl
  | cons c rest ih => rw [through_cons, through_cons, after_below, ih]

theorem through_append_feed (text : Text) :
    start.through (text ++ ['\n']) = start.below (text.count '\n' + 1) := by
  rw [through_start_eq]
  simp [below, start, lastLine]

end Position

def itemBelow (lines : Nat) : Except (Located ScanFault) Token → Except (Located ScanFault) Token
  | .ok token => .ok (token.moved (.below lines))
  | .error fault => .error ⟨fault.fault, fault.position.below lines⟩

namespace Scanner

def below (lines : Nat) (scanner : Scanner) : Scanner :=
  ⟨scanner.rest, scanner.position.below lines⟩

theorem next_below (lines : Nat) (scanner : Scanner) :
    (scanner.below lines).next = (itemBelow lines scanner.next.1, scanner.next.2.below lines) := by
  simp only [next, below, Position.through_below]
  split <;> simp only [itemBelow, Token.moved, Token.eof]

end Scanner

namespace Scan

def below (lines : Nat) (scan : Scan) : Scan :=
  ⟨scan.lexemes.map (Token.moved (.below lines)), itemBelow lines scan.ending⟩

theorem ofScanner_below (lines : Nat) (scanner : Scanner) :
    ofScanner (scanner.below lines) = (ofScanner scanner).below lines := by
  -- A token that is found leaves less text.
  induction size : scanner.rest.length using Nat.strongRecOn generalizing scanner with
  | ind count ih =>
    have further := scanner.next_below lines
    rcases found : scanner.next with ⟨fault | token, after⟩ <;> rw [found] at further
    · rw [ofScanner_failed found, ofScanner_failed further]
      rfl
    · by_cases last : token.kind = .eof
      · rw [ofScanner_finished found last, ofScanner_finished further last]
        rfl
      · have shorter := Scanner.next_shorter found last
        rw [ofScanner_found found last, ofScanner_found further last, ih _ (size ▸ shorter) after rfl]
        rfl

theorem ofText_on_new_line {text : Text} {lexemes : List Token} {stop : Token}
    (scan : ofText text = ⟨lexemes, .ok stop⟩) (more : Text) :
    ofText (text ++ '\n' :: more) =
      ⟨lexemes ++ ((ofText more).below (text.count '\n' + 1)).lexemes,
        ((ofText more).below (text.count '\n' + 1)).ending⟩ := by
  rw [ofText_feed scan, Position.through_append_feed]
  have further := ofScanner_below (text.count '\n' + 1) (.ofText more)
  exact congrArg (fun scan => Scan.mk (lexemes ++ scan.lexemes) scan.ending) further

theorem items_below (lines : Nat) (scan : Scan) :
    (scan.below lines).items = scan.items.map (itemBelow lines) := by
  simp [items, below, itemBelow]

theorem item_behind_part (text : Text) :
    ∀ item ∈ (ofText text).items, ∃ passed rest, text = passed ++ rest ∧
      itemPosition item = .through .start passed := by
  obtain ⟨covered, tail, same, laidOut, ends⟩ := covers text
  intro item member
  rcases List.mem_append.mp member with inside | last
  · obtain ⟨token, found, rfl⟩ := List.mem_map.mp inside
    obtain ⟨passed, beyond, position, whole, _⟩ := laidOut.position token found
    exact ⟨passed, beyond ++ tail, by simp [same, whole], position⟩
  · rw [List.mem_singleton.mp last]
    generalize (ofText text).ending = ending at ends
    cases ends with
    | finished _ => exact ⟨_, [], by simp [same], rfl⟩
    | openString _ _ => exact ⟨_, _, same.trans (List.append_assoc ..).symm, rfl⟩
    | stray _ _ => exact ⟨_, _, same.trans (List.append_assoc ..).symm, rfl⟩

theorem item_within (text : Text) :
    ∀ item ∈ (ofText text).items,
      (itemPosition item).line + (itemPosition item).column ≤ text.length := by
  intro item member
  obtain ⟨passed, rest, same, position⟩ := item_behind_part text item member
  have small := Position.line_add_column_le passed .start
  rw [position, same, List.length_append]
  exact Nat.le_add_right_of_le (by simpa [Position.start] using small)

/-- A line feed parts what is scanned. Behind a text that is scanned without a fault, another one on a new
line adds its own items to those in front of the end token, its end token or its fault among them, each as
many lines further down as the text in front takes and in the same column. Line and column of an item
together are no larger than the number of characters, so that they fit where that number fits. -/
theorem items_on_new_line (text more : Text) (items : List (Except (Located ScanFault) Token))
    (stop : Token) (scanned : (ofText text).items = items ++ [.ok stop]) :
    stop.kind = .eof ∧
      (ofText (text ++ '\n' :: more)).items =
        items ++ (ofText more).items.map (itemBelow (text.count '\n' + 1)) ∧
      ∀ item ∈ (ofText (text ++ '\n' :: more)).items,
        (itemPosition item).line + (itemPosition item).column ≤ text.length + 1 + more.length := by
  obtain ⟨_, _, _, closed⟩ := ofText_run text
  rcases scan : ofText text with ⟨lexemes, ending⟩
  rw [scan] at scanned closed
  obtain ⟨rfl, last⟩ := List.append_inj' scanned rfl
  obtain rfl : ending = .ok stop := List.cons.inj last |>.1
  refine ⟨closed stop rfl, ?_, ?_⟩
  · rw [ofText_on_new_line scan more, ← items_below, Scan.items, Scan.items, List.map_append,
      List.append_assoc]
  · intro item member
    have within := item_within (text ++ '\n' :: more) item member
    rw [List.length_append, List.length_cons] at within
    omega

theorem items_behind_comment :
    (ofText ("12.;(".toList ++ '\n' :: "\"a\nb\" /".toList)).items =
      [.ok ⟨.number, "12".toList, ⟨0, 0⟩⟩, .ok ⟨.symbol, ".".toList, ⟨0, 2⟩⟩,
        .ok ⟨.string, "\"a\nb\"".toList, ⟨1, 0⟩⟩, .error ⟨.unexpectedChar '/', ⟨2, 3⟩⟩] := by
  have scanned : (ofText "12.;(".toList).items =
      [.ok ⟨.number, "12".toList, ⟨0, 0⟩⟩, .ok ⟨.symbol, ".".toList, ⟨0, 2⟩⟩] ++ [.ok (.eof ⟨0, 5⟩)] := by
    decide +kernel
  have further : (ofText "\"a\nb\" /".toList).items.map (itemBelow 1) =
      [.ok ⟨.string, "\"a\nb\"".toList, ⟨1, 0⟩⟩, .error ⟨.unexpectedChar '/', ⟨2, 3⟩⟩] := by
    decide +kernel
  exact (items_on_new_line _ _ _ _ scanned).2.1.trans (congrArg _ further)

end Scan

end Sexpr
