import Sexpr.Proofs.Form.RoundTrip
import Sexpr.Proofs.Token.Below
import Sexpr.Proofs.Token.Layout
import Sexpr.Proofs.Token.Spaced
/-!
Reading and positions. Main statements: tokens that are moved to other positions are read as the same form
or as the same fault, moved along with them; so texts with the same lexemes, whatever the gaps around and
between them, are read alike but for positions.
-/
namespace Sexpr

section Moved
variable (shift : Position → Position)

def ReadFault.moved : ReadFault → ReadFault
  | .scan fault => .scan fault
  | .unexpectedToken token => .unexpectedToken (token.moved shift)
  | .mismatch expected got => .mismatch expected got
  | .outOfRange token => .outOfRange (token.moved shift)
  | .nestingTooDeep => .nestingTooDeep

def Located.moved (located : Located ReadFault) : Located ReadFault :=
  ⟨located.fault.moved shift, shift located.position⟩

namespace Form

mutual

def moved : Form → Form
  | .atom value token => .atom value (token.moved shift)
  | .list items token => .list (movedAll items) (token.moved shift)

def movedAll : List Form → List Form
  | [] => []
  | item :: items => moved item :: movedAll items

end

theorem alike_moved (form : Form) : Alike (· = ·) form (form.moved shift) := by
  induction form using Form.induct with
  | atom value token => exact .atom rfl
  | list items token ih =>
      apply Alike.list
      induction items with
      | nil => exact .nil
      | cons item items later =>
          exact .cons (ih item (by simp)) (later fun item member => ih item (List.mem_cons_of_mem _ member))

end Form

variable {shift}

theorem Denotes.moved {token : Token} {value : Atom} (denotes : Denotes token value) :
    Denotes (token.moved shift) value :=
  denotes.of_same rfl rfl

theorem ofToken_moved {token : Token} {fault : ReadFault} (failed : Atom.ofToken token = .error fault) :
    Atom.ofToken (token.moved shift) = .error (fault.moved shift) := by
  obtain ⟨kind, text, position⟩ := token
  cases kind with
  | number =>
      cases found : Double.ofNumeral? text with
      | some value => simp [Atom.ofToken, found] at failed
      | none =>
          simp only [Atom.ofToken, found] at failed
          cases failed
          simp only [Atom.ofToken, Token.moved, found, ReadFault.moved]
  | string => simp [Atom.ofToken] at failed
  | symbol => simp [Atom.ofToken] at failed
  | _ =>
      cases failed
      rfl

mutual

theorem ReadsForm.moved {stop : Token} {depth : Nat} {tokens left : List Token}
    {outcome : Except (Located ReadFault) Form} :
    ReadsForm stop depth tokens outcome left →
      ReadsForm (stop.moved shift) depth (tokens.map (Token.moved shift))
        ((outcome.map (Form.moved shift)).mapError (Located.moved shift))
        (left.map (Token.moved shift))
  | .ended => .ended
  | .tooDeep opening => .tooDeep opening
  | .list opening items => .list opening items.moved
  | .listFault opening items => .listFault opening items.moved
  | .atom denotes => .atom denotes.moved
  | .atomFault other failed => .atomFault other (ofToken_moved failed)

theorem ReadsItems.moved {stop : Token} {depth : Nat} {tokens left : List Token}
    {outcome : Except (Located ReadFault) (List Form)} :
    ReadsItems stop depth tokens outcome left →
      ReadsItems (stop.moved shift) depth (tokens.map (Token.moved shift))
        ((outcome.map (Form.movedAll shift)).mapError (Located.moved shift))
        (left.map (Token.moved shift))
  | .unclosed => .unclosed
  | .closed closing => .closed closing
  | .item other first later => .item other first.moved later.moved
  | .itemFault other first => .itemFault other first.moved
  | .laterFault other first later => .laterFault other first.moved later.moved

end

end Moved

def Token.unplaced (token : Token) : Token :=
  token.moved fun _ => .start

def ReadFault.unplaced (fault : ReadFault) : ReadFault :=
  fault.moved fun _ => .start

def Form.unplaced (form : Form) : Form :=
  form.moved fun _ => .start

namespace Form

/-- What reading two texts gives, where it differs in positions only. -/
inductive AlikeButPlaced : Except (Located ReadFault) (Option Form) →
    Except (Located ReadFault) (Option Form) → Prop
  | nothing : AlikeButPlaced (.ok none) (.ok none)
  | form {first second : Form} : first.unplaced = second.unplaced → first.same second = true →
      first.print = second.print → AlikeButPlaced (.ok (some first)) (.ok (some second))
  | fault {first second : Located ReadFault} : first.fault.unplaced = second.fault.unplaced →
      AlikeButPlaced (.error first) (.error second)

theorem alike_of_unplaced_eq {first second : Form} (equal : first.unplaced = second.unplaced) :
    Alike (· = ·) first second := by
  have back : Alike (· = ·) first.unplaced second := by
    rw [equal]
    exact (alike_moved _ second).symm fun _ _ same => same.symm
  have there : Alike (· = ·) first first.unplaced := alike_moved _ first
  exact there.trans (fun _ _ _ same next => same.trans next) back

theorem readForm_unplaced {stop other : Token} {tokens others : List Token} (depth : Nat)
    (stops : stop.unplaced = other.unplaced)
    (same : tokens.map Token.unplaced = others.map Token.unplaced) :
    ((readForm stop depth tokens).outcome.map unplaced).mapError (Located.moved fun _ => .start) =
      ((readForm other depth others).outcome.map unplaced).mapError (Located.moved fun _ => .start) := by
  have here := @ReadsForm.moved (fun _ => .start) _ _ _ _ _ (readForm_reads stop depth tokens)
  have there := @ReadsForm.moved (fun _ => .start) _ _ _ _ _ (readForm_reads other depth others)
  change ReadsForm stop.unplaced depth (tokens.map Token.unplaced) _ _ at here
  rw [stops, same] at here
  exact here.readForm_leaves.1.symm.trans there.readForm_leaves.1

theorem read_alike {text other : Text} {tokens others : List Token} {stop last : Token}
    (scan : Scan.ofText text = ⟨tokens, .ok stop⟩) (otherScan : Scan.ofText other = ⟨others, .ok last⟩)
    (stops : stop.unplaced = last.unplaced)
    (same : tokens.map Token.unplaced = others.map Token.unplaced) (depthLimit : Nat) :
    AlikeButPlaced (read depthLimit text) (read depthLimit other) := by
  by_cases empty : tokens = []
  · have otherEmpty : others = [] := by simpa [empty] using same.symm
    simp only [read_eq, scan, otherScan, empty, otherEmpty]
    exact .nothing
  · have otherPresent : others ≠ [] := by
      rintro rfl
      simp [empty] at same
    have reads := readForm_reads stop depthLimit tokens
    have otherReads := readForm_reads last depthLimit others
    have outcomes := readForm_unplaced depthLimit stops same
    generalize (readForm stop depthLimit tokens).outcome = outcome at reads outcomes
    generalize (readForm last depthLimit others).outcome = otherOutcome at otherReads outcomes
    have here := read_of_scan scan empty reads
    have there := read_of_scan otherScan otherPresent otherReads
    rw [here, there]
    cases outcome with
    | error fault =>
        cases otherOutcome with
        | error otherFault => exact .fault (congrArg Located.fault (Except.error.inj outcomes))
        | ok form => cases outcomes
    | ok form =>
        cases otherOutcome with
        | error fault => cases outcomes
        | ok otherForm =>
            have equal : form.unplaced = otherForm.unplaced := Except.ok.inj outcomes
            have alike := alike_of_unplaced_eq equal
            have readable := (readable_of_read there).1
            exact .form equal (readable.same_of_alike alike) (print_eq_of_alike alike)

end Form

namespace Scan

variable {text : Text} {lexemes : List Token} {stop : Token}

theorem stop_eq_eof (scan : ofText text = ⟨lexemes, .ok stop⟩) : ∃ position, stop = .eof position :=
  ⟨_, stop_eq scan⟩

theorem ofText_spaced {tokens : List Token} {whole lead trail : Text}
    (lexemes : ∀ token ∈ tokens, Lexeme token.kind token.text)
    (spaced : Spaced Token.text tokens whole) (isLead : Gap lead) (isTrail : Gap trail) :
    ∃ again position, again.map Token.unplaced = tokens.map Token.unplaced ∧
      ofText (lead ++ (whole ++ trail)) = ⟨again, .ok (.eof position)⟩ := by
  have scansAs := spaced.scansAs (fun token member => Scanner.scansAs_lexeme (lexemes token member))
    (by simp)
  obtain ⟨again, position, ⟨parts, rfl, all⟩, scan⟩ := ofText_between_gaps scansAs isLead isTrail
  refine ⟨_, position, ?_, scan⟩
  clear * - all
  induction all with
  | nil => rfl
  | @cons token _ _ _ found _ ih =>
      obtain ⟨place, rfl⟩ := found
      have head : Token.unplaced ⟨token.kind, token.text, place⟩ = token.unplaced := rfl
      simpa [head] using ih

end Scan

/-- Layout changes positions and nothing else. The lexemes of a text, with other gaps around and between
them, are found again with their kinds and texts, and what is read of them differs in positions only. -/
theorem Form.layout_moves_only (text : Text) (lexemes : List Token) (stop : Token)
    (scan : Scan.ofText text = ⟨lexemes, .ok stop⟩) (lead whole trail : Text) (isLead : Gap lead)
    (spaced : Spaced Token.text lexemes whole) (isTrail : Gap trail) :
    (∃ again position, again.map Token.unplaced = lexemes.map Token.unplaced ∧
      Scan.ofText (lead ++ (whole ++ trail)) = ⟨again, .ok (.eof position)⟩) ∧
    ∀ depthLimit, AlikeButPlaced (read depthLimit text) (read depthLimit (lead ++ (whole ++ trail))) := by
  have isLexeme := Scan.isLexeme_of_mem text
  rw [scan] at isLexeme
  obtain ⟨again, position, same, found⟩ := Scan.ofText_spaced isLexeme spaced isLead isTrail
  obtain ⟨place, rfl⟩ := Scan.stop_eq_eof scan
  refine ⟨⟨again, position, same, found⟩, ?_⟩
  intro depthLimit
  exact read_alike scan found rfl same.symm depthLimit

theorem Form.read_alike_spread_out :
    AlikeButPlaced (read 1 "(12.x\"\")".toList) (read 1 ";(\n( 12,.x\r\"\";\"\n)".toList) := by
  have comma : Gap [','] := .white (by decide) .empty
  have space : Gap [' '] := .white (by decide) .empty
  have turn : Gap ['\r'] := .white (by decide) .empty
  have quoted : Gap (';' :: (['"'] ++ '\n' :: [])) := .comment (by decide) .empty
  have lead : Gap (';' :: (['('] ++ '\n' :: [])) := .comment (by decide) .empty
  have lexemes : (Scan.ofText "(12.x\"\")".toList).lexemes =
      [⟨.leftParen, ['('], ⟨0, 0⟩⟩, ⟨.number, ['1', '2'], ⟨0, 1⟩⟩, ⟨.symbol, ['.', 'x'], ⟨0, 3⟩⟩,
        ⟨.string, ['"', '"'], ⟨0, 5⟩⟩, ⟨.rightParen, [')'], ⟨0, 7⟩⟩] := by decide +kernel
  have ending : (Scan.ofText "(12.x\"\")".toList).ending = .ok (.eof ⟨0, 8⟩) := by decide +kernel
  have scan := congrArg₂ Scan.mk lexemes ending
  have moves := layout_moves_only _ _ _ scan _ _ [] lead (.more space (by simp) (.more comma (by simp)
    (.more turn (by simp) (.more quoted (by simp) .one)))) .empty
  exact moves.2 1

end Sexpr
