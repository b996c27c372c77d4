import Sexpr.Proofs.Form.Failing
import Sexpr.Proofs.Form.Grammar
import Sexpr.Proofs.Token.Layout
/-!
The limit to the nesting of lists. Main statements: a higher limit changes nothing where a lower one is not
exceeded; what was read is read with every limit up from its depth, and with a lower one it is refused at the
first list that goes too deep; and counting the limit down in 32 bits never takes it below zero.
-/
namespace Sexpr

namespace Form

mutual

theorem depth_of_mem_outline (outer : Nat) :
    ∀ form : Form, ∀ part ∈ form.outline outer, part.1 + part.2.depth ≤ outer + form.depth
  | .atom _ _, part, member => by
      rw [outline, List.mem_singleton] at member
      subst member
      exact Nat.le_refl _
  | .list items token, part, member => by
      rw [outline] at member
      rcases List.mem_cons.mp member with rfl | inside
      · exact Nat.le_refl _
      · have inner := depth_of_mem_outlineAll (outer + 1) items part inside
        simp only [depth]
        omega

theorem depth_of_mem_outlineAll (outer : Nat) :
    ∀ items : List Form, ∀ part ∈ outlineAll outer items, part.1 + part.2.depth ≤ outer + depthAll items
  | [], _, member => absurd member List.not_mem_nil
  | item :: items, part, member => by
      rw [outlineAll] at member
      have larger : depthAll (item :: items) = max item.depth (depthAll items) := rfl
      rcases List.mem_append.mp member with here | later
      · have first := depth_of_mem_outline outer item part here
        omega
      · have rest := depth_of_mem_outlineAll outer items part later
        omega

end

/-- Of all lists with so many lists around them, the one with this token comes first. -/
def OpensFirst (parts : List (Nat × Form)) (depth : Nat) (token : Token) : Prop :=
  ∃ before items after, parts = before ++ (depth, .list items token) :: after ∧
    ∀ others other, (depth, .list others other) ∉ before

namespace OpensFirst

variable {parts : List (Nat × Form)} {depth : Nat} {token : Token}

theorem here (items : List Form) (after : List (Nat × Form)) :
    OpensFirst ((depth, .list items token) :: after) depth token :=
  ⟨[], items, after, rfl, fun _ _ => List.not_mem_nil⟩

theorem append (opens : OpensFirst parts depth token) (later : List (Nat × Form)) :
    OpensFirst (parts ++ later) depth token := by
  obtain ⟨before, items, after, rfl, none⟩ := opens
  exact ⟨before, items, after ++ later, by simp, none⟩

theorem behind {earlier : List (Nat × Form)}
    (none : ∀ others other, (depth, .list others other) ∉ earlier) (opens : OpensFirst parts depth token) :
    OpensFirst (earlier ++ parts) depth token := by
  obtain ⟨before, items, after, rfl, noneBefore⟩ := opens
  refine ⟨earlier ++ before, items, after, by simp, ?_⟩
  intro others other member
  rcases List.mem_append.mp member with inside | inside
  · exact none others other inside
  · exact noneBefore others other inside

end OpensFirst

theorem not_mem_outline_of_shallow {form : Form} {depth outer : Nat} (shallow : form.depth ≤ depth)
    (others : List Form) (other : Token) : (outer + depth, .list others other) ∉ form.outline outer := by
  intro member
  have bound := depth_of_mem_outline outer form _ member
  simp only [Form.depth] at bound
  omega

end Form

open Form (OpensFirst)

mutual

theorem Linear.reads_tooDeep {depth : Nat} {form : Form} {spent : List Token} :
    Linear form spent → depth < form.depth → ∀ outer, ∃ token, token.kind = .leftParen ∧
      OpensFirst (form.outline outer) (outer + depth) token ∧
      ∀ stop left, ∃ rest,
        ReadsForm stop depth (spent ++ left) (.error ⟨.nestingTooDeep, token.position⟩) rest
  | .atom _, deep, _ => absurd deep (Nat.not_lt_zero _)
  | @Linear.list token close items _ opening closing linear, deep, outer => by
      cases depth with
      | zero => exact ⟨token, opening, .here items _, fun _ _ => ⟨_, .tooDeep opening⟩⟩
      | succ depth =>
          obtain ⟨first, opens, place, inner⟩ :=
            linear.reads_tooDeep (Nat.lt_of_succ_lt_succ deep) (outer + 1)
          -- The list itself stands one level too high to be meant.
          rw [Nat.succ_add_eq_add_succ] at place
          have apart : ∀ others other, (outer + (depth + 1), Form.list others other) ∉
              [(outer, Form.list items token)] := by simp
          refine ⟨first, opens, place.behind apart, ?_⟩
          intro stop left
          obtain ⟨rest, reads⟩ := inner stop (close :: left)
          exact ⟨rest, by simpa using ReadsForm.listFault opening reads⟩

theorem LinearAll.reads_tooDeep {depth : Nat} {items : List Form} {spent : List Token} :
    LinearAll items spent → depth < Form.depthAll items → ∀ outer, ∃ token, token.kind = .leftParen ∧
      OpensFirst (Form.outlineAll outer items) (outer + depth) token ∧
      ∀ stop left, ∃ rest,
        ReadsItems stop depth (spent ++ left) (.error ⟨.nestingTooDeep, token.position⟩) rest
  | .nil, deep, _ => absurd deep (Nat.not_lt_zero _)
  | @LinearAll.cons item items firstSpent laterSpent linear linearAll, deep, outer => by
      -- The first item that goes too deep decides. Those before it are read.
      by_cases firstDeep : depth < item.depth
      · obtain ⟨first, opens, place, inner⟩ := linear.reads_tooDeep firstDeep outer
        refine ⟨first, opens, place.append _, ?_⟩
        intro stop left
        obtain ⟨rest, reads⟩ := inner stop (laterSpent ++ left)
        obtain ⟨_, same, other⟩ := linear.exists_cons
        subst same
        exact ⟨rest, by simpa using ReadsItems.itemFault other reads⟩
      · have shallow := Nat.not_lt.mp firstDeep
        have laterDeep : depth < Form.depthAll items := by
          have : depth < max item.depth (Form.depthAll items) := deep
          omega
        obtain ⟨first, opens, place, inner⟩ := linearAll.reads_tooDeep laterDeep outer
        refine ⟨first, opens, place.behind (Form.not_mem_outline_of_shallow shallow), ?_⟩
        intro stop left
        obtain ⟨rest, reads⟩ := inner stop left
        rw [List.append_assoc]
        exact ⟨rest, reads.behind_item linear shallow⟩

end

mutual

theorem ReadsForm.deeper {stop : Token} {depth more : Nat} {tokens left : List Token}
    {outcome : Except (Located ReadFault) Form} :
    ReadsForm stop depth tokens outcome left → depth ≤ more →
      ReadsForm stop more tokens outcome left ∨ ∃ position, outcome = .error ⟨.nestingTooDeep, position⟩
  | .ended, _ => Or.inl .ended
  | .tooDeep _, _ => Or.inr ⟨_, rfl⟩
  | .list opening items, order => by
      obtain ⟨further, rfl⟩ := Nat.exists_eq_succ_of_ne_zero (Nat.ne_of_gt (Nat.zero_lt_of_lt order))
      rcases items.deeper (Nat.le_of_succ_le_succ order) with again | ⟨_, refused⟩
      · exact Or.inl (.list opening again)
      · cases refused
  | .listFault opening items, order => by
      obtain ⟨further, rfl⟩ := Nat.exists_eq_succ_of_ne_zero (Nat.ne_of_gt (Nat.zero_lt_of_lt order))
      rcases items.deeper (Nat.le_of_succ_le_succ order) with again | ⟨position, refused⟩
      · exact Or.inl (.listFault opening again)
      · cases refused
        exact Or.inr ⟨position, rfl⟩
  | .atom denotes, _ => Or.inl (.atom denotes)
  | .atomFault other failed, _ => Or.inl (.atomFault other failed)

theorem ReadsItems.deeper {stop : Token} {depth more : Nat} {tokens left : List Token}
    {outcome : Except (Located ReadFault) (List Form)} :
    ReadsItems stop depth tokens outcome left → depth ≤ more →
      ReadsItems stop more tokens outcome left ∨ ∃ position, outcome = .error ⟨.nestingTooDeep, position⟩
  | .unclosed, _ => Or.inl .unclosed
  | .closed closing, _ => Or.inl (.closed closing)
  | .item other first later, order => by
      rcases first.deeper order with again | ⟨_, refused⟩
      · rcases later.deeper order with rest | ⟨_, refused⟩
        · exact Or.inl (.item other again rest)
        · cases refused
      · cases refused
  | .itemFault other first, order => by
      rcases first.deeper order with again | ⟨position, refused⟩
      · exact Or.inl (.itemFault other again)
      · cases refused
        exact Or.inr ⟨position, rfl⟩
  | .laterFault other first later, order => by
      rcases first.deeper order with again | ⟨_, refused⟩
      · rcases later.deeper order with rest | ⟨position, refused⟩
        · exact Or.inl (.laterFault other again rest)
        · cases refused
          exact Or.inr ⟨position, rfl⟩
      · cases refused

end

theorem toNat_sub_one {depth : UInt32} (some : 1 ≤ depth) : (depth - 1).toNat + 1 = depth.toNat := by
  have positive : 1 ≤ depth.toNat := some
  rw [UInt32.toNat_sub_of_le _ _ some, UInt32.toNat_one, Nat.sub_add_cancel positive]

/-- Reads a form with a limit of 32 bits, which is one less for the items of a list. Were one taken from
zero, reading would end in the fault `underflow`. -/
def readFormIn32Bits (stop : Token) (underflow : Located ReadFault) (depth : UInt32)
    (tokens : List Token) : Attempt Form tokens :=
  match tokens with
  | [] => .failed ⟨.unexpectedToken stop, stop.position⟩ []
  | token :: rest =>
    if token.kind = .leftParen then
      if depth = 0 then .failed ⟨.nestingTooDeep, token.position⟩ (token :: rest)
      else
        let readItem (tokens : List Token) : Attempt Form tokens :=
          if _ : 1 ≤ depth then readFormIn32Bits stop underflow (depth - 1) tokens
          else .failed underflow tokens
        match readItems stop readItem rest with
        | .failed fault rest => .failed fault rest
        | .read items rest shorter => .read (.list items token) rest (Nat.lt_succ_of_lt shorter)
    else readAtom token rest
termination_by depth.toNat
decreasing_by exact Nat.lt_of_succ_le (Nat.le_of_eq (toNat_sub_one ‹_›))

theorem readFormIn32Bits_eq (stop : Token) (underflow : Located ReadFault) (depth : UInt32)
    (tokens : List Token) :
    readFormIn32Bits stop underflow depth tokens = readForm stop depth.toNat tokens := by
  induction count : depth.toNat generalizing depth tokens with
  | zero =>
      have none : depth = 0 := UInt32.toNat_inj.mp count
      cases tokens with
      | nil => rw [readFormIn32Bits, readForm]
      | cons token rest => rw [readFormIn32Bits, readForm, if_pos none]
  | succ further ih =>
      have nonzero : depth ≠ 0 := by
        rintro rfl
        cases count
      have some : 1 ≤ depth := UInt32.le_iff_toNat_le.mpr (by simp [count])
      -- Every item is read one level further in, with a limit that is one less.
      have items (tokens : List Token) :
          readFormIn32Bits stop underflow (depth - 1) tokens = readForm stop further tokens :=
        ih _ tokens (Nat.succ.inj ((toNat_sub_one some).trans count))
      cases tokens with
      | nil => rw [readFormIn32Bits, readForm]
      | cons token rest =>
          have step := readFormIn32Bits.eq_def stop underflow depth (token :: rest)
          simp only [nonzero, if_false, some, dite_true, items] at step
          exact step

theorem Linear.carried_pairwise {text : Text} {form : Form} {spent left : List Token}
    (linear : Linear form spent) (lexemes : (Scan.ofText text).lexemes = spent ++ left) :
    form.carried.Pairwise fun first second => first.position.Before second.position := by
  obtain ⟨_, _, _, laidOut, _⟩ := Scan.covers text
  have all := laidOut.pairwise
  rw [lexemes] at all
  rw [linear.carried_eq]
  exact (List.pairwise_append.mp all).1.filter _

namespace Form

theorem read_deeper {less more : Nat} (order : less ≤ more) (text : Text) :
    read less text = read more text ∨ ∃ position, read less text = .error ⟨.nestingTooDeep, position⟩ := by
  simp only [read_eq]
  rcases Scan.ofText text with ⟨lexemes, fault | stop⟩
  · exact Or.inl rfl
  · dsimp only
    split
    · exact Or.inl rfl
    · rcases (readForm_reads stop less lexemes).deeper order with again | ⟨position, refused⟩
      · exact Or.inl (by rw [again.readForm_leaves.1])
      · exact Or.inr ⟨position, by rw [refused]; rfl⟩

/-- The parenthesis that comes first in the text of those with exactly `depth` lists of the form around
them. -/
structure FirstInside (form : Form) (depth : Nat) (token : Token) : Prop where
  opening : token.kind = .leftParen
  inside : ∃ items, (depth, .list items token) ∈ form.outline 0
  first : ∀ items other, (depth, .list items other) ∈ form.outline 0 →
    other = token ∨ token.position.Before other.position

theorem OpensFirst.firstInside {form : Form} {depth : Nat} {token : Token}
    (opens : OpensFirst (form.outline 0) depth token) (opening : token.kind = .leftParen)
    (ordered : form.carried.Pairwise fun first second => first.position.Before second.position) :
    form.FirstInside depth token := by
  rw [carried, List.pairwise_map] at ordered
  obtain ⟨before, items, after, same, none⟩ := opens
  rw [same] at ordered
  have later := (List.pairwise_cons.mp (List.pairwise_append.mp ordered).2.1).1
  refine ⟨opening, ⟨items, by simp [same]⟩, ?_⟩
  intro others other member
  rw [same] at member
  rcases List.mem_append.mp member with earlier | rest
  · exact absurd earlier (none others other)
  · rcases List.mem_cons.mp rest with here | behind
    · cases here
      exact Or.inl rfl
    · exact Or.inr (later _ behind)

theorem read_tooDeep {depthLimit : Nat} {text : Text} {form : Form} {spent left : List Token} {stop : Token}
    (scan : Scan.ofText text = ⟨spent ++ left, .ok stop⟩) (linear : Linear form spent)
    (deep : depthLimit < form.depth) :
    ∃ token, form.FirstInside depthLimit token ∧
      read depthLimit text = .error ⟨.nestingTooDeep, token.position⟩ := by
  obtain ⟨token, opening, opens, refused⟩ := linear.reads_tooDeep deep 0
  rw [Nat.zero_add] at opens
  obtain ⟨rest, fails⟩ := refused stop left
  have ordered := linear.carried_pairwise (congrArg Scan.lexemes scan)
  exact ⟨token, opens.firstInside opening ordered, read_of_scan scan (by simp [linear.ne_nil]) fails⟩

/-- The limit only ever refuses lists that go too deep. With less of a limit reading is the same or is
refused for that. What was read is read with every limit up from its depth, and with a lower one it is
refused at the first parenthesis with as many lists around it as the limit allows. Counting the limit down
in 32 bits is exact, whatever would come of an underflow. -/
theorem depth_limit_exact :
    (∀ text less more, less ≤ more → read less text = read more text ∨
      ∃ position, read less text = .error ⟨.nestingTooDeep, position⟩) ∧
    (∀ limit text form, read limit text = .ok (some form) →
      (∀ enough, form.depth ≤ enough → read enough text = .ok (some form)) ∧
      ∀ less, less < form.depth → ∃ token, form.FirstInside less token ∧
        read less text = .error ⟨.nestingTooDeep, token.position⟩) ∧
    ∀ stop underflow (depth : UInt32) tokens,
      readFormIn32Bits stop underflow depth tokens = readForm stop depth.toNat tokens := by
  refine ⟨?_, ?_, readFormIn32Bits_eq⟩
  · intro text less more order
    exact read_deeper order text
  · intro limit text form found
    obtain ⟨spent, left, stop, scan, linear, _⟩ := read_eq_some_iff.mp found
    constructor
    · intro enough shallow
      exact read_eq_some_iff.mpr ⟨spent, left, stop, scan, linear, shallow⟩
    · intro less deep
      exact read_tooDeep scan linear deep

theorem first_list_in_list_refused :
    ∃ form token, read 2 "(()())".toList = .ok (some form) ∧ form.FirstInside 1 token ∧
      token.position = ⟨0, 1⟩ ∧ read 1 "(()())".toList = .error ⟨.nestingTooDeep, token.position⟩ := by
  have lexemes : (Scan.ofText "(()())".toList).lexemes = [⟨.leftParen, ['('], ⟨0, 0⟩⟩,
      ⟨.leftParen, ['('], ⟨0, 1⟩⟩, ⟨.rightParen, [')'], ⟨0, 2⟩⟩, ⟨.leftParen, ['('], ⟨0, 3⟩⟩,
      ⟨.rightParen, [')'], ⟨0, 4⟩⟩, ⟨.rightParen, [')'], ⟨0, 5⟩⟩] := by decide +kernel
  have ending : (Scan.ofText "(()())".toList).ending = .ok (.eof ⟨0, 6⟩) := by decide +kernel
  have found : read 2 "(()())".toList = .ok (some (.list [.list [] ⟨.leftParen, ['('], ⟨0, 1⟩⟩,
      .list [] ⟨.leftParen, ['('], ⟨0, 3⟩⟩] ⟨.leftParen, ['('], ⟨0, 0⟩⟩)) :=
    read_of_scan (congrArg₂ Scan.mk lexemes ending) (by simp)
      (.list rfl (.item (by decide) (.list rfl (.closed rfl))
        (.item (by decide) (.list rfl (.closed rfl)) (.closed rfl))))
  obtain ⟨token, first, refused⟩ := (depth_limit_exact.2.1 2 _ _ found).2 1 (by decide)
  refine ⟨_, token, found, first, ?_, refused⟩
  have before := first.first [] ⟨.leftParen, ['('], ⟨0, 1⟩⟩ (by simp [outline, outlineAll])
  obtain ⟨items, member⟩ := first.inside
  obtain ⟨_, rfl | rfl⟩ : items = [] ∧
      (token = ⟨.leftParen, ['('], ⟨0, 1⟩⟩ ∨ token = ⟨.leftParen, ['('], ⟨0, 3⟩⟩) := by
    simpa [outline, outlineAll, ← and_or_left] using member
  · rfl
  · simp [Position.Before] at before

end Form

end Sexpr
