import Sexpr.Proofs.Form.Dump
import Sexpr.Proofs.Form.RoundTrip
/-!
Dumps that are printed and read. The names of kinds are symbols in a dump, but the name `nil` reads as a
value. Main statement: the dump of a form that was read is read back with one level of nesting more, but for
this name, so that its text still tells forms apart exactly as far as they differ.
-/
namespace Sexpr

/-- The name of a kind, as it is read. -/
def kindAsRead (name : Text) : Atom :=
  if name = Atom.nil.kindName then .nil else .symbol name

theorem kindAsRead_nil : kindAsRead Atom.nil.kindName = .nil := rfl

theorem kindAsRead_of_ne_nil {name : Text} (other : name ≠ Atom.nil.kindName) :
    kindAsRead name = .symbol name :=
  if_neg other

theorem text_kindAsRead (name : Text) : (kindAsRead name).text = name := by
  by_cases same : name = Atom.nil.kindName
  · rw [same, kindAsRead_nil]
    rfl
  · rw [kindAsRead_of_ne_nil same]
    rfl

theorem kindAsRead_inj {first second : Text} : kindAsRead first = kindAsRead second ↔ first = second := by
  refine ⟨?_, congrArg kindAsRead⟩
  intro same
  rw [← text_kindAsRead first, same, text_kindAsRead]

namespace Form

theorem tellsKinds_read : TellsKinds kindAsRead (· = ·) := by
  refine ⟨fun _ _ => kindAsRead_inj, ?_, rfl⟩
  rintro a _ rfl
  rfl

theorem readable_kindAsRead (form : Form) : (kindAsRead form.kindName).Readable := by
  have symbol (name : Text) (spelled : name.all isSymbolChar = true)
      (letter : ∃ c ∈ name.head?, c.isDigit = false) (other : ¬ Literal name) :
      (kindAsRead name).Readable := by
    have notNil : name ≠ Atom.nil.kindName := fun same => other (Or.inr (Or.inr same))
    rw [kindAsRead_of_ne_nil notNil]
    exact .symbol ⟨List.all_eq_true.mp spelled, letter⟩ other
  cases form with
  | atom value token =>
      cases value with
      | nil => exact .nil
      | bool _ => exact symbol "bool".toList (by decide) ⟨'b', rfl, rfl⟩ (by simp [Literal])
      | number _ => exact symbol "number".toList (by decide) ⟨'n', rfl, rfl⟩ (by simp [Literal])
      | string _ => exact symbol "string".toList (by decide) ⟨'s', rfl, rfl⟩ (by simp [Literal])
      | symbol _ => exact symbol "symbol".toList (by decide) ⟨'s', rfl, rfl⟩ (by simp [Literal])
  | list items token => exact symbol "list".toList (by decide) ⟨'l', rfl, rfl⟩ (by simp [Literal])

theorem Readable.dumpAsRead {form : Form} (readable : form.Readable) :
    (form.dumpWith kindAsRead).Readable := by
  induction form using Form.induct with
  | atom value token =>
      cases readable with
      | atom holds =>
          have name : (kindAsRead value.kindName).Readable := readable_kindAsRead (.atom value token)
          refine .list (List.forall_mem_cons.mpr ⟨.atom name, ?_⟩)
          intro item member
          obtain rfl := Atom.eq_of_mem_details member
          exact .atom holds
  | list items token ih =>
      cases readable with
      | list each =>
          have name : (kindAsRead "list".toList).Readable := readable_kindAsRead (.list items token)
          rw [dumpWith_list]
          refine .list (List.forall_mem_cons.mpr ⟨.atom name, ?_⟩)
          intro dumped member
          obtain ⟨item, inside, rfl⟩ := List.mem_map.mp member
          exact ih item inside (each item inside)

theorem depth_dumpWith_le (head : Text → Atom) (form : Form) :
    (form.dumpWith head).depth ≤ form.depth + 1 := by
  induction form using Form.induct with
  | atom value token =>
      refine Nat.succ_le_succ (depthAll_le_iff.mpr (List.forall_mem_cons.mpr ⟨Nat.le_refl 0, ?_⟩))
      intro item member
      obtain rfl := Atom.eq_of_mem_details member
      exact Nat.le_refl 0
  | list items token ih =>
      rw [dumpWith_list]
      refine Nat.succ_le_succ (depthAll_le_iff.mpr (List.forall_mem_cons.mpr ⟨Nat.zero_le _, ?_⟩))
      intro dumped member
      obtain ⟨item, inside, rfl⟩ := List.mem_map.mp member
      have shallow : item.depth ≤ depthAll items := depthAll_le_iff.mp (Nat.le_refl _) item inside
      exact (ih item inside).trans (Nat.succ_le_succ shallow)

theorem alike_details {R : Atom → Atom → Prop} {value : Atom} (itself : R value value) (s t : Token) :
    List.Forall₂ (Alike R) (value.details s) (value.details t) := by
  by_cases none : value = .nil
  · rw [none]
    exact .nil
  · rw [Atom.details_of_ne_nil none, Atom.details_of_ne_nil none]
    exact .cons (.atom itself) .nil

theorem alike_dumps_iff {head other : Text → Atom} {R : Atom → Atom → Prop} {form : Form}
    (lists : R (head "list".toList) (other "list".toList)) (itself : form.Every fun value => R value value) :
    Alike R (form.dumpWith head) (form.dumpWith other) ↔
      form.Every fun value => R (head value.kindName) (other value.kindName) := by
  induction form using Form.induct with
  | atom value token =>
      cases itself with
      | atom holds =>
          rw [dumpWith, dumpWith, Alike.list_iff, List.forall₂_cons, Alike.atom_iff, Every.atom_iff]
          exact and_iff_left (alike_details holds token token)
  | list items token ih =>
      cases itself with
      | list each =>
          rw [dumpWith_list, dumpWith_list, Alike.list_iff, List.forall₂_cons, Alike.atom_iff,
            and_iff_right lists, List.forall₂_map_left_iff, List.forall₂_map_right_iff, List.forall₂_same,
            Every.list_iff]
          exact forall₂_congr fun item member => ih item member (each item member)

theorem print_dumpAsRead (form : Form) : (form.dumpWith kindAsRead).print = form.dump.print := by
  have alike : Alike (fun a b => a.text = b.text) (form.dumpWith kindAsRead) form.dump := by
    rw [dump_eq]
    apply (alike_dumps_iff (R := fun a b => a.text = b.text) (text_kindAsRead _) (.of_forall fun _ => rfl)).mpr
    exact .of_forall fun value => text_kindAsRead value.kindName
  exact alike.print_eq fun _ _ same => same

theorem Readable.dumpAsRead_same_iff {form : Form} (readable : form.Readable) :
    (form.dumpWith kindAsRead).same form.dump = true ↔ form.Every (· ≠ .nil) := by
  have itself : form.Every fun value => value.same value = true :=
    Every.mono (fun _ holds => holds.same_self) readable
  have symbol {name : Text} (other : name ≠ Atom.nil.kindName) :
      (kindAsRead name).same (.symbol name) = true := by
    rw [kindAsRead_of_ne_nil other]
    simp [Atom.same]
  rw [dump_eq, same_iff_alike, alike_dumps_iff (symbol (by decide)) itself]
  apply Every.congr
  intro value
  constructor
  · rintro same rfl
    cases same
  · intro other
    exact symbol fun same => other (Atom.kindName_eq_nil_iff.mp same)

theorem Readable.print_dump_eq_iff {first second : Form} (readable : first.Readable)
    (other : second.Readable) : first.dump.print = second.dump.print ↔ first.same second = true := by
  rw [← print_dumpAsRead, ← print_dumpAsRead, readable.dumpAsRead.print_eq_iff other.dumpAsRead,
    tellsKinds_read.alike_dumpWith_iff, readable.same_iff other]

/-- The dump of what was read is read back, with one level of nesting more, but for the names `nil` of atoms,
which are read as values; so it is read back as itself exactly if there are no such atoms. In any case the
dumps of what was read from two texts are printed alike exactly if what was read is equal. -/
theorem dump_reads_back :
    (∀ depthLimit text form, read depthLimit text = .ok (some form) → ∃ again,
      read (depthLimit + 1) form.dump.print = .ok (some again) ∧
        Alike (· = ·) again (form.dumpWith kindAsRead) ∧
        (again.same form.dump = true ↔ form.Every (· ≠ .nil))) ∧
      ∀ depthLimit text form otherLimit otherText other, read depthLimit text = .ok (some form) →
        read otherLimit otherText = .ok (some other) →
          (form.dump.print = other.dump.print ↔ form.same other = true) := by
  constructor
  · intro depthLimit text form found
    obtain ⟨readable, shallow⟩ := readable_of_read found
    have deep := (depth_dumpWith_le kindAsRead form).trans (Nat.succ_le_succ shallow)
    obtain ⟨again, reads, alike⟩ := readable.dumpAsRead.read_print deep
    rw [print_dumpAsRead] at reads
    refine ⟨again, reads, alike, ?_⟩
    rw [alike.same_eq, readable.dumpAsRead_same_iff]
  · intro depthLimit text form otherLimit otherText other found otherFound
    exact (readable_of_read found).1.print_dump_eq_iff (readable_of_read otherFound).1

theorem dump_of_nil_reads_back :
    ∃ form again other, read 1 "(nil)".toList = .ok (some form) ∧
      form.dump.print = "(list (nil))".toList ∧
      read 2 form.dump.print = .ok (some again) ∧ again.same form.dump = false ∧
      read 1 "( nil)".toList = .ok (some other) ∧ other.dump.print = form.dump.print := by
  have found (text : Text) (place last : Position)
      (lexemes : (Scan.ofText text).lexemes = [⟨.leftParen, ['('], ⟨0, 0⟩⟩,
        ⟨.symbol, "nil".toList, place⟩, ⟨.rightParen, [')'], place.through "nil".toList⟩])
      (ending : (Scan.ofText text).ending = .ok (.eof last)) :
      read 1 text = .ok (some (.list [.atom .nil ⟨.symbol, "nil".toList, place⟩]
        ⟨.leftParen, ['('], ⟨0, 0⟩⟩)) :=
    read_of_scan (congrArg₂ Scan.mk lexemes ending) (by simp)
      (.list rfl (.item nofun (.atom (.nil rfl rfl)) (.closed rfl)))
  have first := found "(nil)".toList ⟨0, 1⟩ ⟨0, 5⟩ (by decide +kernel) (by decide +kernel)
  have second := found "( nil)".toList ⟨0, 2⟩ ⟨0, 6⟩ (by decide +kernel) (by decide +kernel)
  obtain ⟨again, reads, _, itself⟩ := dump_reads_back.1 _ _ _ first
  refine ⟨_, again, _, first, by decide, reads, ?_, second, ?_⟩
  · apply Bool.eq_false_iff.mpr
    intro same
    have each := Every.list_iff.mp (itself.mp same) _ (List.mem_singleton_self _)
    exact Every.atom_iff.mp each rfl
  · exact (dump_reads_back.2 _ _ _ _ _ _ second first).mpr rfl

end Form

end Sexpr
