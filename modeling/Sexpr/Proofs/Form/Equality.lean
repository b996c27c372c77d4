import Sexpr.Proofs.Double.Equality
import Sexpr.Proofs.Form.Dump
import Sexpr.Proofs.Form.Readable
/-!
Equality of forms. Main statement: forms are equal if they have one structure and equal atoms at each place,
whatever tokens they carry. This is an equivalence on the forms that hold nothing that is not a number, and
dumps keep it, and so do printed texts but for negative zero.
-/
namespace Sexpr

namespace Atom

/-- Equality of atoms, said without comparing them: numbers are equal as numbers, and all else is the same. -/
inductive Equals : Atom → Atom → Prop
  | nil : Equals .nil .nil
  | bool {value : Bool} : Equals (.bool value) (.bool value)
  | number {x y : Double} : x.EqualNumbers y → Equals (.number x) (.number y)
  | string {text : Text} : Equals (.string text) (.string text)
  | symbol {text : Text} : Equals (.symbol text) (.symbol text)

variable {a b c : Atom}

theorem same_iff : a.same b = true ↔ a.Equals b := by
  constructor
  · intro equal
    cases a with
    | nil =>
        cases b with
        | nil => exact .nil
        | _ => cases equal
    | bool value =>
        cases b with
        | bool other =>
            cases of_decide_eq_true equal
            exact .bool
        | _ => cases equal
    | number x =>
        cases b with
        | number y => exact .number (Double.same_iff.mp equal)
        | _ => cases equal
    | string text =>
        cases b with
        | string other =>
            cases of_decide_eq_true equal
            exact .string
        | _ => cases equal
    | symbol text =>
        cases b with
        | symbol other =>
            cases of_decide_eq_true equal
            exact .symbol
        | _ => cases equal
  · intro equal
    cases equal with
    | nil => rfl
    | bool => exact decide_eq_true rfl
    | number numbers => exact Double.same_iff.mpr numbers
    | string => exact decide_eq_true rfl
    | symbol => exact decide_eq_true rfl

namespace Equals

theorem symm (equal : a.Equals b) : b.Equals a := by
  cases equal with
  | number numbers => exact .number numbers.symm
  | nil => exact .nil
  | bool => exact .bool
  | string => exact .string
  | symbol => exact .symbol

theorem trans (equal : a.Equals b) (next : b.Equals c) : a.Equals c := by
  cases equal with
  | number numbers =>
      cases next with
      | number others => exact .number (numbers.trans others)
  | nil => exact next
  | bool => exact next
  | string => exact next
  | symbol => exact next

theorem itself_iff : a.Equals a ↔ ∀ x, a = .number x → x.isNaN = false := by
  cases a with
  | number x =>
      rw [← same_iff, Atom.same, Double.same_iff, Double.EqualNumbers.itself_iff]
      simp
  | nil => exact iff_of_true .nil (by simp)
  | bool => exact iff_of_true .bool (by simp)
  | string => exact iff_of_true .string (by simp)
  | symbol => exact iff_of_true .symbol (by simp)

theorem eq (equal : a.Equals b) (first : a ≠ .number .negativeZero) (second : b ≠ .number .negativeZero) :
    a = b := by
  cases equal with
  | @number x y numbers =>
      congr 1
      refine Double.eq_of_same (Double.same_iff.mpr numbers) ?_ ?_
      · rintro rfl
        exact first rfl
      · rintro rfl
        exact second rfl
  | _ => rfl

end Equals

theorem Readable.ne_negativeZero (readable : a.Readable) : a ≠ .number .negativeZero := by
  rintro rfl
  cases readable with
  | number _ unsigned => cases unsigned

end Atom

namespace Form

variable {u v w : Form}

theorem same_iff_equals : v.same w = true ↔ Alike Atom.Equals v w := by
  rw [same_iff_alike]
  exact ⟨Alike.mono fun _ _ => Atom.same_iff.mp, Alike.mono fun _ _ => Atom.same_iff.mpr⟩

theorem same_comm (v w : Form) : v.same w = w.same v := by
  rw [Bool.eq_iff_iff, same_iff_equals, same_iff_equals]
  exact ⟨Alike.symm fun _ _ => Atom.Equals.symm, Alike.symm fun _ _ => Atom.Equals.symm⟩

theorem same_trans (first : u.same v = true) (second : v.same w = true) : u.same w = true := by
  rw [same_iff_equals] at first second ⊢
  exact first.trans (fun _ _ _ equal next => equal.trans next) second

theorem same_self_iff :
    v.same v = true ↔ v.Every fun value => ∀ x, value = .number x → x.isNaN = false := by
  rw [same_iff_equals, Every.alike_self_iff]
  exact Every.congr fun _ => Atom.Equals.itself_iff

theorem Readable.same_self (readable : v.Readable) : v.same v = true :=
  same_iff_alike.mpr (readable.alike fun _ holds => holds.same_self)

theorem same_of_other_tokens {v' w' : Form} (first : Alike (· = ·) v v') (second : Alike (· = ·) w w') :
    v.same w = v'.same w' := by
  rw [first.same_eq, same_comm, second.same_eq, same_comm]

theorem print_eq_of_same (same : v.same w = true) (first : v.Every (· ≠ .number .negativeZero))
    (second : w.Every (· ≠ .number .negativeZero)) : v.print = w.print := by
  apply (first.along second (same_iff_equals.mp same)).print_eq
  rintro a b ⟨first, second, equals⟩
  exact congrArg Atom.text (equals.eq first second)

/-- Equality of forms looks at their structure, at all of it, and at nothing else. Forms are equal if they
have one shape with equal atoms at each place. This is symmetric and transitive, and reflexive on the forms
that hold nothing that is not a number, as all do that were read. Tokens do not matter. Dumps of equal forms
are equal, and so are their texts if no negative zero is in them. -/
theorem same_is_structural :
    (∀ v w : Form, v.same w = true ↔ Alike Atom.Equals v w) ∧
      (∀ v w : Form, v.same w = w.same v) ∧
      (∀ u v w : Form, u.same v = true → v.same w = true → u.same w = true) ∧
      (∀ v : Form, v.same v = true ↔ v.Every fun value => ∀ x, value = .number x → x.isNaN = false) ∧
      (∀ depthLimit text (v : Form), read depthLimit text = .ok (some v) → v.same v = true) ∧
      (∀ v v' w w' : Form, Alike (· = ·) v v' → Alike (· = ·) w w' → v.same w = v'.same w') ∧
      (∀ v w : Form, v.same w = true → v.dump.same w.dump = true) ∧
      ∀ v w : Form, v.same w = true → v.Every (· ≠ .number .negativeZero) →
        w.Every (· ≠ .number .negativeZero) → v.print = w.print := by
  refine ⟨fun _ _ => same_iff_equals, same_comm, fun _ _ _ => same_trans, fun _ => same_self_iff,
    ?_, fun _ _ _ _ => same_of_other_tokens, ?_, fun _ _ => print_eq_of_same⟩
  · intro depthLimit text v found
    exact (readable_of_read found).1.same_self
  · intro v w same
    rw [same_dump, same]

theorem zeros_are_equal_in_lists :
    ∃ first second third : Form, read 1 "(0)".toList = .ok (some first) ∧ first.same first = true ∧
      first.same second = true ∧ second.same third = true ∧ second.print = "(-0)".toList ∧
      first.same third = true ∧ first.dump.same third.dump = true ∧ first.print = third.print ∧
      third.same second = first.same second := by
  let listOf (zero : Double) (inner outer : Token) : Form := .list [.atom (.number zero) inner] outer
  let elsewhere : Token := .eof .start
  let zero : Double := ⟨false, 0, by decide⟩
  let first := listOf zero ⟨.number, ['0'], ⟨0, 1⟩⟩ ⟨.leftParen, ['('], ⟨0, 0⟩⟩
  let second := listOf .negativeZero elsewhere elsewhere
  let third := listOf zero elsewhere elsewhere
  have lexemes : (Scan.ofText "(0)".toList).lexemes = [⟨.leftParen, ['('], ⟨0, 0⟩⟩,
      ⟨.number, ['0'], ⟨0, 1⟩⟩, ⟨.rightParen, [')'], ⟨0, 2⟩⟩] := by decide +kernel
  have ending : (Scan.ofText "(0)".toList).ending = .ok (.eof ⟨0, 3⟩) := by decide +kernel
  have found : read 1 "(0)".toList = .ok (some first) :=
    read_of_scan (congrArg₂ Scan.mk lexemes ending) (by simp)
      (.list rfl (.item (by decide) (.atom (.number rfl (by decide +kernel))) (.closed rfl)))
  have unsigned {inner outer : Token} : (listOf zero inner outer).Every (· ≠ .number .negativeZero) :=
    .list (List.forall_mem_singleton.mpr (.atom (by decide)))
  obtain ⟨_, _, trans, _, ofRead, tokens, dumps, prints⟩ := same_is_structural
  have one : first.same second = true := by decide
  have other : second.same third = true := by decide
  have ends := trans first second third one other
  have copied : Alike (· = ·) third first := .list (.cons (.atom rfl) .nil)
  have unchanged : Alike (· = ·) second second := .list (.cons (.atom rfl) .nil)
  exact ⟨first, second, third, found, ofRead _ _ _ found, one, other, by decide +kernel, ends,
    dumps _ _ ends, prints _ _ ends unsigned unsigned, tokens _ _ _ _ copied unchanged⟩

end Form

end Sexpr
