import Mathlib.Data.List.Forall2
import Sexpr.Form.Print
import Sexpr.Form.Same
/-!
Forms of one structure. A relation of atoms is lifted to forms, tokens ignored: `Alike (· = ·)` is
equality up to tokens, and `same` is the lifting of equality of atoms. Main statements: forms whose
atoms have equal texts print alike and nest equally deep.
-/
namespace Sexpr.Form

/-- Forms of one structure with related atoms at each place, whatever their tokens. -/
inductive Alike (R : Atom → Atom → Prop) : Form → Form → Prop
  | atom {a b : Atom} {s t : Token} : R a b → Alike R (.atom a s) (.atom b t)
  | list {xs ys : List Form} {s t : Token} : List.Forall₂ (Alike R) xs ys →
      Alike R (.list xs s) (.list ys t)

inductive Every (P : Atom → Prop) : Form → Prop
  | atom {a : Atom} {t : Token} : P a → Every P (.atom a t)
  | list {items : List Form} {t : Token} : (∀ item ∈ items, Every P item) → Every P (.list items t)

mutual

def depth : Form → Nat
  | .atom _ _ => 0
  | .list items _ => depthAll items + 1

def depthAll : List Form → Nat
  | [] => 0
  | item :: items => max (depth item) (depthAll items)

end

variable {P Q : Atom → Prop} {R S T : Atom → Atom → Prop} {u v w : Form}

namespace Alike

theorem atom_iff {a b : Atom} {s t : Token} : Alike R (.atom a s) (.atom b t) ↔ R a b :=
  ⟨fun | .atom related => related, .atom⟩

theorem list_iff {xs ys : List Form} {s t : Token} :
    Alike R (.list xs s) (.list ys t) ↔ List.Forall₂ (Alike R) xs ys :=
  ⟨fun | .list each => each, .list⟩

theorem induct {motive : ∀ v w, Alike R v w → Prop}
    (atom : ∀ {a b s t} (related : R a b), motive (.atom a s) (.atom b t) (.atom related))
    (list : ∀ {xs ys s t} (each : List.Forall₂ (Alike R) xs ys),
      List.Forall₂ (fun x y => ∃ alike : Alike R x y, motive x y alike) xs ys →
        motive (.list xs s) (.list ys t) (.list each))
    {v w : Form} (alike : Alike R v w) : motive v w alike := by
  induction v using Form.induct generalizing w with
  | atom value token =>
      cases alike with
      | atom related => exact atom related
  | list items token ih =>
      cases alike with
      | list each =>
          apply list each
          have both := (List.forall₂_and_left items _).mpr ⟨fun item member w => @ih item member w, each⟩
          exact both.imp fun x y first => ⟨first.2, first.1 y first.2⟩

theorem mono (weaker : ∀ a b, R a b → S a b) (alike : Alike R v w) : Alike S v w := by
  induction alike using induct with
  | atom related => exact .atom (weaker _ _ related)
  | list _ ih => exact .list (ih.imp fun _ _ item => item.2)

theorem symm (turned : ∀ a b, R a b → S b a) (alike : Alike R v w) : Alike S w v := by
  induction alike using induct with
  | atom related => exact .atom (turned _ _ related)
  | list _ ih => exact .list (List.Forall₂.flip (ih.imp fun _ _ item => item.2))

theorem both (first : Alike R v w) (second : Alike S v w) :
    Alike (fun a b => R a b ∧ S a b) v w := by
  induction first using induct with
  | atom related =>
      cases second with
      | atom other => exact .atom ⟨related, other⟩
  | list _ ih =>
      cases second with
      | list others => exact .list (List.Forall₂.mp (fun _ _ item => item.2) ih others)

theorem trans (chained : ∀ a b c, R a b → S b c → T a c) (first : Alike R v w)
    (second : Alike S w u) : Alike T v u := by
  induction first using induct generalizing u with
  | atom related =>
      cases second with
      | atom other => exact .atom (chained _ _ _ related other)
  | list _ ih =>
      cases second with
      | @list _ zs _ _ others =>
          apply Alike.list
          -- What is known of each item suffices: only the pairing of the lists is left to follow.
          clear * - ih others
          induction ih generalizing zs with
          | nil =>
              cases others
              exact .nil
          | cons first _ later =>
              cases others with
              | cons second others => exact .cons (first.2 second) (later others)

end Alike

namespace Every

theorem atom_iff {a : Atom} {t : Token} : Every P (.atom a t) ↔ P a :=
  ⟨fun | .atom holds => holds, .atom⟩

theorem list_iff {items : List Form} {t : Token} :
    Every P (.list items t) ↔ ∀ item ∈ items, Every P item :=
  ⟨fun | .list each => each, .list⟩

theorem mono (weaker : ∀ a, P a → Q a) (every : Every P v) : Every Q v := by
  induction v using Form.induct with
  | atom value token =>
      cases every with
      | atom holds => exact .atom (weaker _ holds)
  | list items token ih =>
      cases every with
      | list each => exact .list fun item member => ih item member (each item member)

theorem congr (equivalent : ∀ a, P a ↔ Q a) : Every P v ↔ Every Q v :=
  ⟨mono fun a => (equivalent a).mp, mono fun a => (equivalent a).mpr⟩

theorem of_forall (holds : ∀ a, P a) : Every P v := by
  induction v using Form.induct with
  | atom value token => exact .atom (holds value)
  | list items token ih => exact .list ih

theorem alike (reflexive : ∀ a, P a → R a a) (every : Every P v) : Alike R v v := by
  induction v using Form.induct with
  | atom value token =>
      cases every with
      | atom holds => exact .atom (reflexive _ holds)
  | list items token ih =>
      cases every with
      | list each => exact .list (List.forall₂_same.mpr fun item member => ih item member (each item member))

theorem transfer (carried : ∀ a b, P a → R a b → Q b) (every : Every P v) (alike : Alike R v w) :
    Every Q w := by
  induction alike using Alike.induct with
  | atom related =>
      cases every with
      | atom holds => exact .atom (carried _ _ holds related)
  | list _ ih =>
      cases every with
      | list holds =>
          apply Every.list
          clear * - ih holds
          induction ih with
          | nil => simp
          | cons first _ later =>
              intro item member
              rcases List.mem_cons.mp member with rfl | member
              · exact first.2 (holds _ (by simp))
              · exact later (fun item inside => holds item (List.mem_cons_of_mem _ inside)) item member

theorem choose (every : Every (fun a => ∃ b, Q b ∧ R b a) v) : ∃ w, Every Q w ∧ Alike R w v := by
  induction v using Form.induct with
  | atom value token =>
      cases every with
      | atom holds =>
          obtain ⟨b, holds, related⟩ := holds
          exact ⟨.atom b token, .atom holds, .atom related⟩
  | list items token ih =>
      cases every with
      | list each =>
          suffices replaced : ∃ others, (∀ other ∈ others, Every Q other) ∧
              List.Forall₂ (Alike R) others items by
            obtain ⟨others, holds, related⟩ := replaced
            exact ⟨.list others token, .list holds, .list related⟩
          induction items with
          | nil => exact ⟨[], by simp, .nil⟩
          | cons item items later =>
              obtain ⟨other, holds, related⟩ := ih item (by simp) (each item (by simp))
              obtain ⟨others, allHold, allRelated⟩ := later
                (fun item member => ih item (List.mem_cons_of_mem _ member))
                (fun item member => each item (List.mem_cons_of_mem _ member))
              exact ⟨other :: others, by simpa using ⟨holds, allHold⟩, .cons related allRelated⟩

theorem alike_self_iff : Alike R v v ↔ Every (fun a => R a a) v := by
  constructor
  · intro alike
    induction v using Form.induct with
    | atom value token => exact .atom (Alike.atom_iff.mp alike)
    | list items token ih =>
        have each := List.forall₂_same.mp (Alike.list_iff.mp alike)
        exact .list fun item member => ih item member (each item member)
  · exact alike fun _ related => related

theorem along (first : Every P v) (second : Every Q w) (related : Alike R v w) :
    Alike (fun a b => P a ∧ Q b ∧ R a b) v w := by
  have before : Alike (fun a b => a = b ∧ P a) v v := first.alike fun _ holds => ⟨rfl, holds⟩
  have behind : Alike (fun a b => a = b ∧ Q a) w w := second.alike fun _ holds => ⟨rfl, holds⟩
  refine before.trans ?_ (related.trans (T := fun a b => Q b ∧ R a b) ?_ behind)
  · rintro a _ b ⟨rfl, holds⟩ rest
    exact ⟨holds, rest⟩
  · rintro a b _ related ⟨rfl, holds⟩
    exact ⟨holds, related⟩

end Every

/-- Equality of forms is equality of their atoms, place by place. -/
theorem same_iff_alike : v.same w = true ↔ Alike (fun a b => a.same b = true) v w := by
  induction v using Form.induct generalizing w with
  | atom value token =>
      cases w with
      | atom other _ =>
          simp only [same, Alike.atom_iff]
      | list _ _ =>
          simp only [same, Bool.false_eq_true, false_iff]
          exact nofun
  | list items token ih =>
      cases w with
      | atom _ _ =>
          simp only [same, Bool.false_eq_true, false_iff]
          exact nofun
      | list others other =>
          have each : sameAll items others = true ↔
              List.Forall₂ (Alike fun a b => a.same b = true) items others := by
            induction items generalizing others with
            | nil => cases others <;> simp [sameAll]
            | cons item items later =>
                cases others with
                | nil => simp [sameAll]
                | cons other others =>
                    simp [sameAll, ih item (by simp),
                      later fun item member => ih item (List.mem_cons_of_mem _ member)]
          simp only [same, each, Alike.list_iff]

theorem Alike.same_eq (alike : Alike (· = ·) v w) (u : Form) : v.same u = w.same u := by
  have turned : Alike (· = ·) w v := alike.symm fun _ _ => Eq.symm
  rw [Bool.eq_iff_iff, same_iff_alike, same_iff_alike]
  refine ⟨turned.trans ?_, alike.trans ?_⟩
  all_goals
    rintro a _ b rfl related
    exact related

theorem depthAll_eq (items : List Form) : depthAll items = (items.map depth).foldr max 0 := by
  induction items with
  | nil => rfl
  | cons item items ih => simp [depthAll, ih]

theorem depthAll_le_iff {items : List Form} {depth : Nat} :
    depthAll items ≤ depth ↔ ∀ item ∈ items, item.depth ≤ depth := by
  induction items with
  | nil => simp [depthAll]
  | cons item items ih => rw [depthAll, Nat.max_le, ih, List.forall_mem_cons]

theorem printAll_eq (items : List Form) :
    printAll items = [' '].intercalate (items.map print) := by
  induction items with
  | nil => rfl
  | cons item items ih =>
      cases items with
      | nil => simp [printAll]
      | cons next items => simp [printAll, ih, List.intercalate_cons_cons]

theorem map_eq_of_forall₂ {α β : Type} {f : α → β} {xs ys : List α}
    (each : List.Forall₂ (fun x y => f x = f y) xs ys) : xs.map f = ys.map f := by
  rw [← List.forall₂_eq_eq_eq, List.forall₂_map_left_iff, List.forall₂_map_right_iff]
  exact each

theorem forall₂_congr_of_mem {α β : Type} {P Q : α → β → Prop} {xs : List α} {ys : List β}
    (each : ∀ x ∈ xs, ∀ y, P x y ↔ Q x y) : List.Forall₂ P xs ys ↔ List.Forall₂ Q xs ys := by
  have inside (S : α → β → Prop) :
      List.Forall₂ (fun x y => x ∈ xs ∧ S x y) xs ys ↔ List.Forall₂ S xs ys := by
    rw [List.forall₂_and_left]
    exact and_iff_right fun _ member => member
  have same : (fun x y => x ∈ xs ∧ P x y) = fun x y => x ∈ xs ∧ Q x y := by
    funext x y
    exact propext (and_congr_right fun member => each x member y)
  rw [← inside P, ← inside Q, same]

theorem Alike.depth_eq (alike : Alike R v w) : v.depth = w.depth := by
  induction alike using induct with
  | atom _ => rfl
  | list _ ih =>
      have depths := map_eq_of_forall₂ (ih.imp fun _ _ item => item.2)
      simp only [depth, depthAll_eq, depths]

theorem Alike.print_eq (texts : ∀ a b, R a b → a.text = b.text) (alike : Alike R v w) :
    v.print = w.print := by
  induction alike using induct with
  | atom related => exact texts _ _ related
  | list _ ih =>
      have prints := map_eq_of_forall₂ (ih.imp fun _ _ item => item.2)
      simp only [print, printAll_eq, prints]

end Sexpr.Form
