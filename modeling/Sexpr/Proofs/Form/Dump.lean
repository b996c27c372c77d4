import Sexpr.Form.Dump
import Sexpr.Proofs.Form.Alike
/-!
Dumps: the structure of a form as a form. Main statements: a form is found again in its dump, with all of
its tokens; dumps are equal exactly if what they describe is; and a dump describes the nodes of a form one
after another in their order, each by nodes with its token.
-/
namespace Sexpr

def Atom.details (token : Token) : Atom → List Form
  | .nil => []
  | value => [.atom value token]

theorem Atom.details_of_ne_nil {value : Atom} (other : value ≠ .nil) (token : Token) :
    value.details token = [.atom value token] := by
  cases value with
  | nil => exact absurd rfl other
  | _ => rfl

theorem Atom.eq_of_mem_details {value : Atom} {token : Token} {form : Form}
    (member : form ∈ value.details token) : form = .atom value token := by
  cases value with
  | nil => cases member
  | _ => exact List.mem_singleton.mp member

theorem Atom.kindName_eq_nil_iff {value : Atom} : value.kindName = Atom.nil.kindName ↔ value = .nil := by
  cases value with
  | nil => exact iff_of_true rfl rfl
  | _ => exact iff_of_false (ne_of_beq_false rfl) nofun

theorem Atom.kindName_eq_of_same {a b : Atom} (same : a.same b = true) : a.kindName = b.kindName := by
  cases a with
  | nil =>
      cases b with
      | nil => rfl
      | _ => cases same
  | bool _ =>
      cases b with
      | bool _ => rfl
      | _ => cases same
  | number _ =>
      cases b with
      | number _ => rfl
      | _ => cases same
  | string _ =>
      cases b with
      | string _ => rfl
      | _ => cases same
  | symbol _ =>
      cases b with
      | symbol _ => rfl
      | _ => cases same

theorem Atom.kindName_ne_list (value : Atom) : value.kindName ≠ "list".toList := by
  cases value <;> exact ne_of_beq_false rfl

namespace Form

theorem kindName_atom (value : Atom) (token : Token) : (atom value token).kindName = value.kindName := rfl

theorem kindName_list (items : List Form) (token : Token) :
    (list items token).kindName = "list".toList := rfl

theorem dump_atom (value : Atom) (token : Token) :
    dump (.atom value token) = named value.kindName (value.details token) token := by
  cases value <;> rfl

theorem dumpAll_eq (items : List Form) : dumpAll items = items.map dump := by
  induction items with
  | nil => rfl
  | cons item items ih => rw [dumpAll, ih, List.map_cons]

theorem dump_list (items : List Form) (token : Token) :
    dump (.list items token) = named "list".toList (items.map dump) token := by
  rw [dump, dumpAll_eq]

def undumpAtom (name : Text) (token : Token) : List Form → Option Form
  | [] => if name = Atom.nil.kindName then some (.atom .nil token) else none
  | [.atom value copy] =>
    if value ≠ .nil ∧ name = value.kindName ∧ copy = token then some (.atom value token) else none
  | _ => none

mutual

/-- The form that a form is the dump of, if it is one. -/
def undump : Form → Option Form
  | .list (.atom (.symbol name) head :: details) token =>
    if head ≠ token then none
    else if name = "list".toList then (undumpAll details).map (.list · token)
    else undumpAtom name token details
  | _ => none

def undumpAll : List Form → Option (List Form)
  | [] => some []
  | item :: items =>
    match undump item, undumpAll items with
    | some first, some later => some (first :: later)
    | _, _ => none

end

theorem undumpAtom_eq_some_iff {name : Text} {token : Token} {details : List Form} {form : Form} :
    undumpAtom name token details = some form ↔
      ∃ value, form = .atom value token ∧ name = Atom.kindName value ∧
        details = Atom.details token value := by
  constructor
  · intro found
    simp only [undumpAtom] at found
    split at found
    · split at found
      · next same =>
          cases found
          exact ⟨.nil, rfl, same, rfl⟩
      · cases found
    · next value copy =>
        split at found
        · next described =>
            obtain ⟨notNil, same, rfl⟩ := described
            cases found
            exact ⟨value, rfl, same, (Atom.details_of_ne_nil notNil copy).symm⟩
        · cases found
    · cases found
  · rintro ⟨value, rfl, rfl, rfl⟩
    cases value <;> simp [undumpAtom, Atom.details]

mutual

theorem undump_dump : ∀ form, undump (dump form) = some form
  | .atom value token => by
      have found : undumpAtom value.kindName token (value.details token) = some (.atom value token) :=
        undumpAtom_eq_some_iff.mpr ⟨value, rfl, rfl, rfl⟩
      rw [dump_atom, named, undump, if_neg (not_not.mpr rfl), if_neg value.kindName_ne_list, found]
  | .list items token => by
      simp [dump, named, undump, undumpAll_dumpAll items]

theorem undumpAll_dumpAll : ∀ items, undumpAll (dumpAll items) = some items
  | [] => rfl
  | item :: items => by
      simp [dumpAll, undumpAll, undump_dump item, undumpAll_dumpAll items]

end

mutual

theorem dump_of_undump {form : Form} : ∀ {dumped}, undump dumped = some form → dumped = dump form
  | .list (.atom (.symbol name) head :: details) token, found => by
      rw [undump] at found
      split at found
      · cases found
      · next same =>
          obtain rfl := not_not.mp same
          split at found
          · next lists =>
              obtain ⟨items, within, rfl⟩ := Option.map_eq_some_iff.mp found
              rw [dumpAll_of_undumpAll within, lists]
              rfl
          · obtain ⟨value, rfl, rfl, rfl⟩ := undumpAtom_eq_some_iff.mp found
            exact (dump_atom value head).symm

theorem dumpAll_of_undumpAll {items : List Form} :
    ∀ {dumped}, undumpAll dumped = some items → dumped = dumpAll items
  | [], found => by
      cases found
      rfl
  | item :: others, found => by
      simp only [undumpAll] at found
      split at found
      · next first later here behind =>
          cases found
          rw [dumpAll, ← dump_of_undump here, ← dumpAll_of_undumpAll behind]
      · cases found

end

mutual

def dumpWith (head : Text → Atom) : Form → Form
  | .atom value token =>
    .list (.atom (head value.kindName) token :: value.details token) token
  | .list items token => .list (.atom (head "list".toList) token :: dumpAllWith head items) token

def dumpAllWith (head : Text → Atom) : List Form → List Form
  | [] => []
  | item :: items => dumpWith head item :: dumpAllWith head items

end

theorem dumpAllWith_eq (head : Text → Atom) (items : List Form) :
    dumpAllWith head items = items.map (dumpWith head) := by
  induction items with
  | nil => rfl
  | cons item items ih => rw [dumpAllWith, ih, List.map_cons]

theorem dumpWith_list (head : Text → Atom) (items : List Form) (token : Token) :
    dumpWith head (.list items token) =
      .list (.atom (head "list".toList) token :: items.map (dumpWith head)) token := by
  rw [dumpWith, dumpAllWith_eq]

theorem dump_eq (form : Form) : dump form = dumpWith .symbol form := by
  induction form using Form.induct with
  | atom value token => exact dump_atom value token
  | list items token ih =>
      have each : items.map dump = items.map (dumpWith .symbol) := List.map_congr_left ih
      rw [dump_list, each, dumpWith_list, named]

/-- A relation of atoms that keeps the kinds of atoms apart, and the atoms that name them. -/
structure TellsKinds (head : Text → Atom) (R : Atom → Atom → Prop) : Prop where
  named : ∀ first second, R (head first) (head second) ↔ first = second
  kindName_eq : ∀ a b, R a b → a.kindName = b.kindName
  nil : R .nil .nil

section TellsKinds
variable {head : Text → Atom} {R : Atom → Atom → Prop} {v w : Form}

theorem TellsKinds.details_iff (tells : TellsKinds head R) {a b : Atom} {s t : Token} :
    (a.kindName = b.kindName ∧ List.Forall₂ (Alike R) (a.details s) (b.details t)) ↔ R a b := by
  by_cases same : a.kindName = b.kindName
  · rw [and_iff_right same]
    by_cases none : a = .nil
    · subst none
      obtain rfl := Atom.kindName_eq_nil_iff.mp same.symm
      exact iff_of_true .nil tells.nil
    · have other : b ≠ .nil := by
        rintro rfl
        exact none (Atom.kindName_eq_nil_iff.mp same)
      rw [Atom.details_of_ne_nil none, Atom.details_of_ne_nil other, List.forall₂_cons, Alike.atom_iff]
      exact and_iff_left .nil
  · exact iff_of_false (fun both => same both.1) fun related => same (tells.kindName_eq a b related)

theorem TellsKinds.alike_dumpWith_iff (tells : TellsKinds head R) :
    Alike R (v.dumpWith head) (w.dumpWith head) ↔ Alike R v w := by
  induction v using Form.induct generalizing w with
  | atom a s =>
      cases w with
      | atom b t =>
          rw [dumpWith, dumpWith, Alike.list_iff, List.forall₂_cons, Alike.atom_iff, tells.named,
            tells.details_iff, Alike.atom_iff]
      | list others t =>
          rw [dumpWith, dumpWith, Alike.list_iff, List.forall₂_cons, Alike.atom_iff, tells.named]
          exact iff_of_false (fun both => a.kindName_ne_list both.1) nofun
  | list items s ih =>
      cases w with
      | atom b t =>
          rw [dumpWith, dumpWith, Alike.list_iff, List.forall₂_cons, Alike.atom_iff, tells.named]
          exact iff_of_false (fun both => b.kindName_ne_list both.1.symm) nofun
      | list others t =>
          rw [dumpWith_list, dumpWith_list, Alike.list_iff, List.forall₂_cons, Alike.atom_iff, tells.named,
            Alike.list_iff, List.forall₂_map_left_iff, List.forall₂_map_right_iff,
            forall₂_congr_of_mem fun item member other => ih item member]
          exact and_iff_right rfl

end TellsKinds

theorem tellsKinds_same : TellsKinds .symbol fun a b => a.same b = true := by
  refine ⟨?_, fun _ _ => Atom.kindName_eq_of_same, rfl⟩
  intro first second
  simp [Atom.same]

theorem same_dump (first second : Form) : first.dump.same second.dump = first.same second := by
  rw [Bool.eq_iff_iff, same_iff_alike, same_iff_alike, dump_eq, dump_eq,
    tellsKinds_same.alike_dumpWith_iff]

def copies : Form → List Form
  | .atom value token => value.details token
  | .list _ _ => []

/-- The nodes that describe a node: its dump, the name at the head of that, and the copy of an atom, the
latter two one list further in. -/
def description (part : Nat × Form) : List (Nat × Form) :=
  (part.1, part.2.dump) :: (part.1 + 1, .atom (.symbol part.2.kindName) part.2.token) ::
    part.2.copies.map fun copy => (part.1 + 1, copy)

def describedBy : Form → Nat
  | .atom .nil _ => 2
  | .atom _ _ => 3
  | .list _ _ => 2

theorem description_tokens (part : Nat × Form) :
    (description part).map (fun described => described.2.token) =
      List.replicate part.2.describedBy part.2.token := by
  obtain ⟨depth, value | items⟩ := part
  · cases value <;> simp [description, copies, Atom.details, describedBy, dump, named, List.replicate]
  · simp [description, copies, describedBy, dump, named, List.replicate]

theorem outlineAll_eq (depth : Nat) (items : List Form) :
    outlineAll depth items = items.flatMap (outline depth) := by
  induction items with
  | nil => rfl
  | cons item items ih => rw [outlineAll, ih, List.flatMap_cons]

theorem outline_dump (form : Form) (depth : Nat) :
    form.dump.outline depth = (form.outline depth).flatMap description := by
  induction form using Form.induct generalizing depth with
  | atom value token =>
      cases value <;> simp [dump, named, outline, outlineAll, description, copies, Atom.details, kindName_atom]
  | list items token ih =>
      have each : (items.map dump).flatMap (outline (depth + 1)) =
          (items.flatMap (outline (depth + 1))).flatMap description := by
        rw [List.flatMap_map, List.flatMap_assoc]
        exact List.flatMap_congr fun item member => ih item member (depth + 1)
      simp only [dump_list, named, outline, outlineAll, outlineAll_eq, each, List.flatMap_cons]
      simp [description, copies, dump_list, named, kindName_list]

/-- Nothing is lost in a dump. A form is found again in its dump, all atoms and tokens, and in nothing else;
dumps are equal exactly if what they describe is, whatever equality says of its numbers; and the nodes of a
form are described in their order, each by two or three nodes, all of which carry its token. -/
theorem dump_loses_nothing :
    (∀ form dumped, undump dumped = some form ↔ dumped = form.dump) ∧
      (∀ first second : Form, first.dump.same second.dump = first.same second) ∧
      (∀ form : Form, form.dump.outline 0 = (form.outline 0).flatMap description) ∧
      ∀ part, (description part).map (fun described => described.2.token) =
        List.replicate part.2.describedBy part.2.token := by
  refine ⟨?_, same_dump, fun form => outline_dump form 0, description_tokens⟩
  intro form dumped
  constructor
  · exact dump_of_undump
  · rintro rfl
    exact undump_dump form

end Form

end Sexpr
