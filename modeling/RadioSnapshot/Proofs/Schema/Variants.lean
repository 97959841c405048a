import Mathlib.Data.List.Nodup
import RadioSnapshot.Schema.Message

/-!
# Which member of a choice is present

The members of a choice are told apart by their places among each other. As long as no two of
them have the same name, their names tell them apart just as well.
-/

namespace RadioSnapshot.Schema.Members

/-- The names of the members. -/
def names : Members → List String
  | .done => []
  | .scalar _ name _ rest | .message _ name _ rest => name :: rest.names

theorem nameOf_mem_names : (members : Members) → (choice : members.Choice) →
    members.nameOf choice ∈ members.names
  | .scalar _ _ _ _, .inl _ => List.mem_cons_self
  | .scalar _ _ _ rest, .inr choice => List.mem_cons_of_mem _ (rest.nameOf_mem_names choice)
  | .message _ _ _ _, .inl _ => List.mem_cons_self
  | .message _ _ _ rest, .inr choice => List.mem_cons_of_mem _ (rest.nameOf_mem_names choice)

theorem nameOf_ne {members : Members} {name : String} (absent : name ∉ members.names)
    (choice : members.Choice) : name ≠ members.nameOf choice := fun same =>
  absent (same ▸ members.nameOf_mem_names choice)

/-- The place of the present member among the members. -/
def place : (members : Members) → members.Choice → Nat
  | .scalar _ _ _ _, .inl _ => 0
  | .scalar _ _ _ rest, .inr choice => rest.place choice + 1
  | .message _ _ _ _, .inl _ => 0
  | .message _ _ _ rest, .inr choice => rest.place choice + 1

/-- Members that all have names of their own are the same exactly if their names are. -/
theorem nameOf_eq_iff : {members : Members} → members.names.Nodup →
    (first second : members.Choice) →
    (members.nameOf first = members.nameOf second ↔ members.place first = members.place second)
  | .scalar _ _ _ _, _, .inl _, .inl _ | .message _ _ _ _, _, .inl _, .inl _ =>
      iff_of_true rfl rfl
  | .scalar _ _ _ _, distinct, .inl _, .inr second
  | .message _ _ _ _, distinct, .inl _, .inr second =>
      iff_of_false (nameOf_ne (List.nodup_cons.mp distinct).1 second) (Nat.zero_ne_add_one _)
  | .scalar _ _ _ _, distinct, .inr first, .inl _
  | .message _ _ _ _, distinct, .inr first, .inl _ =>
      iff_of_false (nameOf_ne (List.nodup_cons.mp distinct).1 first).symm (Nat.add_one_ne_zero _)
  | .scalar _ _ _ _, distinct, .inr first, .inr second
  | .message _ _ _ _, distinct, .inr first, .inr second =>
      (nameOf_eq_iff (List.nodup_cons.mp distinct).2 first second).trans
        (Nat.add_right_cancel_iff).symm

end RadioSnapshot.Schema.Members
