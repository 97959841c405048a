import Mathlib.Data.List.Sort
import RadioSnapshot.Snapshot.NameTable

/-!
# Laws of name tables

A table is read through `get?` and `names`. Giving a name a value changes nothing
for other names, and the names stay in ascending order, each of them once. So a table
that was filled by inserting values under names of their own holds the last value of every
name.
-/

namespace RadioSnapshot.NameTable

variable {α : Type}

@[simp] theorem get?_empty (name : String) : (empty : NameTable α).get? name = none := rfl

@[simp] theorem names_empty : (empty : NameTable α).names = [] := rfl

private theorem lookup_cons_ite (name key : String) (value : α)
    (entries : List (String × α)) :
    ((key, value) :: entries).lookup name =
      if name = key then some value else entries.lookup name := by
  by_cases same : name = key
  · simp [same]
  · have differ : (name == key) = false := beq_eq_false_iff_ne.mpr same
    rw [List.lookup_cons, differ, if_neg same]

private theorem lookup_place (name other : String) (value : α)
    (entries : List (String × α)) :
    (place name value entries).lookup other =
      if other = name then some value else entries.lookup other := by
  induction entries with
  | nil => exact lookup_cons_ite other name value []
  | cons entry entries ih =>
      obtain ⟨key, kept⟩ := entry
      rw [place]
      split
      next => exact lookup_cons_ite other name value ((key, kept) :: entries)
      next =>
        rw [lookup_cons_ite other key kept]
        split
        next sameKey =>
          rw [lookup_cons_ite, ← show name = key from sameKey]
          split <;> rfl
        next otherKey =>
          rw [lookup_cons_ite, ih]
          by_cases same : other = name
          · subst same
            rw [if_neg otherKey, if_pos rfl, if_pos rfl]
          · rw [if_neg same, if_neg same]

/-- Inserting decides what its own name stands for and no other. -/
theorem get?_insert (name other : String) (value : α) (table : NameTable α) :
    (table.insert name value).get? other =
      if other = name then some value else table.get? other :=
  lookup_place name other value table.entries

private theorem mem_place (name other : String) (value : α) (entries : List (String × α)) :
    other ∈ (place name value entries).map Prod.fst ↔
      other = name ∨ other ∈ entries.map Prod.fst := by
  induction entries with
  | nil => simp [place]
  | cons entry entries ih =>
      rw [place]
      split
      · simp
      · split
        next sameKey => simp [sameKey]
        next =>
          simp only [List.map_cons, List.mem_cons, ih]
          exact or_left_comm

theorem mem_names_insert (name other : String) (value : α) (table : NameTable α) :
    other ∈ (table.insert name value).names ↔ other = name ∨ other ∈ table.names :=
  mem_place name other value table.entries

private theorem pairwise_place (name : String) (value : α) {entries : List (String × α)}
    (ascending : (entries.map Prod.fst).Pairwise (· < ·)) :
    ((place name value entries).map Prod.fst).Pairwise (· < ·) := by
  induction entries with
  | nil => simp [place]
  | cons entry entries ih =>
      obtain ⟨above, rest⟩ := List.pairwise_cons.mp ascending
      rw [place]
      split
      next before =>
        apply List.Pairwise.cons _ ascending
        intro other member
        rcases List.mem_cons.mp member with rfl | later
        · exact before
        · exact String.lt_trans before (above other later)
      next notBefore =>
        split
        next sameKey =>
          apply List.Pairwise.cons _ rest
          rw [sameKey]
          exact above
        next otherKey =>
          apply List.Pairwise.cons _ (ih rest)
          intro other member
          rcases (mem_place name other value entries).mp member with rfl | later
          · rw [String.not_lt] at notBefore
            apply String.not_le.mp
            exact fun after => otherKey (String.le_antisymm after notBefore)
          · exact above other later

/-- Names stay in ascending order. -/
theorem pairwise_names_insert (name : String) (value : α) {table : NameTable α}
    (ascending : table.names.Pairwise (· < ·)) :
    (table.insert name value).names.Pairwise (· < ·) :=
  pairwise_place name value ascending

/-- The table with its values changed. -/
def map {β : Type} (change : α → β) (table : NameTable α) : NameTable β :=
  ⟨table.entries.map fun (name, value) => (name, change value)⟩

private theorem map_place {β : Type} (change : α → β) (name : String) (value : α)
    (entries : List (String × α)) :
    (place name value entries).map (fun (name, value) => (name, change value)) =
      place name (change value) (entries.map fun (name, value) => (name, change value)) := by
  induction entries with
  | nil => rfl
  | cons entry entries ih =>
      simp only [place, List.map_cons]
      split
      · rfl
      · split
        · rfl
        · rw [List.map_cons, ih]

theorem map_insert {β : Type} (change : α → β) (name : String) (value : α)
    (table : NameTable α) :
    (table.insert name value).map change = (table.map change).insert name (change value) :=
  congrArg NameTable.mk (map_place change name value table.entries)

/-- A table is written as an object with its entries. -/
theorem toJson_eq (encode : α → Json) (table : NameTable α) :
    table.toJson encode =
      .ok (.object (table.entries.map fun (name, value) => (name, encode value))) := by
  rw [toJson, Json.ofEntries]
  have written : Json.entryMembers
      (table.entries.map fun (name, value) => (.string name, encode value)) =
        .ok (table.entries.map fun (name, value) => (name, encode value)) := by
    induction table.entries with
    | nil => rfl
    | cons entry entries ih =>
        simp only [List.map_cons, Json.entryMembers, Json.memberName, ih]
        rfl
  rw [written]
  rfl

/-- Other maps cannot always be written. -/
example : Json.ofEntries [(.null, .bool true)] = .error .unnamedEntry := rfl

theorem toJson_map {β : Type} (encode : β → Json) (change : α → β) (table : NameTable α) :
    (table.map change).toJson encode = table.toJson fun value => encode (change value) := by
  simp only [toJson, map, List.map_map, Function.comp_def]

@[simp] theorem names_map {β : Type} (change : α → β) (table : NameTable α) :
    (table.map change).names = table.names := by
  rw [names, map, List.map_map]
  rfl

private theorem mem_iff_lookup_eq_some {entries : List (String × α)}
    (ascending : (entries.map Prod.fst).Pairwise (· < ·)) (name : String) (value : α) :
    (name, value) ∈ entries ↔ entries.lookup name = some value := by
  induction entries with
  | nil => simp
  | cons entry entries ih =>
      obtain ⟨key, kept⟩ := entry
      obtain ⟨above, rest⟩ := List.pairwise_cons.mp ascending
      rw [lookup_cons_ite, List.mem_cons, Prod.mk.injEq, ih rest]
      split
      next same =>
        subst same
        have absent : entries.lookup name ≠ some value := by
          intro found
          have member := List.mem_map_of_mem (f := Prod.fst) ((ih rest).mpr found)
          exact String.lt_irrefl name (above name member)
        simp [absent, eq_comm]
      next other => simp [other]

/-- The entries are what the table is read as. -/
theorem mem_entries_iff {table : NameTable α} (ascending : table.names.Pairwise (· < ·))
    (name : String) (value : α) : (name, value) ∈ table.entries ↔ table.get? name = some value :=
  mem_iff_lookup_eq_some ascending name value

/-- Tables in ascending order that are read alike are the same table. -/
theorem eq_of_get?_eq {table other : NameTable α} (ascending : table.names.Pairwise (· < ·))
    (otherAscending : other.names.Pairwise (· < ·))
    (alike : ∀ name, table.get? name = other.get? name) : table = other := by
  have irreflexive : Std.Irrefl fun first second : String × α => first.1 < second.1 :=
    ⟨fun entry => String.lt_irrefl entry.1⟩
  have antisymmetric : Std.Antisymm fun first second : String × α => first.1 < second.1 :=
    ⟨fun _ _ before after => absurd (String.lt_trans before after) (String.lt_irrefl _)⟩
  have entries : table.entries = other.entries := by
    apply List.Pairwise.eq_of_mem_iff (List.pairwise_map.mp ascending)
      (List.pairwise_map.mp otherAscending)
    rintro ⟨name, value⟩
    rw [mem_entries_iff ascending, mem_entries_iff otherAscending, alike]
  obtain ⟨entries⟩ := table
  exact congrArg NameTable.mk entries

/-- Giving a name the value that it has makes no difference, and any other value does. -/
theorem insert_eq_self_iff {table : NameTable α} (ascending : table.names.Pairwise (· < ·))
    {name : String} {value : α} :
    table.insert name value = table ↔ table.get? name = some value := by
  constructor
  · intro same
    have read := table.get?_insert name name value
    rwa [same, if_pos rfl] at read
  · intro held
    apply eq_of_get?_eq (pairwise_names_insert name value ascending) ascending
    intro other
    rw [get?_insert]
    split
    next same => rw [same, held]
    next => rfl

/-- The table holds, of values that arrived in this order, the last one of every
name, and no other names. -/
structure Latest (nameOf : α → String) (values : List α) (table : NameTable α) : Prop where
  ascending : table.names.Pairwise (· < ·)
  mem_names : ∀ name, name ∈ table.names ↔ name ∈ values.map nameOf
  get? : ∀ name, table.get? name = (values.filter (nameOf · = name)).getLast?

theorem Latest.empty (nameOf : α → String) : Latest nameOf [] .empty where
  ascending := List.Pairwise.nil
  mem_names := by simp
  get? := by simp

theorem Latest.insert {nameOf : α → String} {values : List α} {table : NameTable α}
    (latest : Latest nameOf values table) (value : α) :
    Latest nameOf (values ++ [value]) (table.insert (nameOf value) value) where
  ascending := pairwise_names_insert (nameOf value) value latest.ascending
  mem_names := by
    intro name
    rw [mem_names_insert, latest.mem_names, List.map_append, List.mem_append,
      List.map_singleton, List.mem_singleton]
    exact or_comm
  get? := by
    intro name
    rw [get?_insert, latest.get?, List.filter_append, List.getLast?_append]
    by_cases same : nameOf value = name
    · simp [same]
    · simp [same, Ne.symm same]

/-- Tables that hold the last values of every name are the same when, of every name, the same
values arrived in the same order. -/
theorem Latest.eq {nameOf : α → String} {values others : List α} {table other : NameTable α}
    (latest : Latest nameOf values table) (otherLatest : Latest nameOf others other)
    (same : ∀ name, values.filter (nameOf · = name) = others.filter (nameOf · = name)) :
    table = other := by
  apply eq_of_get?_eq latest.ascending otherLatest.ascending
  intro name
  rw [latest.get?, otherLatest.get?, same]

end RadioSnapshot.NameTable
