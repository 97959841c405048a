import RadioSnapshot.Text.Json

/-!
# Tables keyed by name

A table holds one value to a name, in ascending order of the names, so that two
tables with the same entries are the same table.
-/

namespace RadioSnapshot

/-- Values by name. -/
structure NameTable (α : Type) where
  entries : List (String × α)

namespace NameTable

variable {α : Type}

def empty : NameTable α := ⟨[]⟩

/-- Put an entry in its place in ascending entries. -/
def place (name : String) (value : α) : List (String × α) → List (String × α)
  | [] => [(name, value)]
  | entry :: rest =>
      if name < entry.1 then (name, value) :: entry :: rest
      else if name = entry.1 then (name, value) :: rest
      else entry :: place name value rest

/-- Give a name a value, in place of any that it has. -/
def insert (name : String) (value : α) (table : NameTable α) : NameTable α :=
  ⟨place name value table.entries⟩

def get? (name : String) (table : NameTable α) : Option α :=
  table.entries.lookup name

/-- The names, ascending. -/
def names (table : NameTable α) : List String :=
  table.entries.map Prod.fst

/-- A table as JSON: a map with the names for keys. -/
def toJson (encode : α → Json) (table : NameTable α) : Except JsonError Json :=
  Json.ofEntries (table.entries.map fun (name, value) => (.string name, encode value))

end NameTable

end RadioSnapshot
