import EntityDiagram.Diagram.Field

/-!
# Tables and their indexes

An index names its columns, and the names are looked up among the fields of the table when the
index is written.
-/

namespace EntityDiagram

/-- An index of a table. -/
structure Index where
  id : String
  name : Option String := none
  unique : Bool := false
  /-- The names of the columns in order. -/
  fields : List String := []
  /-- The access method, such as `BTREE` or `GIN`. -/
  indexType : Option String := none
  deriving DecidableEq, Repr

instance : Keyed Index := ⟨Index.id⟩

@[simp] theorem Index.key_eq (index : Index) : Keyed.key index = index.id := rfl

/-- A place on the canvas. -/
structure Position where
  x : Float := 0
  y : Float := 0
  deriving DecidableEq, Repr

/-- A table of the diagram. -/
structure Table where
  id : String
  name : String
  position : Position := {}
  comment : String := ""
  color : Option String := none
  fields : List Field := []
  indexes : List Index := []
  deriving DecidableEq, Repr

namespace Table

instance : Keyed Table := ⟨Table.id⟩

@[simp] theorem key_eq (table : Table) : Keyed.key table = table.id := rfl

/-- The field with an id. -/
def field? (table : Table) (id : String) : Option Field := Keyed.find? table.fields id

/-- The first field with a name. -/
def fieldNamed? (table : Table) (name : String) : Option Field :=
  table.fields.find? (·.name == name)

/-- Whether some field has the given name. -/
def hasFieldNamed (table : Table) (name : String) : Bool := table.fields.any (·.name == name)

/-- The fields of the primary key in order. -/
def primaryFields (table : Table) : List Field := table.fields.filter (·.primary)

/-- The columns of an index that the table has, in the order of the index. -/
def columnsOf (table : Table) (index : Index) : List String :=
  index.fields.filter table.hasFieldNamed

/-- Whether a comment is there to be written. -/
def hasComment (table : Table) : Bool := !Text.isAllBlank table.comment

theorem fieldNamed?_isSome (table : Table) (name : String) :
    (table.fieldNamed? name).isSome = table.hasFieldNamed name := by
  rw [Bool.eq_iff_iff]
  simp [fieldNamed?, hasFieldNamed]

theorem hasFieldNamed_iff {table : Table} {name : String} :
    table.hasFieldNamed name = true ↔ ∃ field ∈ table.fields, field.name = name := by
  simp [hasFieldNamed]

end Table

end EntityDiagram
