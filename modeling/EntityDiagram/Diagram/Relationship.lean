import EntityDiagram.Diagram.Action
import EntityDiagram.Keyed

/-!
# Relationships

A relationship is a foreign key drawn between two fields: the start holds the referring column,
the end the column referred to.
-/

namespace EntityDiagram

/-- One side of a relationship: a field of a table, by their ids. -/
structure Endpoint where
  tableId : String
  fieldId : String
  deriving DecidableEq, Repr

/-- How many rows of each side belong together. -/
inductive Cardinality where
  | oneToOne
  | oneToMany
  | manyToOne
  deriving DecidableEq, Repr

namespace Cardinality

/-- The cardinality that new relationships have. -/
instance : Inhabited Cardinality := ⟨oneToMany⟩

/-- The short sign of a cardinality. -/
def sign : Cardinality → String
  | oneToOne => "1:1"
  | oneToMany => "1:N"
  | manyToOne => "N:1"

end Cardinality

/-- A foreign key between two fields. -/
structure Relationship where
  id : String
  name : Option String := none
  startTableId : String
  startFieldId : String
  endTableId : String
  endFieldId : String
  cardinality : Cardinality := .oneToMany
  updateConstraint : ForeignKeyAction := .noAction
  deleteConstraint : ForeignKeyAction := .noAction
  deriving DecidableEq, Repr

namespace Relationship

instance : Keyed Relationship := ⟨Relationship.id⟩

@[simp] theorem key_eq (relationship : Relationship) :
    Keyed.key relationship = relationship.id := rfl

/-- A relationship without a name, one to many, that takes no action. -/
def between (id : String) (source target : Endpoint) : Relationship where
  id
  startTableId := source.tableId
  startFieldId := source.fieldId
  endTableId := target.tableId
  endFieldId := target.fieldId

/-- The referring side. -/
def start (relationship : Relationship) : Endpoint :=
  ⟨relationship.startTableId, relationship.startFieldId⟩

/-- The side referred to. -/
def target (relationship : Relationship) : Endpoint :=
  ⟨relationship.endTableId, relationship.endFieldId⟩

/-- Whether a table is on one of the sides. -/
def touchesTable (relationship : Relationship) (tableId : String) : Bool :=
  relationship.startTableId == tableId || relationship.endTableId == tableId

/-- Whether a field is one of the sides. -/
def touches (relationship : Relationship) (endpoint : Endpoint) : Bool :=
  relationship.start == endpoint || relationship.target == endpoint

/-- Whether the relationship joins two endpoints, in either direction. -/
def joins (relationship : Relationship) (a b : Endpoint) : Bool :=
  (relationship.start == a && relationship.target == b) ||
    (relationship.start == b && relationship.target == a)

@[simp] theorem start_between (id : String) (a b : Endpoint) : (between id a b).start = a := rfl

@[simp] theorem target_between (id : String) (a b : Endpoint) : (between id a b).target = b := rfl

end Relationship

end EntityDiagram
