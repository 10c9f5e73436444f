import EntityDiagram.Diagram.Annotation
import EntityDiagram.Diagram.Relationship
import EntityDiagram.Dialect.Builtin

/-!
# Diagrams

A diagram is all that a session edits and a snapshot stores: tables, relationships, notes and
areas, each in order, with a title and the engine it is drawn for.
-/

namespace EntityDiagram

/-- An entity-relationship diagram. -/
structure Diagram where
  title : String := ""
  dialect : Dialect := .mysql
  tables : List Table := []
  relationships : List Relationship := []
  notes : List Note := []
  areas : List Area := []
  deriving DecidableEq, Repr, Inhabited

namespace Diagram

/-- The table with an id. -/
def table? (diagram : Diagram) (id : String) : Option Table := Keyed.find? diagram.tables id

/-- The table and the field that an endpoint names. -/
def resolve? (diagram : Diagram) (endpoint : Endpoint) : Option (Table × Field) := do
  let table ← diagram.table? endpoint.tableId
  let field ← table.field? endpoint.fieldId
  return (table, field)

/-- Whether an endpoint names a field that is there. -/
def resolves (diagram : Diagram) (endpoint : Endpoint) : Bool :=
  (diagram.resolve? endpoint).isSome

/-- The relationships with a table on either side. -/
def relationshipsOf (diagram : Diagram) (tableId : String) : List Relationship :=
  diagram.relationships.filter (·.touchesTable tableId)

/-- The first relationship that joins two endpoints, in either direction. -/
def relationshipBetween? (diagram : Diagram) (a b : Endpoint) : Option Relationship :=
  diagram.relationships.find? (·.joins a b)

/-- The description of the engine that the diagram is drawn for. -/
def config (diagram : Diagram) : DialectConfig := diagram.dialect.config

/-- A small diagram to start from: orders that refer to users. The seven ids are drawn from
`newId` in the order in which they appear. -/
def demo (dialect : Dialect) (newId : Nat → String) : Diagram :=
  let users : Table := {
    id := newId 0, name := "users", position := ⟨100, 100⟩
    fields := [
      { id := newId 1, name := "id", dataType := "INT", primary := true, notNull := true,
        increment := true },
      { id := newId 2, name := "name", dataType := "VARCHAR", size := some 255,
        notNull := true }] }
  let orders : Table := {
    id := newId 3, name := "orders", position := ⟨400, 100⟩
    fields := [
      { id := newId 4, name := "id", dataType := "INT", primary := true, notNull := true,
        increment := true },
      { id := newId 5, name := "user_id", dataType := "INT", notNull := true }] }
  { title := "Demo", dialect, tables := [users, orders]
    relationships := [.between (newId 6) ⟨orders.id, newId 5⟩ ⟨users.id, newId 1⟩] }

theorem resolve?_eq_some_iff {diagram : Diagram} {endpoint : Endpoint} {table : Table}
    {field : Field} :
    diagram.resolve? endpoint = some (table, field) ↔
      diagram.table? endpoint.tableId = some table ∧
        table.field? endpoint.fieldId = some field := by
  simp only [resolve?, Option.bind_eq_bind, Option.bind_eq_some_iff, Option.pure_def,
    Option.some.injEq, Prod.mk.injEq]
  constructor
  · rintro ⟨_, found, _, inside, rfl, rfl⟩
    exact ⟨found, inside⟩
  · rintro ⟨found, inside⟩
    exact ⟨table, found, field, inside, rfl, rfl⟩

theorem resolves_iff {diagram : Diagram} {endpoint : Endpoint} :
    diagram.resolves endpoint = true ↔
      ∃ table field, diagram.table? endpoint.tableId = some table ∧
        table.field? endpoint.fieldId = some field := by
  simp only [resolves, Option.isSome_iff_exists, Prod.exists, resolve?_eq_some_iff]

end Diagram

end EntityDiagram
