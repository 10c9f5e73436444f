import EntityDiagram.Proofs.Keyed
import EntityDiagram.Proofs.Result
import EntityDiagram.Session.Edit

/-!
# What an edit that succeeds has done

For each operation that edits are made of there is one equivalence: it succeeds exactly if what it
addresses is there and what it adds is new, and then the result is the stated one. Statements about
edits cite these equivalences and do not open the operations again.
-/

namespace EntityDiagram

namespace Shelf

variable {σ α : Type} [Keyed α] {shelf : Shelf σ α} {whole next : σ} {id : String} {b : α}

theorem add_eq_ok_iff {a : α} :
    shelf.add a whole = .ok next ↔
      Keyed.contains (shelf.items whole) (Keyed.key a) = false ∧
        next = shelf.withItems whole (shelf.items whole ++ [a]) := by
  cases h : Keyed.contains (shelf.items whole) (Keyed.key a) <;> simp [add, h, eq_comm]

theorem update_eq_ok_iff {f : α → α} :
    shelf.update id f whole = .ok (next, b) ↔
      ∃ a, Keyed.find? (shelf.items whole) id = some a ∧
        next = shelf.withItems whole (Keyed.update f id (shelf.items whole)) ∧ b = f a := by
  cases h : Keyed.find? (shelf.items whole) id <;> simp [update, h, eq_comm]

theorem delete_eq_ok_iff :
    shelf.delete id whole = .ok (next, b) ↔
      Keyed.find? (shelf.items whole) id = some b ∧
        next = shelf.withItems whole (Keyed.erase (shelf.items whole) id) := by
  cases h : Keyed.find? (shelf.items whole) id <;> simp [delete, h, eq_comm, and_comm]

theorem reorder_eq_ok_iff {target : Nat} :
    shelf.reorder id target whole = .ok next ↔
      Keyed.contains (shelf.items whole) id = true ∧
        next = shelf.withItems whole (Keyed.reorder (shelf.items whole) id target) := by
  cases h : Keyed.contains (shelf.items whole) id <;> simp [reorder, h, eq_comm]

end Shelf

namespace Table

/-- Taking out a field takes it from the fields, and its name from the indexes. -/
theorem deleteField_eq_ok_iff {table next : Table} {id : String} {field : Field} :
    table.deleteField id = .ok (next, field) ↔
      table.field? id = some field ∧
        next = ({ table with fields := Keyed.erase table.fields id }).forgetColumn field.name := by
  simp only [deleteField, bind_eq_ok_iff, Prod.exists, Shelf.delete_eq_ok_iff]
  constructor
  · rintro ⟨rest, removed, ⟨found, rfl⟩, done⟩
    cases done
    exact ⟨found, rfl⟩
  · rintro ⟨found, rfl⟩
    exact ⟨_, field, ⟨found, rfl⟩, rfl⟩

/-- Changing a field changes it in its place, and carries its name on to the indexes. -/
theorem updateField_eq_ok_iff {table next : Table} {id : String} {patch : FieldPatch}
    {field : Field} :
    table.updateField id patch = .ok (next, field) ↔
      ∃ old, table.field? id = some old ∧ field = patch.apply old ∧
        next = ({ table with fields := Keyed.update patch.apply id table.fields }).renameColumn
          old.name (patch.apply old).name := by
  cases h : table.field? id <;> simp [updateField, h, eq_comm, and_comm]

end Table

namespace Diagram

variable {diagram next : Diagram}

/-- A change inside a table happens in the first table with the id, and nowhere else. -/
theorem inTable_eq_ok_iff {β : Type} {tableId : String}
    {change : Table → Except EditError (Table × β)} {b : β} :
    diagram.inTable tableId change = .ok (next, b) ↔
      ∃ table changed, diagram.table? tableId = some table ∧ change table = .ok (changed, b) ∧
        next = { diagram with
          tables := Keyed.update (fun _ => changed) tableId diagram.tables } := by
  cases h : diagram.table? tableId with
  | none => simp [inTable, h]
  | some table =>
      simp only [inTable, h, bind_eq_ok_iff, Prod.exists]
      constructor
      · rintro ⟨changed, answer, done, result⟩
        cases result
        exact ⟨table, changed, rfl, done, rfl⟩
      · rintro ⟨_, changed, same, done, rfl⟩
        cases same
        exact ⟨changed, b, done, rfl⟩

theorem deleteTable_eq_ok_iff {id : String} {table : Table} :
    diagram.deleteTable id = .ok (next, table) ↔
      diagram.table? id = some table ∧
        next = { diagram with
          tables := Keyed.erase diagram.tables id
          relationships := diagram.relationships.filter fun r => !r.touchesTable id } := by
  simp only [deleteTable, bind_eq_ok_iff, Prod.exists, Shelf.delete_eq_ok_iff]
  constructor
  · rintro ⟨rest, removed, ⟨found, rfl⟩, done⟩
    cases done
    exact ⟨found, rfl⟩
  · rintro ⟨found, rfl⟩
    exact ⟨_, table, ⟨found, rfl⟩, rfl⟩

theorem deleteField_eq_ok_iff {tableId fieldId : String} {field : Field} :
    diagram.deleteField tableId fieldId = .ok (next, field) ↔
      ∃ rest, diagram.inTable tableId (Table.deleteField fieldId) = .ok (rest, field) ∧
        next = { rest with
          relationships := rest.relationships.filter fun r => !r.touches ⟨tableId, fieldId⟩ } := by
  simp only [deleteField, bind_eq_ok_iff, Prod.exists]
  constructor
  · rintro ⟨rest, removed, done, result⟩
    cases result
    exact ⟨rest, done, rfl⟩
  · rintro ⟨rest, done, rfl⟩
    exact ⟨rest, field, done, rfl⟩

theorem requireEndpoint_eq_ok_iff {endpoint : Endpoint} {u : Unit} :
    diagram.requireEndpoint endpoint = .ok u ↔ diagram.resolves endpoint = true := by
  cases h : diagram.resolves endpoint <;> simp [requireEndpoint, h]

theorem addRelationship_eq_ok_iff {relationship : Relationship} :
    diagram.addRelationship relationship = .ok next ↔
      Keyed.contains diagram.relationships relationship.id = false ∧
        diagram.resolves relationship.start = true ∧
        diagram.resolves relationship.target = true ∧
        next = { diagram with relationships := diagram.relationships ++ [relationship] } := by
  cases h : Keyed.contains diagram.relationships relationship.id with
  | true => simp [addRelationship, h]
  | false =>
      simp only [addRelationship, h, Bool.false_eq_true, if_false, bind_eq_ok_iff,
        requireEndpoint_eq_ok_iff, exists_const, true_and]
      constructor
      · rintro ⟨start, target, done⟩
        cases done
        exact ⟨start, target, rfl⟩
      · rintro ⟨start, target, rfl⟩
        exact ⟨start, target, rfl⟩

end Diagram

namespace Edit

variable {σ β : Type} {whole : σ} {shown : Member}

theorem showing_eq_ok_iff {member : β → Member} {result : Except EditError (σ × β)} :
    showing member result = .ok (whole, shown) ↔
      ∃ b, result = .ok (whole, b) ∧ member b = shown := by
  simp [showing, map_eq_ok_iff]

theorem presenting_eq_ok_iff {member : Member} {result : Except EditError σ} :
    presenting member result = .ok (whole, shown) ↔ result = .ok whole ∧ member = shown := by
  simp [presenting, map_eq_ok_iff]

/-- Whether an edit may change tables, or what is in them. -/
def changesTables : Edit → Bool
  | addTable _ | updateTable .. | deleteTable _ | reorderTable .. => true
  | addField .. | updateField .. | setFieldDefault .. | deleteField .. | reorderField .. => true
  | addIndex .. | updateIndex .. | deleteIndex .. | reorderIndex .. => true
  | _ => false

/-- The other edits leave all tables as they are. -/
theorem tables_of_apply {edit : Edit} {diagram next : Diagram} {shown : Member}
    (away : edit.changesTables = false) (done : edit.apply diagram = .ok (next, shown)) :
    next.tables = diagram.tables := by
  cases edit with
  | setTitle title =>
      cases done
      rfl
  | setDialect dialect =>
      cases done
      rfl
  | addRelationship relationship =>
      obtain ⟨_, _, _, rfl⟩ :=
        Diagram.addRelationship_eq_ok_iff.mp (presenting_eq_ok_iff.mp done).1
      rfl
  | addNote _ | addArea _ =>
      obtain ⟨_, rfl⟩ := Shelf.add_eq_ok_iff.mp (presenting_eq_ok_iff.mp done).1
      rfl
  | updateRelationship _ _ | updateNote _ _ | updateArea _ _ =>
      obtain ⟨_, updated, _⟩ := showing_eq_ok_iff.mp done
      obtain ⟨_, _, rfl, _⟩ := Shelf.update_eq_ok_iff.mp updated
      rfl
  | deleteRelationship _ | deleteNote _ | deleteArea _ =>
      obtain ⟨_, deleted, _⟩ := showing_eq_ok_iff.mp done
      obtain ⟨_, rfl⟩ := Shelf.delete_eq_ok_iff.mp deleted
      rfl
  | reorderRelationship _ _ | reorderNote _ _ | reorderArea _ _ =>
      obtain ⟨_, rfl⟩ := Shelf.reorder_eq_ok_iff.mp (presenting_eq_ok_iff.mp done).1
      rfl
  | _ => cases away

end Edit

end EntityDiagram
