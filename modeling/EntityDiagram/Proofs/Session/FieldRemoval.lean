import EntityDiagram.Proofs.Session.Edit
import EntityDiagram.Session.Basic

/-!
# Taking out a field

A field that goes takes along the relationships on it and, if no other field of the table has its
name, the entries of indexes with that name. All else stays as it is and in order: title, engine,
notes, areas, the other tables, the other fields, and every index that has a column and does not
name the field. Only an index without columns may go as well: it is not told apart from those that
have just lost their last column.
-/

namespace EntityDiagram

/-- The index without the entries of a name. -/
def Index.without (name : String) (index : Index) : Index :=
  { index with fields := index.fields.filter (· != name) }

theorem Index.without_eq_self {name : String} {index : Index} (unnamed : name ∉ index.fields) :
    index.without name = index := by
  have kept : index.fields.filter (· != name) = index.fields :=
    List.filter_eq_self.mpr fun entry member => bne_iff_ne.mpr (ne_of_mem_of_not_mem member unnamed)
  rw [without, kept]

/-- Indexes that have a column and do not list the name are left alone when the name is taken out of
all indexes and those without columns go. -/
theorem Index.sublist_without {indexes kept : List Index} {name : String}
    (sub : kept.Sublist indexes)
    (solid : ∀ index ∈ kept, name ∉ index.fields ∧ index.fields ≠ []) :
    kept.Sublist ((indexes.map (without name)).filter fun index => !index.fields.isEmpty) := by
  have unnamed : kept.map (without name) = kept :=
    (List.map_congr_left fun index member => without_eq_self (solid index member).1).trans
      (List.map_id kept)
  have filled : (kept.filter fun index => !index.fields.isEmpty) = kept :=
    List.filter_eq_self.mpr fun index member => by simp [(solid index member).2]
  have both := (sub.map (without name)).filter fun index => !index.fields.isEmpty
  rwa [unnamed, filled] at both

namespace Table

variable {table next : Table} {name : String}

/-- Forgetting a name changes nothing but the indexes, and those only if no field has it. -/
theorem forgetColumn_eq (table : Table) (name : String) :
    table.forgetColumn name = { table with
      indexes :=
        if table.hasFieldNamed name then table.indexes
        else (table.indexes.map (Index.without name)).filter fun index =>
          !index.fields.isEmpty } := by
  unfold forgetColumn
  split <;> rfl

/-- An index that has a column and does not list the name stays. -/
theorem sublist_forgetColumn (table : Table) (name : String) :
    (table.indexes.filter fun index => name ∉ index.fields ∧ index.fields ≠ []).Sublist
      (table.forgetColumn name).indexes := by
  rw [forgetColumn_eq]
  dsimp only
  split
  · exact List.filter_sublist
  · exact Index.sublist_without List.filter_sublist fun index member =>
      of_decide_eq_true (List.mem_filter.mp member).2

/-- All indexes that do not list the name stay exactly if a field still has it or every index has
a column. -/
theorem sublist_forgetColumn_iff :
    (table.indexes.filter fun index => name ∉ index.fields).Sublist
        (table.forgetColumn name).indexes ↔
      table.hasFieldNamed name = true ∨ ∀ index ∈ table.indexes, index.fields ≠ [] := by
  constructor
  · intro all
    by_contra neither
    obtain ⟨gone, bare⟩ := not_or.mp neither
    push Not at bare
    obtain ⟨index, member, empty⟩ := bare
    have listed : index ∈ table.indexes.filter fun index => name ∉ index.fields :=
      List.mem_filter.mpr ⟨member, by simp [empty]⟩
    have still := all.mem listed
    rw [forgetColumn_eq, if_neg gone] at still
    have filled := (List.mem_filter.mp still).2
    rw [empty] at filled
    exact Bool.noConfusion filled
  · rintro (carried | filled)
    · rw [forgetColumn_eq, if_pos carried]
      exact List.filter_sublist
    · have same : (table.indexes.filter fun index => name ∉ index.fields) =
          table.indexes.filter fun index => name ∉ index.fields ∧ index.fields ≠ [] :=
        List.filter_congr fun index member => by simp [filled index member]
      rw [same]
      exact sublist_forgetColumn table name

end Table

/-- A field among the others of its table, and the table among the others of its diagram. -/
structure FieldPlace where
  before : List Table
  table : Table
  after : List Table
  left : List Field
  field : Field
  right : List Field

namespace FieldPlace

/-- The place is the one in the diagram that the two ids lead to. -/
structure IsIn (place : FieldPlace) (diagram : Diagram) (tableId fieldId : String) : Prop where
  tables : diagram.tables = place.before ++ place.table :: place.after
  first_table : ∀ other ∈ place.before, other.id ≠ tableId
  table_id : place.table.id = tableId
  fields : place.table.fields = place.left ++ place.field :: place.right
  first_field : ∀ other ∈ place.left, other.id ≠ fieldId
  field_id : place.field.id = fieldId

/-- The table without the field, under the same indexes. -/
def bareTable (place : FieldPlace) : Table :=
  { place.table with fields := place.left ++ place.right }

/-- All tables in order, the field taken out and the indexes of its table exchanged for others. -/
def tablesWith (place : FieldPlace) (indexes : List Index) : List Table :=
  place.before ++ { place.bareTable with indexes } :: place.after

end FieldPlace

/-- A field that goes leaves the other tables, its own one without it, and the relationships that do
not touch it. -/
theorem Diagram.deleteField_place {diagram next : Diagram} {tableId fieldId : String}
    {removed : Field} (done : diagram.deleteField tableId fieldId = .ok (next, removed)) :
    ∃ place : FieldPlace, place.IsIn diagram tableId fieldId ∧ removed = place.field ∧
      next = { diagram with
        tables := place.tablesWith (place.bareTable.forgetColumn removed.name).indexes
        relationships := diagram.relationships.filter fun r => !r.touches ⟨tableId, fieldId⟩ } := by
  obtain ⟨rest, inside, rfl⟩ := deleteField_eq_ok_iff.mp done
  obtain ⟨table, changed, found, deleted, rfl⟩ := inTable_eq_ok_iff.mp inside
  obtain ⟨there, rfl⟩ := Table.deleteField_eq_ok_iff.mp deleted
  obtain ⟨before, after, tables, others⟩ := Keyed.split_of_find? found
  obtain ⟨left, right, fields, apart⟩ := Keyed.split_of_find? there
  have tableHere := Keyed.key_of_find?_eq_some found
  have fieldHere := Keyed.key_of_find?_eq_some there
  let place : FieldPlace := ⟨before, table, after, left, removed, right⟩
  have bare : place.bareTable.forgetColumn removed.name =
      { place.bareTable with
        indexes := (place.bareTable.forgetColumn removed.name).indexes } := by
    rw [Table.forgetColumn_eq]
  refine ⟨place, ⟨tables, others, tableHere, fields, apart, fieldHere⟩, rfl, ?_⟩
  rw [tables, fields, Keyed.update_append_cons others tableHere,
    Keyed.erase_append_cons apart fieldHere, FieldPlace.tablesWith, ← bare]
  rfl

namespace Session

variable {session next : Session} {tableId fieldId : String} {shown : Member}

/-- Taking out a field leaves title, engine, notes, areas, the other tables and the other fields as
they are, and takes out the relationships on the field and no others. The indexes that have a column
and do not list the name of the field stay, in order; so do all that do not list it exactly if
another field has the name or no index is without columns. -/
theorem edit_deleteField_frame
    (done : session.edit (.deleteField tableId fieldId) = .ok (next, shown)) :
    ∃ (place : FieldPlace) (indexes : List Index),
      place.IsIn session.diagram tableId fieldId ∧ shown = .field place.field ∧
      next.diagram = { session.diagram with
        tables := place.tablesWith indexes
        relationships := session.diagram.relationships.filter fun r =>
          r.start ≠ ⟨tableId, fieldId⟩ ∧ r.target ≠ ⟨tableId, fieldId⟩ } ∧
      (place.table.indexes.filter fun index =>
        place.field.name ∉ index.fields ∧ index.fields ≠ []).Sublist indexes ∧
      ((place.table.indexes.filter fun index =>
          place.field.name ∉ index.fields).Sublist indexes ↔
        (∃ other ∈ place.left ++ place.right, other.name = place.field.name) ∨
          ∀ index ∈ place.table.indexes, index.fields ≠ []) := by
  obtain ⟨⟨diagram, member⟩, applied, same⟩ := map_eq_ok_iff.mp done
  cases same
  obtain ⟨removed, deleted, rfl⟩ := Edit.showing_eq_ok_iff.mp applied
  obtain ⟨place, there, rfl, rfl⟩ := Diagram.deleteField_place deleted
  have untouched : (session.diagram.relationships.filter fun r =>
      !r.touches ⟨tableId, fieldId⟩) =
        session.diagram.relationships.filter fun r =>
          r.start ≠ ⟨tableId, fieldId⟩ ∧ r.target ≠ ⟨tableId, fieldId⟩ :=
    List.filter_congr fun r _ => Bool.eq_iff_iff.mpr (by simp [Relationship.touches])
  have kept : (place.bareTable.indexes.filter fun index =>
      place.field.name ∉ index.fields).Sublist
        (place.bareTable.forgetColumn place.field.name).indexes ↔ _ :=
    Table.sublist_forgetColumn_iff
  refine ⟨place, (place.bareTable.forgetColumn place.field.name).indexes, there, rfl, ?_,
    Table.sublist_forgetColumn place.bareTable place.field.name,
    kept.trans (or_congr_left Table.hasFieldNamed_iff)⟩
  rw [untouched]

/-- A field goes whose name one index lists twice and another one not at all; one of two
relationships goes with it. -/
theorem edit_deleteField_frame_email :
    let field (id name : String) : Field := { id, name, dataType := "TEXT" }
    let users : Table := {
      id := "t", name := "users", fields := [field "a" "email", field "b" "name"]
      indexes := [{ id := "i", fields := ["email", "name", "email"] },
        { id := "j", fields := ["name"] }] }
    let orders : Table := { id := "u", name := "orders", fields := [field "a" "user"] }
    let session := start {
      tables := [orders, users]
      relationships := [.between "r" ⟨"u", "a"⟩ ⟨"t", "a"⟩, .between "s" ⟨"u", "a"⟩ ⟨"t", "b"⟩] } 5
    ∃ next, session.edit (.deleteField "t" "a") = .ok (next, .field (field "a" "email")) ∧
      next.diagram.relationships.map Relationship.id = ["s"] ∧
      ∃ (place : FieldPlace) (indexes : List Index), place.IsIn session.diagram "t" "a" ∧
        next.diagram.tables = place.tablesWith indexes ∧
        (place.table.indexes.filter fun index =>
          place.field.name ∉ index.fields ∧ index.fields ≠ []).Sublist indexes := by
  intro field users orders session
  have done : session.edit (.deleteField "t" "a") = .ok (_, .field (field "a" "email")) := rfl
  obtain ⟨place, indexes, there, _, rest, kept, _⟩ := edit_deleteField_frame done
  exact ⟨_, done, by decide, place, indexes, there, congrArg Diagram.tables rest, kept⟩

/-- An index without columns, which cannot list the name of the field, goes with it. It stays if
another field has the name. -/
theorem edit_deleteField_drops_empty_index :
    let field (id name : String) : Field := { id, name, dataType := "TEXT" }
    let users (third : String) : Table := {
      id := "t", name := "users"
      fields := [field "a" "email", field "b" "name", field "c" third]
      indexes := [{ id := "i", fields := ["name"] }, { id := "j", fields := [] }] }
    let left (third : String) : List Table :=
      ((start { tables := [users third] } 5).perform (.edit (.deleteField "t" "a"))).1.diagram.tables
    left "phone" = [{ users "phone" with
        fields := [field "b" "name", field "c" "phone"]
        indexes := [{ id := "i", fields := ["name"] }] }] ∧
      left "email" = [{ users "email" with fields := [field "b" "name", field "c" "email"] }] := by
  decide

end Session

end EntityDiagram
