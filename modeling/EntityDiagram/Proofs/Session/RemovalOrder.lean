import EntityDiagram.Proofs.Session.FieldRemoval

/-!
# The order in which fields are taken out

Two different fields may be taken out in either order: the same two are shown and the same diagram
is left. What makes this more than two independent removals is the name that a field leaves behind
in the indexes. It is forgotten only with the last field that carries it, so that of two fields with
one name it is the later removal that cleans the indexes, whichever field that is; and each cleaning
also drops the indexes that have no column.
-/

namespace EntityDiagram

/-! ### Names that indexes forget -/

namespace Index

/-- The indexes without the entries of a name, and without those that have no column then. -/
def allWithout (name : String) (indexes : List Index) : List Index :=
  (indexes.map (without name)).filter fun index => !index.fields.isEmpty

/-- What is left of some indexes when a field goes: all of them if its name is carried by another
field, else what they are without the name. -/
def remaining (carried : Bool) (name : String) (indexes : List Index) : List Index :=
  if carried then indexes else allWithout name indexes

theorem without_comm (first second : String) (index : Index) :
    (index.without first).without second = (index.without second).without first := by
  simp only [without, List.filter_filter, Bool.and_comm]

/-- Indexes that have no column when the first name is gone have none either when both are. -/
theorem allWithout_allWithout (first second : String) (indexes : List Index) :
    allWithout second (allWithout first indexes) =
      (indexes.map fun index => (index.without first).without second).filter
        fun index => !index.fields.isEmpty := by
  have bare : ∀ index : Index, (!(index.without second).fields.isEmpty) = true →
      (!index.fields.isEmpty) = true := by
    intro index filled
    cases columns : index.fields with
    | nil => simp [without, columns] at filled
    | cons column rest => rfl
  rw [allWithout, allWithout, List.filter_map, List.filter_filter, List.filter_map, List.filter_map,
    List.map_map, Function.comp_def, Function.comp_def]
  congr 1
  refine List.filter_congr fun index _ => ?_
  have both := bare (index.without first)
  cases kept : (!((index.without first).without second).fields.isEmpty) with
  | false => simp [kept]
  | true => simp [kept, both kept]

theorem allWithout_comm (first second : String) (indexes : List Index) :
    allWithout second (allWithout first indexes) =
      allWithout first (allWithout second indexes) := by
  simp only [allWithout_allWithout, without_comm first second]

theorem remaining_comm (carriedFirst carriedSecond : Bool) (first second : String)
    (indexes : List Index) :
    remaining carriedSecond second (remaining carriedFirst first indexes) =
      remaining carriedFirst first (remaining carriedSecond second indexes) := by
  cases carriedFirst <;> cases carriedSecond <;> simp [remaining, allWithout_comm first second]

end Index

/-! ### Fields of one table -/

namespace Table

variable {table : Table} {id other : String} {a b : Field}

/-- The table when the first field with the id, which is the given one, is gone. -/
def withoutField (id : String) (field : Field) (table : Table) : Table :=
  ({ table with fields := Keyed.erase table.fields id }).forgetColumn field.name

theorem withoutField_eq (id : String) (field : Field) (table : Table) :
    table.withoutField id field = { table with
      fields := Keyed.erase table.fields id
      indexes := Index.remaining ((Keyed.erase table.fields id).any (·.name == field.name))
        field.name table.indexes } := by
  rw [withoutField, forgetColumn_eq]
  rfl

@[simp] theorem id_withoutField (id : String) (field : Field) (table : Table) :
    (table.withoutField id field).id = table.id := by
  rw [withoutField_eq]

@[simp] theorem fields_withoutField (id : String) (field : Field) (table : Table) :
    (table.withoutField id field).fields = Keyed.erase table.fields id := by
  rw [withoutField_eq]

theorem field?_withoutField (apart : other ≠ id) :
    (table.withoutField id a).field? other = table.field? other := by
  rw [field?, fields_withoutField, Keyed.find?_erase_of_ne apart, field?]

/-- A name is carried as before when a field with another name is gone. -/
theorem carried_erase {fields : List Field} (found : Keyed.find? fields id = some a)
    {name : String} (differs : a.name ≠ name) :
    (Keyed.erase fields id).any (·.name == name) = fields.any (·.name == name) := by
  obtain ⟨before, after, rfl, others⟩ := Keyed.split_of_find? found
  rw [Keyed.erase_append_cons others (Keyed.key_of_find?_eq_some found), List.any_append,
    List.any_append, List.any_cons, beq_eq_false_iff_ne.mpr differs, Bool.false_or]

theorem carried_of_find? {fields : List Field} (found : Keyed.find? fields id = some a) :
    fields.any (·.name == a.name) = true :=
  List.any_eq_true.mpr ⟨a, Keyed.mem_of_find?_eq_some found, beq_self_eq_true a.name⟩

/-- Two fields of a table may go in either order. If they share their name, neither is the first to
clean the indexes, since the other one still carries it; else each cleans them as it would alone. -/
theorem withoutField_comm (apart : other ≠ id) (first : table.field? id = some a)
    (second : table.field? other = some b) :
    (table.withoutField id a).withoutField other b =
      (table.withoutField other b).withoutField id a := by
  have firstLeft : Keyed.find? (Keyed.erase table.fields other) id = some a :=
    (Keyed.find?_erase_of_ne apart.symm).trans first
  have secondLeft : Keyed.find? (Keyed.erase table.fields id) other = some b :=
    (Keyed.find?_erase_of_ne apart).trans second
  simp only [withoutField_eq, Table.mk.injEq, true_and]
  refine ⟨Keyed.erase_comm apart, ?_⟩
  by_cases same : a.name = b.name
  · have carriedFirst := carried_of_find? secondLeft
    have carriedSecond := carried_of_find? firstLeft
    rw [← same] at carriedFirst ⊢
    rw [carriedFirst, carriedSecond, Keyed.erase_comm apart]
  · have keepsFirst := carried_erase secondLeft (Ne.symm same)
    have keepsSecond := carried_erase firstLeft same
    rw [← keepsFirst, ← keepsSecond, Keyed.erase_comm apart]
    exact Index.remaining_comm _ _ _ _ _

end Table

/-! ### Fields of a diagram -/

namespace Diagram

variable {diagram : Diagram} {first second : Endpoint} {table otherTable : Table} {a b : Field}

/-- The diagram when the field at an endpoint, which is the given one, is gone. -/
def withoutField (endpoint : Endpoint) (field : Field) (diagram : Diagram) : Diagram :=
  { diagram with
    tables := Keyed.update (Table.withoutField endpoint.fieldId field) endpoint.tableId
      diagram.tables
    relationships := diagram.relationships.filter fun r => !r.touches endpoint }

/-- A field that is there can be taken out. -/
theorem deleteField_of_resolve? (found : diagram.resolve? first = some (table, a)) :
    diagram.deleteField first.tableId first.fieldId = .ok (diagram.withoutField first a, a) := by
  obtain ⟨leads, inside⟩ := resolve?_eq_some_iff.mp found
  have removed : table.deleteField first.fieldId = .ok (table.withoutField first.fieldId a, a) :=
    Table.deleteField_eq_ok_iff.mpr ⟨inside, rfl⟩
  refine deleteField_eq_ok_iff.mpr ⟨_, inTable_eq_ok_iff.mpr ⟨_, _, leads, removed, rfl⟩, ?_⟩
  obtain ⟨before, after, tables, others⟩ := Keyed.split_of_find? leads
  have here := Keyed.key_of_find?_eq_some leads
  rw [withoutField, tables, Keyed.update_append_cons others here,
    Keyed.update_append_cons others here]

theorem table?_withoutField_self (leads : diagram.table? first.tableId = some table) :
    (diagram.withoutField first a).table? first.tableId =
      some (table.withoutField first.fieldId a) :=
  Keyed.find?_update_self leads
    ((Table.id_withoutField _ _ table).trans (Keyed.key_of_find?_eq_some leads))

/-- The other tables stay when a field is gone. -/
theorem table?_withoutField_of_ne {id : String} (leads : diagram.table? first.tableId = some table)
    (apart : id ≠ first.tableId) :
    (diagram.withoutField first a).table? id = diagram.table? id := by
  have passed : Keyed.hasKey id table = false := by
    rw [Bool.eq_false_iff, ne_eq, Keyed.hasKey_iff, Keyed.key_of_find?_eq_some leads]
    exact apart.symm
  have still : Keyed.hasKey id (table.withoutField first.fieldId a) = false := by
    rw [Keyed.hasKey, Table.key_eq, Table.id_withoutField]
    exact passed
  exact Keyed.find?_update_of_not leads passed still

/-- Another field is still there when one is gone. -/
theorem resolve?_withoutField (apart : first ≠ second)
    (here : diagram.resolve? first = some (table, a))
    (there : diagram.resolve? second = some (otherTable, b)) :
    ∃ left, (diagram.withoutField first a).resolve? second = some (left, b) := by
  obtain ⟨leads, inside⟩ := resolve?_eq_some_iff.mp here
  obtain ⟨leadsOther, insideOther⟩ := resolve?_eq_some_iff.mp there
  obtain ⟨tableId, fieldId⟩ := second
  by_cases sameTable : tableId = first.tableId
  · subst sameTable
    have otherField : fieldId ≠ first.fieldId := fun same => apart (same ▸ rfl)
    obtain rfl : table = otherTable := Option.some.inj (leads.symm.trans leadsOther)
    exact ⟨_, resolve?_eq_some_iff.mpr ⟨table?_withoutField_self leads,
      (Table.field?_withoutField otherField).trans insideOther⟩⟩
  · exact ⟨otherTable, resolve?_eq_some_iff.mpr
      ⟨(table?_withoutField_of_ne leads sameTable).trans leadsOther, insideOther⟩⟩

/-- Two fields of a diagram may go in either order. -/
theorem withoutField_comm (apart : first ≠ second)
    (here : diagram.resolve? first = some (table, a))
    (there : diagram.resolve? second = some (otherTable, b)) :
    (diagram.withoutField first a).withoutField second b =
      (diagram.withoutField second b).withoutField first a := by
  obtain ⟨leads, inside⟩ := resolve?_eq_some_iff.mp here
  obtain ⟨leadsOther, insideOther⟩ := resolve?_eq_some_iff.mp there
  have relationships :
      ((diagram.relationships.filter fun r => !r.touches first).filter fun r =>
        !r.touches second) =
      (diagram.relationships.filter fun r => !r.touches second).filter fun r =>
        !r.touches first := by
    simp only [List.filter_filter, Bool.and_comm]
  have tables :
      Keyed.update (Table.withoutField second.fieldId b) second.tableId
        (Keyed.update (Table.withoutField first.fieldId a) first.tableId diagram.tables) =
      Keyed.update (Table.withoutField first.fieldId a) first.tableId
        (Keyed.update (Table.withoutField second.fieldId b) second.tableId diagram.tables) := by
    by_cases sameTable : second.tableId = first.tableId
    · have otherField : second.fieldId ≠ first.fieldId := by
        intro sameField
        cases first
        cases second
        exact apart (by rw [Endpoint.mk.injEq]; exact ⟨sameTable.symm, sameField.symm⟩)
      rw [sameTable] at leadsOther ⊢
      obtain rfl : table = otherTable := Option.some.inj (leads.symm.trans leadsOther)
      have id := Keyed.key_of_find?_eq_some leads
      rw [Keyed.update_update leads ((Table.id_withoutField _ _ table).trans id),
        Keyed.update_update leads ((Table.id_withoutField _ _ table).trans id)]
      exact Keyed.update_congr leads (Table.withoutField_comm otherField inside insideOther)
    · exact Keyed.update_comm (Table.id_withoutField _ _) (Table.id_withoutField _ _) sameTable
  simp only [withoutField, tables, relationships]

end Diagram

namespace Session

/-- A field that is there can be taken out of the diagram of a session. -/
theorem edit_deleteField_of_resolve? {session : Session} {endpoint : Endpoint} {table : Table}
    {field : Field} (found : session.diagram.resolve? endpoint = some (table, field)) :
    session.edit (.deleteField endpoint.tableId endpoint.fieldId) =
      .ok ({ diagram := session.diagram.withoutField endpoint field
             history := session.history.record session.diagram }, .field field) :=
  map_eq_ok_iff.mpr ⟨_, Edit.showing_eq_ok_iff.mpr
    ⟨field, Diagram.deleteField_of_resolve? found, rfl⟩, rfl⟩

/-- Two different fields that are there, in one table or in two, can be taken out in either order.
Each removal shows the same field whether it comes first or second, and both orders end with the
same diagram. -/
theorem edit_deleteField_comm {session : Session} {first second : Endpoint}
    {firstTable secondTable : Table} {a b : Field} (apart : first ≠ second)
    (here : session.diagram.resolve? first = some (firstTable, a))
    (there : session.diagram.resolve? second = some (secondTable, b)) :
    ∃ afterFirst afterSecond one other : Session,
      session.edit (.deleteField first.tableId first.fieldId) = .ok (afterFirst, .field a) ∧
      afterFirst.edit (.deleteField second.tableId second.fieldId) = .ok (one, .field b) ∧
      session.edit (.deleteField second.tableId second.fieldId) = .ok (afterSecond, .field b) ∧
      afterSecond.edit (.deleteField first.tableId first.fieldId) = .ok (other, .field a) ∧
      one.diagram = other.diagram := by
  obtain ⟨_, secondStill⟩ := Diagram.resolve?_withoutField apart here there
  obtain ⟨_, firstStill⟩ := Diagram.resolve?_withoutField apart.symm there here
  exact ⟨_, _, _, _, edit_deleteField_of_resolve? here, edit_deleteField_of_resolve? secondStill,
    edit_deleteField_of_resolve? there, edit_deleteField_of_resolve? firstStill,
    Diagram.withoutField_comm apart here there⟩

/-- Of two fields with one name and a relationship between them, whichever goes first leaves the
indexes alone, also the one without columns; the other takes the name out of them. -/
theorem edit_deleteField_comm_one_name :
    let field (id name : String) : Field := { id, name, dataType := "TEXT" }
    let users : Table := {
      id := "t", name := "users"
      fields := [field "a" "mail", field "b" "mail", field "c" "name"]
      indexes := [{ id := "i", fields := ["mail", "name"] }, { id := "j", fields := ["mail"] },
        { id := "k" }] }
    let session := start {
      tables := [users]
      relationships := [.between "r" ⟨"t", "a"⟩ ⟨"t", "b"⟩, .between "s" ⟨"t", "c"⟩ ⟨"t", "c"⟩] } 5
    ∃ afterFirst afterSecond one other : Session,
      session.edit (.deleteField "t" "a") = .ok (afterFirst, .field (field "a" "mail")) ∧
      afterFirst.edit (.deleteField "t" "b") = .ok (one, .field (field "b" "mail")) ∧
      session.edit (.deleteField "t" "b") = .ok (afterSecond, .field (field "b" "mail")) ∧
      afterSecond.edit (.deleteField "t" "a") = .ok (other, .field (field "a" "mail")) ∧
      one.diagram = other.diagram ∧
      afterFirst.diagram.tables = [{ users with fields := [field "b" "mail", field "c" "name"] }] ∧
      one.diagram.tables = [{ users with
        fields := [field "c" "name"], indexes := [{ id := "i", fields := ["name"] }] }] := by
  intro field users session
  have here : session.diagram.resolve? ⟨"t", "a"⟩ = some (users, field "a" "mail") := rfl
  have there : session.diagram.resolve? ⟨"t", "b"⟩ = some (users, field "b" "mail") := rfl
  obtain ⟨afterFirst, afterSecond, one, other, first, second, firstLate, secondLate, same⟩ :=
    edit_deleteField_comm (by decide) here there
  refine ⟨afterFirst, afterSecond, one, other, first, second, firstLate, secondLate, same, ?_⟩
  cases first
  cases second
  exact ⟨by decide, by decide⟩

end Session

end EntityDiagram
