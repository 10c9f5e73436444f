import EntityDiagram.Proofs.Session.Run

/-!
# Consistent diagrams stay consistent

A diagram is consistent if its tables have distinct ids and both sides of every relationship are
there. Looking up a side takes the first table with its id, so the second part alone would not
survive a reordering. Together they are kept by every edit: what a table offers to relationships is
the list of its endpoints, an edit either keeps all of them or takes out exactly those that it also
takes from the relationships. The main statement follows a whole run through live diagram and
history.
-/

namespace EntityDiagram

/-- What a table offers to relationships: an endpoint for each of its fields. -/
def Table.endpoints (table : Table) : List Endpoint :=
  table.fields.map fun field => ⟨table.id, field.id⟩

namespace Table

theorem mem_endpoints {table : Table} {endpoint : Endpoint} :
    endpoint ∈ table.endpoints ↔
      table.id = endpoint.tableId ∧ ∃ field ∈ table.fields, field.id = endpoint.fieldId := by
  obtain ⟨tableId, fieldId⟩ := endpoint
  simp only [endpoints, List.mem_map, Endpoint.mk.injEq]
  constructor
  · rintro ⟨field, member, sameTable, sameField⟩
    exact ⟨sameTable, field, member, sameField⟩
  · rintro ⟨sameTable, field, member, sameField⟩
    exact ⟨field, member, sameTable, sameField⟩

/-- A table that stands in the place of another: it has its id, and it offers all of its endpoints
that are still wanted. -/
structure Replaces (wanted : Endpoint → Prop) (table other : Table) : Prop where
  id : other.id = table.id
  offered : ∀ endpoint ∈ table.endpoints, wanted endpoint → endpoint ∈ other.endpoints

/-- With the same id it is enough to look at the fields. -/
theorem Replaces.of_fields {wanted : Endpoint → Prop} {table other : Table}
    (id : other.id = table.id)
    (fields : ∀ field ∈ table.fields, wanted ⟨table.id, field.id⟩ →
      ∃ kept ∈ other.fields, kept.id = field.id) : table.Replaces wanted other := by
  refine ⟨id, ?_⟩
  intro endpoint member still
  obtain ⟨sameTable, field, inside, sameField⟩ := mem_endpoints.mp member
  obtain ⟨kept, there, same⟩ := fields field inside (by rwa [sameTable, sameField])
  exact mem_endpoints.mpr ⟨id.trans sameTable, kept, there, same.trans sameField⟩

@[simp] theorem id_renameColumn (table : Table) (old new : String) :
    (table.renameColumn old new).id = table.id := by
  unfold renameColumn
  split <;> rfl

@[simp] theorem fields_renameColumn (table : Table) (old new : String) :
    (table.renameColumn old new).fields = table.fields := by
  unfold renameColumn
  split <;> rfl

@[simp] theorem id_forgetColumn (table : Table) (name : String) :
    (table.forgetColumn name).id = table.id := by
  unfold forgetColumn
  split <;> rfl

@[simp] theorem fields_forgetColumn (table : Table) (name : String) :
    (table.forgetColumn name).fields = table.fields := by
  unfold forgetColumn
  split <;> rfl

/-- Changing a field keeps its id. -/
theorem replaces_updateField {table next : Table} {id : String} {patch : FieldPatch}
    {field : Field} (done : table.updateField id patch = .ok (next, field)) :
    table.Replaces (fun _ => True) next := by
  obtain ⟨old, found, rfl, rfl⟩ := updateField_eq_ok_iff.mp done
  refine .of_fields (by simp) ?_
  intro field member _
  have ids : (Keyed.update patch.apply id table.fields).map Field.id = table.fields.map Field.id :=
    Keyed.map_update_of_find? fun field _ => patch.id_apply field
  rw [fields_renameColumn]
  exact List.mem_map.mp (ids ▸ List.mem_map_of_mem member)

/-- Taking out a field takes out at most its own endpoint. -/
theorem replaces_deleteField {table next : Table} {id : String} {field : Field}
    (done : table.deleteField id = .ok (next, field)) :
    table.Replaces (· ≠ ⟨table.id, id⟩) next := by
  obtain ⟨found, rfl⟩ := deleteField_eq_ok_iff.mp done
  refine .of_fields (by simp) fun kept member other => ⟨kept, ?_, rfl⟩
  have otherField : kept.id ≠ id := by
    rintro rfl
    exact other rfl
  simpa using Keyed.mem_erase_of_ne member otherField

end Table

namespace Diagram

variable {diagram next : Diagram}

/-- What a diagram offers to relationships. -/
def endpoints (diagram : Diagram) : List Endpoint := diagram.tables.flatMap Table.endpoints

/-- The tables have distinct ids, and both sides of every relationship are there. -/
structure Consistent (diagram : Diagram) : Prop where
  distinct : (diagram.tables.map Table.id).Nodup
  resolved : ∀ r ∈ diagram.relationships,
    diagram.resolves r.start = true ∧ diagram.resolves r.target = true

theorem mem_endpoints {endpoint : Endpoint} :
    endpoint ∈ diagram.endpoints ↔ ∃ table ∈ diagram.tables, endpoint ∈ table.endpoints := by
  simp [endpoints]

/-- With distinct ids an endpoint resolves exactly if some table offers it, wherever it stands. -/
theorem resolves_iff_mem_endpoints (distinct : (diagram.tables.map Table.id).Nodup)
    {endpoint : Endpoint} : diagram.resolves endpoint = true ↔ endpoint ∈ diagram.endpoints := by
  rw [resolves_iff, mem_endpoints]
  constructor
  · rintro ⟨table, field, inDiagram, inTable⟩
    refine ⟨table, Keyed.mem_of_find?_eq_some inDiagram, Table.mem_endpoints.mpr ?_⟩
    exact ⟨Keyed.key_of_find?_eq_some inDiagram, field, Keyed.mem_of_find?_eq_some inTable,
      Keyed.key_of_find?_eq_some inTable⟩
  · rintro ⟨table, member, offered⟩
    obtain ⟨sameTable, field⟩ := Table.mem_endpoints.mp offered
    obtain ⟨first, found⟩ := Option.isSome_iff_exists.mp (Keyed.find?_isSome_iff_exists.mpr field)
    exact ⟨table, first, (Keyed.find?_eq_some_iff distinct).mpr ⟨member, sameTable⟩, found⟩

theorem consistent_iff :
    diagram.Consistent ↔ (diagram.tables.map Table.id).Nodup ∧
      ∀ r ∈ diagram.relationships, r.start ∈ diagram.endpoints ∧ r.target ∈ diagram.endpoints := by
  constructor
  · intro h
    refine ⟨h.distinct, ?_⟩
    intro r member
    simpa only [resolves_iff_mem_endpoints h.distinct] using h.resolved r member
  · rintro ⟨distinct, offered⟩
    refine ⟨distinct, ?_⟩
    intro r member
    simpa only [resolves_iff_mem_endpoints distinct] using offered r member

namespace Consistent

/-- Endpoints may be added, and relationships may change in anything but their sides. -/
theorem mono (h : diagram.Consistent) (distinct : (next.tables.map Table.id).Nodup)
    (offered : ∀ endpoint ∈ diagram.endpoints, endpoint ∈ next.endpoints)
    (sides : ∀ r ∈ next.relationships, ∃ old ∈ diagram.relationships,
      r.start = old.start ∧ r.target = old.target) : next.Consistent := by
  obtain ⟨_, before⟩ := consistent_iff.mp h
  refine consistent_iff.mpr ⟨distinct, ?_⟩
  intro r member
  obtain ⟨old, was, start, target⟩ := sides r member
  rw [start, target]
  exact (before old was).imp (offered _) (offered _)

/-- Other relationships on the same tables. -/
theorem withRelationships (h : diagram.Consistent) {relationships : List Relationship}
    (sides : ∀ r ∈ relationships, ∃ old ∈ diagram.relationships,
      r.start = old.start ∧ r.target = old.target) :
    ({ diagram with relationships } : Diagram).Consistent :=
  h.mono h.distinct (fun _ offered => offered) sides

/-- Other tables under the same relationships. -/
theorem withTables (h : diagram.Consistent) {tables : List Table}
    (distinct : (tables.map Table.id).Nodup)
    (offered : ∀ endpoint ∈ diagram.endpoints, endpoint ∈ tables.flatMap Table.endpoints) :
    ({ diagram with tables } : Diagram).Consistent :=
  h.mono distinct offered fun r member => ⟨r, member, rfl, rfl⟩

/-- Another table in the place of one, and perhaps fewer relationships: what is no longer wanted
must not be a side of any of them. -/
theorem replaceTable (h : diagram.Consistent) (wanted : Endpoint → Prop) {id : String}
    {f : Table → Table} {relationships : List Relationship}
    (replaces : ∀ table, diagram.table? id = some table → table.Replaces wanted (f table))
    (sides : ∀ r ∈ relationships,
      r ∈ diagram.relationships ∧ wanted r.start ∧ wanted r.target) :
    ({ diagram with
      tables := Keyed.update f id diagram.tables, relationships } : Diagram).Consistent := by
  obtain ⟨distinct, before⟩ := consistent_iff.mp h
  have offered : ∀ endpoint ∈ diagram.endpoints, wanted endpoint →
      endpoint ∈ (Keyed.update f id diagram.tables).flatMap Table.endpoints := by
    intro endpoint member still
    obtain ⟨table, inside, offers⟩ := mem_endpoints.mp member
    rw [List.mem_flatMap]
    by_cases here : table.id = id
    · have found : diagram.table? id = some table :=
        (Keyed.find?_eq_some_iff distinct).mpr ⟨inside, here⟩
      exact ⟨f table, Keyed.mem_update_self found, (replaces table found).offered _ offers still⟩
    · exact ⟨table, Keyed.mem_update_of_ne inside here, offers⟩
  refine consistent_iff.mpr ⟨?_, ?_⟩
  · rw [Keyed.map_update_of_find? fun table found => (replaces table found).id]
    exact distinct
  · intro r member
    obtain ⟨was, start, target⟩ := sides r member
    exact ⟨offered _ (before r was).1 start, offered _ (before r was).2 target⟩

/-- A change inside a table under the same relationships. -/
theorem inTable (h : diagram.Consistent) {β : Type} {tableId : String}
    {change : Table → Except EditError (Table × β)} {b : β}
    (replaces : ∀ table changed b, change table = .ok (changed, b) →
      table.Replaces (fun _ => True) changed)
    (done : diagram.inTable tableId change = .ok (next, b)) : next.Consistent := by
  obtain ⟨table, changed, found, inside, rfl⟩ := inTable_eq_ok_iff.mp done
  refine h.replaceTable (fun _ => True) ?_ fun r member => ⟨member, trivial, trivial⟩
  intro other same
  obtain rfl : table = other := Option.some.inj (found.symm.trans same)
  exact replaces table changed b inside

theorem deleteField (h : diagram.Consistent) {tableId fieldId : String} {field : Field}
    (done : diagram.deleteField tableId fieldId = .ok (next, field)) : next.Consistent := by
  obtain ⟨rest, inside, rfl⟩ := deleteField_eq_ok_iff.mp done
  obtain ⟨table, changed, found, removed, rfl⟩ := inTable_eq_ok_iff.mp inside
  have id : table.id = tableId := Keyed.key_of_find?_eq_some found
  refine h.replaceTable (· ≠ ⟨tableId, fieldId⟩) ?_ ?_
  · intro other same
    obtain rfl : table = other := Option.some.inj (found.symm.trans same)
    exact id ▸ Table.replaces_deleteField removed
  · intro r member
    simpa [Relationship.touches] using List.mem_filter.mp member

/-- A table may go together with every relationship on it. -/
theorem deleteTable (h : diagram.Consistent) {id : String} {table : Table}
    (done : diagram.deleteTable id = .ok (next, table)) : next.Consistent := by
  obtain ⟨found, rfl⟩ := deleteTable_eq_ok_iff.mp done
  obtain ⟨distinct, before⟩ := consistent_iff.mp h
  have offered : ∀ endpoint ∈ diagram.endpoints, endpoint.tableId ≠ id →
      endpoint ∈ (Keyed.erase diagram.tables id).flatMap Table.endpoints := by
    intro endpoint member other
    obtain ⟨kept, inside, offers⟩ := mem_endpoints.mp member
    have otherTable : kept.id ≠ id := by
      rw [(Table.mem_endpoints.mp offers).1]
      exact other
    exact List.mem_flatMap.mpr ⟨kept, Keyed.mem_erase_of_ne inside otherTable, offers⟩
  refine consistent_iff.mpr ⟨Keyed.nodup_map_key_erase distinct id, ?_⟩
  intro r member
  obtain ⟨was, away⟩ := List.mem_filter.mp member
  obtain ⟨start, target⟩ : r.startTableId ≠ id ∧ r.endTableId ≠ id := by
    simpa [Relationship.touchesTable] using away
  exact ⟨offered _ (before r was).1 start, offered _ (before r was).2 target⟩

theorem addRelationship (h : diagram.Consistent) {relationship : Relationship}
    (done : diagram.addRelationship relationship = .ok next) : next.Consistent := by
  obtain ⟨_, start, target, rfl⟩ := addRelationship_eq_ok_iff.mp done
  refine ⟨h.distinct, ?_⟩
  intro r member
  rcases List.mem_append.mp member with old | new
  · exact h.resolved r old
  · obtain rfl := List.mem_singleton.mp new
    exact ⟨start, target⟩

/-- Every edit leads from consistent diagrams to consistent ones. -/
theorem apply (h : diagram.Consistent) {edit : Edit} {shown : Member}
    (done : edit.apply diagram = .ok (next, shown)) : next.Consistent := by
  cases edit with
  | setTitle title =>
      cases done
      exact ⟨h.distinct, h.resolved⟩
  | setDialect dialect =>
      cases done
      exact ⟨h.distinct, h.resolved⟩
  | addTable table =>
      obtain ⟨fresh, rfl⟩ := Shelf.add_eq_ok_iff.mp (Edit.presenting_eq_ok_iff.mp done).1
      refine h.withTables (Keyed.nodup_map_key_append h.distinct fresh) ?_
      intro endpoint offered
      rw [List.flatMap_append]
      exact List.mem_append_left _ offered
  | updateTable id patch =>
      obtain ⟨_, updated, _⟩ := Edit.showing_eq_ok_iff.mp done
      obtain ⟨_, _, rfl, _⟩ := Shelf.update_eq_ok_iff.mp updated
      exact h.replaceTable (fun _ => True) (fun table _ => ⟨rfl, fun _ offered _ => offered⟩)
        fun r member => ⟨member, trivial, trivial⟩
  | deleteTable id =>
      obtain ⟨_, deleted, _⟩ := Edit.showing_eq_ok_iff.mp done
      exact h.deleteTable deleted
  | reorderTable id target =>
      obtain ⟨_, rfl⟩ := Shelf.reorder_eq_ok_iff.mp (Edit.presenting_eq_ok_iff.mp done).1
      have perm := Keyed.reorder_perm diagram.tables id target
      exact h.withTables (Keyed.nodup_map_key_reorder h.distinct id target)
        fun endpoint offered => (perm.flatMap_right _).mem_iff.mpr offered
  | addField tableId field =>
      refine h.inTable ?_ done
      intro table changed b added
      obtain ⟨_, rfl⟩ := Shelf.add_eq_ok_iff.mp (Edit.presenting_eq_ok_iff.mp added).1
      exact .of_fields rfl fun field member _ => ⟨field, List.mem_append_left _ member, rfl⟩
  | updateField tableId id patch =>
      refine h.inTable ?_ done
      intro table changed b inside
      obtain ⟨_, updated, _⟩ := Edit.showing_eq_ok_iff.mp inside
      exact Table.replaces_updateField updated
  | setFieldDefault tableId id raw =>
      refine h.inTable ?_ done
      intro table changed b inside
      obtain ⟨_, updated, _⟩ := Edit.showing_eq_ok_iff.mp inside
      exact Table.replaces_updateField updated
  | deleteField tableId id =>
      obtain ⟨_, deleted, _⟩ := Edit.showing_eq_ok_iff.mp done
      exact h.deleteField deleted
  | reorderField tableId id target =>
      refine h.inTable ?_ done
      intro table changed b moved
      obtain ⟨_, rfl⟩ := Shelf.reorder_eq_ok_iff.mp (Edit.presenting_eq_ok_iff.mp moved).1
      have perm := Keyed.reorder_perm table.fields id target
      exact .of_fields rfl fun field member _ => ⟨field, perm.mem_iff.mpr member, rfl⟩
  | addIndex tableId index =>
      refine h.inTable ?_ done
      intro table changed b added
      obtain ⟨_, rfl⟩ := Shelf.add_eq_ok_iff.mp (Edit.presenting_eq_ok_iff.mp added).1
      exact ⟨rfl, fun _ offered _ => offered⟩
  | updateIndex tableId id patch =>
      refine h.inTable ?_ done
      intro table changed b inside
      obtain ⟨_, updated, _⟩ := Edit.showing_eq_ok_iff.mp inside
      obtain ⟨_, _, rfl, _⟩ := Shelf.update_eq_ok_iff.mp updated
      exact ⟨rfl, fun _ offered _ => offered⟩
  | deleteIndex tableId id =>
      refine h.inTable ?_ done
      intro table changed b inside
      obtain ⟨_, deleted, _⟩ := Edit.showing_eq_ok_iff.mp inside
      obtain ⟨_, rfl⟩ := Shelf.delete_eq_ok_iff.mp deleted
      exact ⟨rfl, fun _ offered _ => offered⟩
  | reorderIndex tableId id target =>
      refine h.inTable ?_ done
      intro table changed b moved
      obtain ⟨_, rfl⟩ := Shelf.reorder_eq_ok_iff.mp (Edit.presenting_eq_ok_iff.mp moved).1
      exact ⟨rfl, fun _ offered _ => offered⟩
  | addRelationship relationship =>
      exact h.addRelationship (Edit.presenting_eq_ok_iff.mp done).1
  | updateRelationship id patch =>
      obtain ⟨_, updated, _⟩ := Edit.showing_eq_ok_iff.mp done
      obtain ⟨_, _, rfl, _⟩ := Shelf.update_eq_ok_iff.mp updated
      refine h.withRelationships ?_
      intro r member
      rcases Keyed.mem_update member with old | ⟨old, found, rfl⟩
      · exact ⟨r, old, rfl, rfl⟩
      · exact ⟨old, Keyed.mem_of_find?_eq_some found, rfl, rfl⟩
  | deleteRelationship id =>
      obtain ⟨_, deleted, _⟩ := Edit.showing_eq_ok_iff.mp done
      obtain ⟨_, rfl⟩ := Shelf.delete_eq_ok_iff.mp deleted
      exact h.withRelationships fun r member =>
        ⟨r, (Keyed.erase_sublist diagram.relationships id).mem member, rfl, rfl⟩
  | reorderRelationship id target =>
      obtain ⟨_, rfl⟩ := Shelf.reorder_eq_ok_iff.mp (Edit.presenting_eq_ok_iff.mp done).1
      have perm := Keyed.reorder_perm diagram.relationships id target
      exact h.withRelationships fun r member => ⟨r, perm.mem_iff.mp member, rfl, rfl⟩
  | addNote note =>
      obtain ⟨_, rfl⟩ := Shelf.add_eq_ok_iff.mp (Edit.presenting_eq_ok_iff.mp done).1
      exact ⟨h.distinct, h.resolved⟩
  | updateNote id patch =>
      obtain ⟨_, updated, _⟩ := Edit.showing_eq_ok_iff.mp done
      obtain ⟨_, _, rfl, _⟩ := Shelf.update_eq_ok_iff.mp updated
      exact ⟨h.distinct, h.resolved⟩
  | deleteNote id =>
      obtain ⟨_, deleted, _⟩ := Edit.showing_eq_ok_iff.mp done
      obtain ⟨_, rfl⟩ := Shelf.delete_eq_ok_iff.mp deleted
      exact ⟨h.distinct, h.resolved⟩
  | reorderNote id target =>
      obtain ⟨_, rfl⟩ := Shelf.reorder_eq_ok_iff.mp (Edit.presenting_eq_ok_iff.mp done).1
      exact ⟨h.distinct, h.resolved⟩
  | addArea area =>
      obtain ⟨_, rfl⟩ := Shelf.add_eq_ok_iff.mp (Edit.presenting_eq_ok_iff.mp done).1
      exact ⟨h.distinct, h.resolved⟩
  | updateArea id patch =>
      obtain ⟨_, updated, _⟩ := Edit.showing_eq_ok_iff.mp done
      obtain ⟨_, _, rfl, _⟩ := Shelf.update_eq_ok_iff.mp updated
      exact ⟨h.distinct, h.resolved⟩
  | deleteArea id =>
      obtain ⟨_, deleted, _⟩ := Edit.showing_eq_ok_iff.mp done
      obtain ⟨_, rfl⟩ := Shelf.delete_eq_ok_iff.mp deleted
      exact ⟨h.distinct, h.resolved⟩
  | reorderArea id target =>
      obtain ⟨_, rfl⟩ := Shelf.reorder_eq_ok_iff.mp (Edit.presenting_eq_ok_iff.mp done).1
      exact ⟨h.distinct, h.resolved⟩

/-- Moving something on the canvas changes no id. -/
theorem move (h : diagram.Consistent) {kind : Movable} {id : String} {position : Position}
    (done : diagram.move kind id position = .ok next) : next.Consistent := by
  cases kind with
  | table =>
      obtain ⟨⟨_, _⟩, moved, rfl⟩ := map_eq_ok_iff.mp done
      obtain ⟨_, _, rfl, _⟩ := Shelf.update_eq_ok_iff.mp moved
      exact h.replaceTable (fun _ => True) (fun table _ => ⟨rfl, fun _ offered _ => offered⟩)
        fun r member => ⟨member, trivial, trivial⟩
  | note =>
      obtain ⟨⟨_, _⟩, moved, rfl⟩ := map_eq_ok_iff.mp done
      obtain ⟨_, _, rfl, _⟩ := Shelf.update_eq_ok_iff.mp moved
      exact ⟨h.distinct, h.resolved⟩
  | area =>
      obtain ⟨⟨_, _⟩, moved, rfl⟩ := map_eq_ok_iff.mp done
      obtain ⟨_, _, rfl, _⟩ := Shelf.update_eq_ok_iff.mp moved
      exact ⟨h.distinct, h.resolved⟩

end Consistent

end Diagram

/-- A command keeps consistency unless it loads a diagram without it. -/
theorem Command.keeps_consistent {command : Command}
    (loads : ∀ loaded, command = .load loaded → loaded.Consistent) :
    command.Keeps Diagram.Consistent := by
  cases command with
  | edit edit => exact fun diagram next shown h done => h.apply done
  | move kind id position => exact fun diagram next h done => h.move done
  | undo => trivial
  | redo => trivial
  | load loaded => exact loads loaded rfl

namespace Session

/-- A session that starts on a consistent diagram, and loads none but consistent ones, holds
consistent diagrams only: live, to be undone and to be redone, whatever its commands are and
whether or not they succeed. -/
theorem consistent_everywhere {diagram : Diagram} (h : diagram.Consistent) (limit : Nat)
    (commands : List Command)
    (loads : ∀ loaded, Command.load loaded ∈ commands → loaded.Consistent) :
    ((start diagram limit).run commands).Everywhere Diagram.Consistent := by
  refine (Everywhere.start h limit).run ?_
  intro command member
  exact Command.keeps_consistent fun loaded same => loads loaded (same ▸ member)

/-- Orders are moved in front of users, users go with the relationship on them and come back, and
the diagram is loaded again after a refused edit. -/
theorem consistent_everywhere_demo :
    let demo := Diagram.demo .sqlite fun n => String.singleton (Char.ofNat (0x61 + n))
    let commands : List Command := [.edit (.reorderTable "d" 0), .edit (.deleteTable "a"), .undo,
      .edit (.deleteField "d" "f"), .edit (.deleteTable "z"), .load demo, .redo]
    demo.Consistent ∧ Command.load demo ∈ commands ∧
      ((start demo 2).run commands).Everywhere Diagram.Consistent := by
  intro demo commands
  have consistent : demo.Consistent := ⟨by decide, by decide⟩
  refine ⟨consistent, by simp [commands], consistent_everywhere consistent 2 commands ?_⟩
  intro loaded member
  obtain rfl : loaded = demo := by simpa [commands] using member
  exact consistent

end Session

end EntityDiagram
