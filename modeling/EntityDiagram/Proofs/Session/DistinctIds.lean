import EntityDiagram.Proofs.Session.Run

/-!
# Ids stay distinct

Whatever is looked up by an id is the first member that has it, so ids should be distinct: those of
the tables, relationships, notes and areas of a diagram, and within each table those of its fields
and of its indexes. Each of these six collections is changed in four ways only, and each way keeps
distinct ids distinct, because a member is added only if its id is new. A table, however, is added
with all that is in it, and only its own id is looked at. The main statement says that this is the
one gap: a run that adds no table with doubled ids inside keeps all ids distinct everywhere, and a
command that succeeds after it breaks this exactly if it brings doubled ids along itself.
-/

namespace EntityDiagram

namespace Shelf

variable {σ α : Type} [Keyed α] {shelf : Shelf σ α} {whole next : σ} {id : String}

/-- A whole with other members on a shelf, whose ids are distinct if they were so before. -/
def KeepsIds (shelf : Shelf σ α) (whole next : σ) : Prop :=
  ∃ items, next = shelf.withItems whole items ∧
    (((shelf.items whole).map Keyed.key).Nodup → (items.map Keyed.key).Nodup)

theorem keepsIds_add {a : α} (done : shelf.add a whole = .ok next) :
    shelf.KeepsIds whole next := by
  obtain ⟨fresh, rfl⟩ := add_eq_ok_iff.mp done
  exact ⟨_, rfl, fun distinct => Keyed.nodup_map_key_append distinct fresh⟩

theorem keepsIds_update {f : α → α} {a : α} (same : ∀ a, Keyed.key (f a) = Keyed.key a)
    (done : shelf.update id f whole = .ok (next, a)) : shelf.KeepsIds whole next := by
  obtain ⟨_, _, rfl, _⟩ := update_eq_ok_iff.mp done
  refine ⟨_, rfl, fun distinct => ?_⟩
  rwa [Keyed.map_key_update same]

theorem keepsIds_delete {a : α} (done : shelf.delete id whole = .ok (next, a)) :
    shelf.KeepsIds whole next := by
  obtain ⟨_, rfl⟩ := delete_eq_ok_iff.mp done
  exact ⟨_, rfl, fun distinct => Keyed.nodup_map_key_erase distinct id⟩

theorem keepsIds_reorder {target : Nat} (done : shelf.reorder id target whole = .ok next) :
    shelf.KeepsIds whole next := by
  obtain ⟨_, rfl⟩ := reorder_eq_ok_iff.mp done
  exact ⟨_, rfl, fun distinct => Keyed.nodup_map_key_reorder distinct id target⟩

end Shelf

namespace Table

/-- No two fields and no two indexes of the table have the same id. -/
structure DistinctIds (table : Table) : Prop where
  fields : (table.fields.map Field.id).Nodup
  indexes : (table.indexes.map Index.id).Nodup

instance (table : Table) : Decidable table.DistinctIds :=
  decidable_of_iff ((table.fields.map Field.id).Nodup ∧ (table.indexes.map Index.id).Nodup)
    ⟨fun h => ⟨h.1, h.2⟩, fun h => ⟨h.fields, h.indexes⟩⟩

/-- A table that stands in the place of another, with ids as distinct inside as they were. -/
structure KeepsIds (table next : Table) : Prop where
  id : next.id = table.id
  inside : table.DistinctIds → next.DistinctIds

variable {table next : Table} {id : String} {field : Field}

theorem keepsIds_of_fieldShelf (kept : table.fieldShelf.KeepsIds table next) :
    table.KeepsIds next := by
  obtain ⟨fields, rfl, distinct⟩ := kept
  exact ⟨rfl, fun h => ⟨distinct h.fields, h.indexes⟩⟩

theorem keepsIds_of_indexShelf (kept : table.indexShelf.KeepsIds table next) :
    table.KeepsIds next := by
  obtain ⟨indexes, rfl, distinct⟩ := kept
  exact ⟨rfl, fun h => ⟨h.fields, distinct h.indexes⟩⟩

theorem keepsIds_renameColumn (table : Table) (old new : String) :
    table.KeepsIds (table.renameColumn old new) := by
  unfold renameColumn
  split
  · exact ⟨rfl, fun h => h⟩
  · refine ⟨rfl, fun h => ⟨h.fields, ?_⟩⟩
    rw [List.map_map]
    exact h.indexes

/-- Some indexes may go with the last of their columns. -/
theorem keepsIds_forgetColumn (table : Table) (name : String) :
    table.KeepsIds (table.forgetColumn name) := by
  unfold forgetColumn
  split
  · exact ⟨rfl, fun h => h⟩
  · refine ⟨rfl, fun h => ⟨h.fields, ?_⟩⟩
    refine List.Nodup.sublist (List.filter_sublist.map Index.id) ?_
    rw [List.map_map]
    exact h.indexes

theorem KeepsIds.trans {first second third : Table} (one : first.KeepsIds second)
    (two : second.KeepsIds third) : first.KeepsIds third :=
  ⟨two.id.trans one.id, fun h => two.inside (one.inside h)⟩

theorem keepsIds_updateField {patch : FieldPatch}
    (done : table.updateField id patch = .ok (next, field)) : table.KeepsIds next := by
  obtain ⟨old, _, rfl, rfl⟩ := updateField_eq_ok_iff.mp done
  have changed : table.KeepsIds { table with fields := Keyed.update patch.apply id table.fields } :=
    ⟨rfl, fun h => ⟨(Keyed.map_key_update patch.id_apply id table.fields).symm ▸ h.fields,
      h.indexes⟩⟩
  exact changed.trans (keepsIds_renameColumn _ _ _)

theorem keepsIds_deleteField (done : table.deleteField id = .ok (next, field)) :
    table.KeepsIds next := by
  obtain ⟨_, rfl⟩ := deleteField_eq_ok_iff.mp done
  have erased : table.KeepsIds { table with fields := Keyed.erase table.fields id } :=
    ⟨rfl, fun h => ⟨Keyed.nodup_map_key_erase h.fields id, h.indexes⟩⟩
  exact erased.trans (keepsIds_forgetColumn _ _)

end Table

namespace Diagram

/-- No two members of a collection of the diagram have the same id. -/
structure DistinctIds (diagram : Diagram) : Prop where
  tables : (diagram.tables.map Table.id).Nodup
  relationships : (diagram.relationships.map Relationship.id).Nodup
  notes : (diagram.notes.map Note.id).Nodup
  areas : (diagram.areas.map Area.id).Nodup
  inside : ∀ table ∈ diagram.tables, table.DistinctIds

instance (diagram : Diagram) : Decidable diagram.DistinctIds :=
  decidable_of_iff
    ((diagram.tables.map Table.id).Nodup ∧ (diagram.relationships.map Relationship.id).Nodup ∧
      (diagram.notes.map Note.id).Nodup ∧ (diagram.areas.map Area.id).Nodup ∧
      ∀ table ∈ diagram.tables, table.DistinctIds)
    ⟨fun ⟨tables, relationships, notes, areas, inside⟩ =>
      ⟨tables, relationships, notes, areas, inside⟩,
      fun h => ⟨h.tables, h.relationships, h.notes, h.areas, h.inside⟩⟩

end Diagram

/-- Whether a new table has distinct ids inside; the other edits bring at most one id along. -/
def Edit.BringsDistinctIds : Edit → Prop
  | .addTable table => table.DistinctIds
  | _ => True

/-- Whether whatever a command brings along has distinct ids in itself. -/
def Command.BringsDistinctIds : Command → Prop
  | .edit change => change.BringsDistinctIds
  | .load diagram => diagram.DistinctIds
  | _ => True

namespace Diagram.DistinctIds

variable {diagram next : Diagram}

theorem ofRelationships (h : diagram.DistinctIds)
    (kept : relationshipShelf.KeepsIds diagram next) : next.DistinctIds := by
  obtain ⟨relationships, rfl, distinct⟩ := kept
  exact ⟨h.tables, distinct h.relationships, h.notes, h.areas, h.inside⟩

theorem ofNotes (h : diagram.DistinctIds) (kept : noteShelf.KeepsIds diagram next) :
    next.DistinctIds := by
  obtain ⟨notes, rfl, distinct⟩ := kept
  exact ⟨h.tables, h.relationships, distinct h.notes, h.areas, h.inside⟩

theorem ofAreas (h : diagram.DistinctIds) (kept : areaShelf.KeepsIds diagram next) :
    next.DistinctIds := by
  obtain ⟨areas, rfl, distinct⟩ := kept
  exact ⟨h.tables, h.relationships, h.notes, distinct h.areas, h.inside⟩

/-- Of other tables it is also asked what is inside. -/
theorem ofTables (h : diagram.DistinctIds) (kept : tableShelf.KeepsIds diagram next)
    (inside : ∀ table ∈ next.tables, table.DistinctIds) : next.DistinctIds := by
  obtain ⟨tables, rfl, distinct⟩ := kept
  exact ⟨distinct h.tables, h.relationships, h.notes, h.areas, inside⟩

/-- Fewer relationships. -/
theorem filterRelationships (h : diagram.DistinctIds) (keep : Relationship → Bool) :
    ({ diagram with relationships := diagram.relationships.filter keep } : Diagram).DistinctIds :=
  ⟨h.tables, h.relationships.sublist (List.filter_sublist.map _), h.notes, h.areas, h.inside⟩

/-- A change of a table in its place. -/
theorem replaceTable (h : diagram.DistinctIds) {id : String} {f : Table → Table}
    (kept : ∀ table, diagram.table? id = some table → table.KeepsIds (f table)) :
    ({ diagram with tables := Keyed.update f id diagram.tables } : Diagram).DistinctIds := by
  refine ⟨?_, h.relationships, h.notes, h.areas, ?_⟩
  · rw [Keyed.map_update_of_find? fun table found => (kept table found).id]
    exact h.tables
  · intro table member
    rcases Keyed.mem_update member with old | ⟨before, found, rfl⟩
    · exact h.inside table old
    · exact (kept before found).inside (h.inside before (Keyed.mem_of_find?_eq_some found))

/-- A change of something inside a table. -/
theorem inTable (h : diagram.DistinctIds) {β : Type} {tableId : String}
    {change : Table → Except EditError (Table × β)} {b : β}
    (kept : ∀ table changed b, change table = .ok (changed, b) → table.KeepsIds changed)
    (done : diagram.inTable tableId change = .ok (next, b)) : next.DistinctIds := by
  obtain ⟨table, changed, found, inside, rfl⟩ := inTable_eq_ok_iff.mp done
  refine h.replaceTable fun other again => ?_
  obtain rfl : table = other := Option.some.inj (found.symm.trans again)
  exact kept table changed b inside

/-- An edit that succeeds keeps ids distinct if it brings distinct ids along. -/
theorem apply (h : diagram.DistinctIds) {edit : Edit} {shown : Member}
    (brings : edit.BringsDistinctIds) (done : edit.apply diagram = .ok (next, shown)) :
    next.DistinctIds := by
  cases edit with
  | setTitle title =>
      cases done
      exact ⟨h.tables, h.relationships, h.notes, h.areas, h.inside⟩
  | setDialect dialect =>
      cases done
      exact ⟨h.tables, h.relationships, h.notes, h.areas, h.inside⟩
  | addTable table =>
      have added := (Edit.presenting_eq_ok_iff.mp done).1
      refine h.ofTables (Shelf.keepsIds_add added) ?_
      obtain ⟨_, rfl⟩ := Shelf.add_eq_ok_iff.mp added
      intro other member
      rcases List.mem_append.mp member with old | new
      · exact h.inside other old
      · exact List.mem_singleton.mp new ▸ brings
  | updateTable id patch =>
      obtain ⟨_, updated, _⟩ := Edit.showing_eq_ok_iff.mp done
      obtain ⟨_, _, rfl, _⟩ := Shelf.update_eq_ok_iff.mp updated
      exact h.replaceTable fun table _ => ⟨rfl, fun inside => ⟨inside.fields, inside.indexes⟩⟩
  | deleteTable id =>
      obtain ⟨_, deleted, _⟩ := Edit.showing_eq_ok_iff.mp done
      obtain ⟨_, rfl⟩ := deleteTable_eq_ok_iff.mp deleted
      have rest :
          ({ diagram with tables := Keyed.erase diagram.tables id } : Diagram).DistinctIds :=
        ⟨Keyed.nodup_map_key_erase h.tables id, h.relationships, h.notes, h.areas,
          fun table member => h.inside table ((Keyed.erase_sublist diagram.tables id).mem member)⟩
      exact rest.filterRelationships _
  | reorderTable id target =>
      have moved := (Edit.presenting_eq_ok_iff.mp done).1
      refine h.ofTables (Shelf.keepsIds_reorder moved) ?_
      obtain ⟨_, rfl⟩ := Shelf.reorder_eq_ok_iff.mp moved
      have perm := Keyed.reorder_perm diagram.tables id target
      exact fun table member => h.inside table (perm.mem_iff.mp member)
  | addField tableId field =>
      refine h.inTable ?_ done
      intro table changed b added
      exact Table.keepsIds_of_fieldShelf
        (Shelf.keepsIds_add (Edit.presenting_eq_ok_iff.mp added).1)
  | updateField tableId id patch =>
      refine h.inTable ?_ done
      intro table changed b inside
      obtain ⟨_, updated, _⟩ := Edit.showing_eq_ok_iff.mp inside
      exact Table.keepsIds_updateField updated
  | setFieldDefault tableId id raw =>
      refine h.inTable ?_ done
      intro table changed b inside
      obtain ⟨_, updated, _⟩ := Edit.showing_eq_ok_iff.mp inside
      exact Table.keepsIds_updateField updated
  | deleteField tableId id =>
      obtain ⟨_, deleted, _⟩ := Edit.showing_eq_ok_iff.mp done
      obtain ⟨rest, inside, rfl⟩ := deleteField_eq_ok_iff.mp deleted
      refine DistinctIds.filterRelationships (h.inTable ?_ inside) _
      exact fun table changed b removed => Table.keepsIds_deleteField removed
  | reorderField tableId id target =>
      refine h.inTable ?_ done
      intro table changed b moved
      exact Table.keepsIds_of_fieldShelf
        (Shelf.keepsIds_reorder (Edit.presenting_eq_ok_iff.mp moved).1)
  | addIndex tableId index =>
      refine h.inTable ?_ done
      intro table changed b added
      exact Table.keepsIds_of_indexShelf
        (Shelf.keepsIds_add (Edit.presenting_eq_ok_iff.mp added).1)
  | updateIndex tableId id patch =>
      refine h.inTable ?_ done
      intro table changed b inside
      obtain ⟨_, updated, _⟩ := Edit.showing_eq_ok_iff.mp inside
      exact Table.keepsIds_of_indexShelf (Shelf.keepsIds_update patch.id_apply updated)
  | deleteIndex tableId id =>
      refine h.inTable ?_ done
      intro table changed b inside
      obtain ⟨_, deleted, _⟩ := Edit.showing_eq_ok_iff.mp inside
      exact Table.keepsIds_of_indexShelf (Shelf.keepsIds_delete deleted)
  | reorderIndex tableId id target =>
      refine h.inTable ?_ done
      intro table changed b moved
      exact Table.keepsIds_of_indexShelf
        (Shelf.keepsIds_reorder (Edit.presenting_eq_ok_iff.mp moved).1)
  | addRelationship relationship =>
      obtain ⟨fresh, _, _, rfl⟩ :=
        addRelationship_eq_ok_iff.mp (Edit.presenting_eq_ok_iff.mp done).1
      exact ⟨h.tables, Keyed.nodup_map_key_append h.relationships fresh, h.notes, h.areas,
        h.inside⟩
  | updateRelationship id patch =>
      obtain ⟨_, updated, _⟩ := Edit.showing_eq_ok_iff.mp done
      exact h.ofRelationships (Shelf.keepsIds_update patch.id_apply updated)
  | deleteRelationship id =>
      obtain ⟨_, deleted, _⟩ := Edit.showing_eq_ok_iff.mp done
      exact h.ofRelationships (Shelf.keepsIds_delete deleted)
  | reorderRelationship id target =>
      exact h.ofRelationships (Shelf.keepsIds_reorder (Edit.presenting_eq_ok_iff.mp done).1)
  | addNote note =>
      exact h.ofNotes (Shelf.keepsIds_add (Edit.presenting_eq_ok_iff.mp done).1)
  | updateNote id patch =>
      obtain ⟨_, updated, _⟩ := Edit.showing_eq_ok_iff.mp done
      exact h.ofNotes (Shelf.keepsIds_update patch.id_apply updated)
  | deleteNote id =>
      obtain ⟨_, deleted, _⟩ := Edit.showing_eq_ok_iff.mp done
      exact h.ofNotes (Shelf.keepsIds_delete deleted)
  | reorderNote id target =>
      exact h.ofNotes (Shelf.keepsIds_reorder (Edit.presenting_eq_ok_iff.mp done).1)
  | addArea area =>
      exact h.ofAreas (Shelf.keepsIds_add (Edit.presenting_eq_ok_iff.mp done).1)
  | updateArea id patch =>
      obtain ⟨_, updated, _⟩ := Edit.showing_eq_ok_iff.mp done
      exact h.ofAreas (Shelf.keepsIds_update patch.id_apply updated)
  | deleteArea id =>
      obtain ⟨_, deleted, _⟩ := Edit.showing_eq_ok_iff.mp done
      exact h.ofAreas (Shelf.keepsIds_delete deleted)
  | reorderArea id target =>
      exact h.ofAreas (Shelf.keepsIds_reorder (Edit.presenting_eq_ok_iff.mp done).1)

/-- Moving something on the canvas changes no id. -/
theorem move (h : diagram.DistinctIds) {kind : Movable} {id : String} {position : Position}
    (done : diagram.move kind id position = .ok next) : next.DistinctIds := by
  cases kind with
  | table =>
      obtain ⟨⟨_, _⟩, moved, rfl⟩ := map_eq_ok_iff.mp done
      obtain ⟨_, _, rfl, _⟩ := Shelf.update_eq_ok_iff.mp moved
      exact h.replaceTable fun table _ => ⟨rfl, fun inside => ⟨inside.fields, inside.indexes⟩⟩
  | note =>
      obtain ⟨⟨_, _⟩, moved, rfl⟩ := map_eq_ok_iff.mp done
      refine h.ofNotes (Shelf.keepsIds_update ?_ moved)
      exact fun _ => rfl
  | area =>
      obtain ⟨⟨_, _⟩, moved, rfl⟩ := map_eq_ok_iff.mp done
      refine h.ofAreas (Shelf.keepsIds_update ?_ moved)
      exact fun _ => rfl

/-- A diagram in which a table was added has distinct ids only if the table has. -/
theorem of_addTable {table : Table} {shown : Member}
    (done : (Edit.addTable table).apply diagram = .ok (next, shown)) (h : next.DistinctIds) :
    table.DistinctIds := by
  obtain ⟨_, rfl⟩ := Shelf.add_eq_ok_iff.mp (Edit.presenting_eq_ok_iff.mp done).1
  exact h.inside table (List.mem_append_right _ (List.mem_singleton_self table))

end Diagram.DistinctIds

/-- A command keeps ids distinct if it brings distinct ids along. -/
theorem Command.keeps_distinctIds {command : Command} (brings : command.BringsDistinctIds) :
    command.Keeps Diagram.DistinctIds := by
  cases command with
  | edit edit => exact fun diagram next shown h done => h.apply brings done
  | move kind id position => exact fun diagram next h done => h.move done
  | undo => trivial
  | redo => trivial
  | load loaded => exact brings

namespace Session

/-- A command that succeeds and leaves ids distinct has brought distinct ids along. -/
theorem bringsDistinctIds_of_perform {session : Session} {command : Command} {answer : Answer}
    (done : (session.perform command).2 = .ok answer)
    (h : (session.perform command).1.diagram.DistinctIds) : command.BringsDistinctIds := by
  cases command with
  | edit edit =>
      simp only [perform] at done h
      split at done
      · next next shown edited =>
        rw [edited] at h
        obtain ⟨⟨diagram, member⟩, applied, same⟩ := map_eq_ok_iff.mp edited
        cases same
        cases edit with
        | addTable table => exact Diagram.DistinctIds.of_addTable applied h
        | _ => trivial
      · cases done
  | move kind id position => trivial
  | undo => trivial
  | redo => trivial
  | load loaded => exact h

/-- From any session in which all ids are distinct, in the live diagram and in whatever can be
undone or redone, no run of commands doubles an id, unless it adds a table that has doubled ids
inside or loads a diagram that has. These two are no exceptions by chance: whichever command is
performed next and succeeds, ids are distinct after it exactly if it brings distinct ids along. -/
theorem distinctIds_everywhere {session : Session} (h : session.Everywhere Diagram.DistinctIds)
    (commands : List Command) (brings : ∀ command ∈ commands, command.BringsDistinctIds) :
    (session.run commands).Everywhere Diagram.DistinctIds ∧
      ∀ command answer, ((session.run commands).perform command).2 = .ok answer →
        (((session.run commands).perform command).1.diagram.DistinctIds ↔
          command.BringsDistinctIds) := by
  have everywhere : (session.run commands).Everywhere Diagram.DistinctIds :=
    h.run fun command member => Command.keeps_distinctIds (brings command member)
  refine ⟨everywhere, fun command answer done => ⟨bringsDistinctIds_of_perform done, ?_⟩⟩
  exact fun brings => (everywhere.perform (Command.keeps_distinctIds brings)).live

/-- Ids may be the same in different collections, and in different tables. A table with a taken id
and a field with a taken id are refused, a table that went comes back by undoing and goes again by
redoing. -/
theorem distinctIds_everywhere_shop :
    let field (id : String) : Field := { id, name := id, dataType := "INT" }
    let orders : Table := { id := "a", name := "orders", fields := [field "a", field "b"] }
    let users : Table := { id := "b", name := "users", fields := [field "a"] }
    let session := start { tables := [orders] } 5
    let commands : List Command := [.edit (.addTable users), .edit (.addTable users),
      .edit (.addField "b" (field "a")), .edit (.addIndex "b" { id := "a", fields := ["a"] }),
      .edit (.addNote { id := "a" }), .edit (.deleteTable "b"), .undo, .redo, .undo]
    session.Everywhere Diagram.DistinctIds ∧
      (∀ command ∈ commands, command.BringsDistinctIds) ∧
      (session.run commands).Everywhere Diagram.DistinctIds ∧
      (session.run commands).diagram.tables.map Table.id = ["a", "b"] := by
  intro field orders users session commands
  have distinct : session.Everywhere Diagram.DistinctIds := .start (by decide) 5
  have brings : ∀ command ∈ commands, command.BringsDistinctIds := by
    have inside : users.DistinctIds := by decide
    simp [commands, Command.BringsDistinctIds, Edit.BringsDistinctIds, inside]
  exact ⟨distinct, brings, (distinctIds_everywhere distinct commands brings).1, by decide⟩

/-- A new session takes a table with two fields of one id; of the two, a change by that id reaches
the first only. -/
theorem distinctIds_broken_by_twins :
    let field (name : String) : Field := { id := "a", name, dataType := "INT" }
    let twins : Table := { id := "t", name := "twins", fields := [field "left", field "right"] }
    let session : Session := {}
    let after := session.run [.edit (.addTable twins), .edit (.deleteField "t" "a")]
    session.Everywhere Diagram.DistinctIds ∧
      ¬ (session.perform (.edit (.addTable twins))).1.diagram.DistinctIds ∧
      (after.diagram.tables.flatMap Table.fields).map Field.name = ["right"] := by
  refine ⟨.start (by decide) _, by decide, by decide⟩

end Session

end EntityDiagram
