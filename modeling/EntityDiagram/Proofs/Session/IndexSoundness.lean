import EntityDiagram.Proofs.Session.Run

/-!
# Indexes keep their columns

An index names its columns, and several fields may share a name. It is sound if it has a column and
every name is that of some field of its table. A field that gets another name or goes takes its old
name out of the indexes only if no other field has it, and what remains has no name without a field.
The main statement says of every run of a session that, unless a command brings in indexes itself,
all diagrams stay sound: live, to be undone and to be redone.
-/

namespace EntityDiagram

namespace Table

/-- Every index of the table has a column, and each of its columns is there. -/
structure IndexSound (table : Table) : Prop where
  filled : ∀ index ∈ table.indexes, index.fields ≠ []
  carried : ∀ index ∈ table.indexes, ∀ column ∈ index.fields,
    ∃ field ∈ table.fields, field.name = column

instance (table : Table) : Decidable table.IndexSound :=
  decidable_of_iff
    ((∀ index ∈ table.indexes, index.fields ≠ []) ∧
      ∀ index ∈ table.indexes, ∀ column ∈ index.fields, ∃ field ∈ table.fields,
        field.name = column)
    ⟨fun h => ⟨h.1, h.2⟩, fun h => ⟨h.filled, h.carried⟩⟩

namespace IndexSound

variable {table next : Table}

/-- Other fields, under which every column name that was carried still is, and fewer indexes. -/
theorem mono (h : table.IndexSound)
    (indexes : ∀ index ∈ next.indexes, index ∈ table.indexes)
    (names : ∀ field ∈ table.fields, ∃ kept ∈ next.fields, kept.name = field.name) :
    next.IndexSound where
  filled index member := h.filled index (indexes index member)
  carried := by
    intro index member column listed
    obtain ⟨field, inside, rfl⟩ := h.carried index (indexes index member) column listed
    exact names field inside

/-- Fewer indexes on the same fields. -/
theorem withIndexes (h : table.IndexSound) {indexes : List Index}
    (fewer : ∀ index ∈ indexes, index ∈ table.indexes) :
    ({ table with indexes } : Table).IndexSound :=
  h.mono fewer fun field inside => ⟨field, inside, rfl⟩

/-- More fields under the same indexes. -/
theorem withFields (h : table.IndexSound) {fields : List Field}
    (more : ∀ field ∈ table.fields, field ∈ fields) :
    ({ table with fields } : Table).IndexSound :=
  h.mono (fun _ member => member) fun field inside => ⟨field, more field inside, rfl⟩

/-- Other fields under the same indexes, where at most one name is no longer carried: the indexes
are sound again once the name is replaced by one that is carried. -/
theorem renameColumn (h : table.IndexSound) {fields : List Field} {old new : String}
    (names : ∀ field ∈ table.fields, field.name ≠ old →
      ∃ kept ∈ fields, kept.name = field.name)
    (carrier : ∃ kept ∈ fields, kept.name = new) :
    (({ table with fields } : Table).renameColumn old new).IndexSound := by
  unfold Table.renameColumn
  split
  · next unchanged =>
    -- The old name is still carried: it is the new one, or another field has it.
    have still : ∃ kept ∈ fields, kept.name = old := by
      rcases Bool.or_eq_true_iff.mp unchanged with same | other
      · rwa [beq_iff_eq.mp same] at carrier
      · exact hasFieldNamed_iff.mp other
    refine h.mono (fun _ member => member) fun field inside => ?_
    by_cases same : field.name = old
    · exact same ▸ still
    · exact names field inside same
  · refine ⟨?_, ?_⟩
    · intro index member
      obtain ⟨before, listed, rfl⟩ := List.mem_map.mp member
      simpa using h.filled before listed
    · intro index member column named
      obtain ⟨before, listed, rfl⟩ := List.mem_map.mp member
      obtain ⟨name, was, rfl⟩ := List.mem_map.mp named
      obtain ⟨field, inside, rfl⟩ := h.carried before listed name was
      by_cases same : field.name = old
      · simpa [same] using carrier
      · simpa [same] using names field inside same

/-- Other fields under the same indexes, where at most one name is no longer carried: the indexes
are sound again once the name is taken out of them. -/
theorem forgetColumn (h : table.IndexSound) {fields : List Field} {name : String}
    (names : ∀ field ∈ table.fields, field.name ≠ name →
      ∃ kept ∈ fields, kept.name = field.name) :
    (({ table with fields } : Table).forgetColumn name).IndexSound := by
  unfold Table.forgetColumn
  split
  · next still =>
    refine h.mono (fun _ member => member) fun field inside => ?_
    by_cases same : field.name = name
    · exact same ▸ hasFieldNamed_iff.mp still
    · exact names field inside same
  · refine ⟨?_, ?_⟩
    · intro index member
      simpa using (List.mem_filter.mp member).2
    · intro index member column named
      obtain ⟨before, listed, rfl⟩ := List.mem_map.mp (List.mem_filter.mp member).1
      obtain ⟨was, other⟩ := List.mem_filter.mp named
      obtain ⟨field, inside, rfl⟩ := h.carried before listed column was
      exact names field inside (by simpa using other)

/-- A change of a field leaves its name to another field, or takes the indexes along. -/
theorem updateField (h : table.IndexSound) {id : String} {patch : FieldPatch} {field : Field}
    (done : table.updateField id patch = .ok (next, field)) : next.IndexSound := by
  obtain ⟨old, found, rfl, rfl⟩ := updateField_eq_ok_iff.mp done
  refine h.renameColumn ?_ ⟨_, Keyed.mem_update_self found, rfl⟩
  intro field inside other
  rcases Keyed.mem_update_or_find? inside with kept | changed
  · exact ⟨field, kept, rfl⟩
  · obtain rfl : old = field := Option.some.inj (found.symm.trans changed)
    exact absurd rfl other

/-- A field that goes leaves its name to another field, or takes it out of the indexes. -/
theorem deleteField (h : table.IndexSound) {id : String} {field : Field}
    (done : table.deleteField id = .ok (next, field)) : next.IndexSound := by
  obtain ⟨found, rfl⟩ := deleteField_eq_ok_iff.mp done
  refine h.forgetColumn ?_
  intro kept inside other
  rcases Keyed.mem_erase_or_find? inside with still | removed
  · exact ⟨kept, still, rfl⟩
  · obtain rfl : field = kept := Option.some.inj (found.symm.trans removed)
    exact absurd rfl other

end IndexSound

end Table

/-- Whether an edit brings indexes along that nobody has looked at. -/
def Edit.bringsIndexes : Edit → Bool
  | .addTable _ => true
  | .addIndex .. => true
  | .updateIndex .. => true
  | _ => false

/-- Whether a command brings indexes along that nobody has looked at. -/
def Command.bringsIndexes : Command → Bool
  | .edit change => change.bringsIndexes
  | .load _ => true
  | _ => false

namespace Diagram

/-- The indexes of every table are sound. -/
def IndexSound (diagram : Diagram) : Prop := ∀ table ∈ diagram.tables, table.IndexSound

instance (diagram : Diagram) : Decidable diagram.IndexSound :=
  inferInstanceAs (Decidable (∀ table ∈ diagram.tables, table.IndexSound))

namespace IndexSound

variable {diagram next : Diagram}

/-- A change inside a table that keeps its indexes sound. -/
theorem inTable (h : diagram.IndexSound) {β : Type} {tableId : String}
    {change : Table → Except EditError (Table × β)} {b : β}
    (sound : ∀ table changed b, table.IndexSound → change table = .ok (changed, b) →
      changed.IndexSound)
    (done : diagram.inTable tableId change = .ok (next, b)) : next.IndexSound := by
  obtain ⟨table, changed, found, inside, rfl⟩ := inTable_eq_ok_iff.mp done
  intro other member
  rcases Keyed.mem_update member with old | ⟨_, _, rfl⟩
  · exact h other old
  · exact sound table _ b (h table (Keyed.mem_of_find?_eq_some found)) inside

/-- A change of a table in anything but its fields and indexes. -/
theorem updateTable (h : diagram.IndexSound) {id : String} {f : Table → Table} {table : Table}
    (done : tableShelf.update id f diagram = .ok (next, table))
    (fields : ∀ table, (f table).fields = table.fields)
    (indexes : ∀ table, (f table).indexes = table.indexes) : next.IndexSound := by
  obtain ⟨_, _, rfl, _⟩ := Shelf.update_eq_ok_iff.mp done
  intro other member
  rcases Keyed.mem_update member with old | ⟨before, found, rfl⟩
  · exact h other old
  · refine (h before (Keyed.mem_of_find?_eq_some found)).mono ?_ ?_
    · intro index listed
      rwa [indexes] at listed
    · intro field inside
      exact ⟨field, by rwa [fields], rfl⟩

/-- Every edit leaves indexes sound unless it brings in some of its own. -/
theorem apply (h : diagram.IndexSound) {edit : Edit} {shown : Member}
    (looked : edit.bringsIndexes = false) (done : edit.apply diagram = .ok (next, shown)) :
    next.IndexSound := by
  cases edit with
  | addTable table => cases looked
  | updateTable id patch =>
      obtain ⟨_, updated, _⟩ := Edit.showing_eq_ok_iff.mp done
      exact h.updateTable updated (fun _ => rfl) fun _ => rfl
  | deleteTable id =>
      obtain ⟨_, deleted, _⟩ := Edit.showing_eq_ok_iff.mp done
      obtain ⟨_, rfl⟩ := deleteTable_eq_ok_iff.mp deleted
      exact fun table member => h table ((Keyed.erase_sublist diagram.tables id).mem member)
  | reorderTable id target =>
      obtain ⟨_, rfl⟩ := Shelf.reorder_eq_ok_iff.mp (Edit.presenting_eq_ok_iff.mp done).1
      have perm := Keyed.reorder_perm diagram.tables id target
      exact fun table member => h table (perm.mem_iff.mp member)
  | addField tableId field =>
      refine h.inTable ?_ done
      intro table changed b sound added
      obtain ⟨_, rfl⟩ := Shelf.add_eq_ok_iff.mp (Edit.presenting_eq_ok_iff.mp added).1
      exact sound.withFields fun field inside => List.mem_append_left _ inside
  | updateField tableId id patch =>
      refine h.inTable ?_ done
      intro table changed b sound inside
      obtain ⟨_, updated, _⟩ := Edit.showing_eq_ok_iff.mp inside
      exact sound.updateField updated
  | setFieldDefault tableId id raw =>
      refine h.inTable ?_ done
      intro table changed b sound inside
      obtain ⟨_, updated, _⟩ := Edit.showing_eq_ok_iff.mp inside
      exact sound.updateField updated
  | deleteField tableId id =>
      obtain ⟨_, deleted, _⟩ := Edit.showing_eq_ok_iff.mp done
      obtain ⟨rest, inside, rfl⟩ := deleteField_eq_ok_iff.mp deleted
      have sound : rest.IndexSound :=
        h.inTable (fun table changed b sound removed => sound.deleteField removed) inside
      exact sound
  | reorderField tableId id target =>
      refine h.inTable ?_ done
      intro table changed b sound moved
      obtain ⟨_, rfl⟩ := Shelf.reorder_eq_ok_iff.mp (Edit.presenting_eq_ok_iff.mp moved).1
      have perm := Keyed.reorder_perm table.fields id target
      exact sound.withFields fun field inside => perm.mem_iff.mpr inside
  | addIndex tableId index => cases looked
  | updateIndex tableId id patch => cases looked
  | deleteIndex tableId id =>
      refine h.inTable ?_ done
      intro table changed b sound inside
      obtain ⟨_, deleted, _⟩ := Edit.showing_eq_ok_iff.mp inside
      obtain ⟨_, rfl⟩ := Shelf.delete_eq_ok_iff.mp deleted
      exact sound.withIndexes fun index kept => (Keyed.erase_sublist table.indexes id).mem kept
  | reorderIndex tableId id target =>
      refine h.inTable ?_ done
      intro table changed b sound moved
      obtain ⟨_, rfl⟩ := Shelf.reorder_eq_ok_iff.mp (Edit.presenting_eq_ok_iff.mp moved).1
      have perm := Keyed.reorder_perm table.indexes id target
      exact sound.withIndexes fun index listed => perm.mem_iff.mp listed
  | _ =>
      rw [IndexSound, Edit.tables_of_apply rfl done]
      exact h

theorem move (h : diagram.IndexSound) {kind : Movable} {id : String} {position : Position}
    (done : diagram.move kind id position = .ok next) : next.IndexSound := by
  cases kind with
  | table =>
      obtain ⟨⟨_, _⟩, moved, rfl⟩ := map_eq_ok_iff.mp done
      exact h.updateTable moved (fun _ => rfl) fun _ => rfl
  | note =>
      obtain ⟨⟨_, _⟩, moved, rfl⟩ := map_eq_ok_iff.mp done
      obtain ⟨_, _, rfl, _⟩ := Shelf.update_eq_ok_iff.mp moved
      exact h
  | area =>
      obtain ⟨⟨_, _⟩, moved, rfl⟩ := map_eq_ok_iff.mp done
      obtain ⟨_, _, rfl, _⟩ := Shelf.update_eq_ok_iff.mp moved
      exact h

end IndexSound

end Diagram

/-- A command keeps indexes sound unless it brings in some of its own. -/
theorem Command.keeps_indexSound {command : Command} (looked : command.bringsIndexes = false) :
    command.Keeps Diagram.IndexSound := by
  cases command with
  | edit edit => exact fun diagram next shown h done => h.apply looked done
  | move kind id position => exact fun diagram next h done => h.move done
  | undo => trivial
  | redo => trivial
  | load loaded => cases looked

namespace Session

/-- From any session whose diagrams all have sound indexes, whatever can be undone or redone in it,
no run of commands leads to an index without columns or to a column without a field, unless a
command brings in indexes of its own. -/
theorem indexSound_everywhere {session : Session} (h : session.Everywhere Diagram.IndexSound)
    (commands : List Command) (looked : ∀ command ∈ commands, command.bringsIndexes = false) :
    (session.run commands).Everywhere Diagram.IndexSound :=
  h.run fun command member => Command.keeps_indexSound (looked command member)

/-- Two fields have the name that an index lists twice. One is called otherwise and the index stays;
the other goes and takes the index along. That is undone, the other is called otherwise instead, and
the index follows. Two steps are then taken back and one of them forth. -/
theorem indexSound_everywhere_twins :
    let field (id : String) : Field := { id, name := "email", dataType := "TEXT" }
    let users : Table := {
      id := "t", name := "users", fields := [field "a", field "b"]
      indexes := [{ id := "i", fields := ["email", "email"] }] }
    let session := start { tables := [users] } 5
    let commands : List Command := [.edit (.updateField "t" "a" (.rename "mail")),
      .edit (.deleteField "t" "b"), .undo, .edit (.deleteTable "u"),
      .edit (.updateField "t" "b" (.rename "post")), .undo, .undo, .redo]
    session.Everywhere Diagram.IndexSound ∧
      (∀ command ∈ commands, command.bringsIndexes = false) ∧
      (session.run commands).Everywhere Diagram.IndexSound := by
  intro field users session commands
  have sound : session.Everywhere Diagram.IndexSound := .start (by decide) 5
  have looked : ∀ command ∈ commands, command.bringsIndexes = false := by decide
  exact ⟨sound, looked, indexSound_everywhere sound commands looked⟩

end Session

end EntityDiagram
