import EntityDiagram.Proofs.Ddl.Placement
import EntityDiagram.Proofs.Issue

/-!
# The SQL of accepted diagrams

Writing SQL skips what cannot be written: relationships without one of their sides, unknown columns
of indexes, indexes without a column. An accepted diagram has none of these, so that all of it is
written.
-/

namespace EntityDiagram

open Ddl

/-- The definition of an index with all of its columns. -/
def Table.fullIndexDefinition (table : Table) (index : Index) : IndexDefinition :=
  { table, index, name := table.indexName index, columns := index.fields }

theorem Table.Sound.indexDefinitions_eq {table : Table} (sound : table.Sound) :
    table.indexDefinitions = table.indexes.map table.fullIndexDefinition := by
  rw [indexDefinitions, ← List.filterMap_eq_map]
  refine List.filterMap_congr fun index listed => ?_
  obtain ⟨some_column, known⟩ := sound.columns index listed
  obtain ⟨column, member⟩ := List.exists_mem_of_ne_nil _ some_column
  have all : table.columnsOf index = index.fields := List.filter_eq_self.mpr known
  refine indexDefinition?_eq_some_iff.mpr ⟨⟨column, member, known column member⟩, ?_⟩
  rw [fullIndexDefinition, all]

namespace Diagram

variable {diagram : Diagram}

/-- Every relationship of a sound diagram has its foreign key. -/
theorem Sound.exists_foreignKey (sound : diagram.Sound) {relationship : Relationship}
    (listed : relationship ∈ diagram.relationships) :
    ∃ key, diagram.foreignKey? relationship = some key := by
  obtain ⟨start, target⟩ := sound.relationships relationship listed
  rw [← Option.isSome_iff_exists, foreignKey?_isSome, start, target]
  rfl

theorem Sound.map_foreignKey? (sound : diagram.Sound) :
    (diagram.relationships.filterMap diagram.foreignKey?).map some =
      diagram.relationships.map diagram.foreignKey? := by
  rw [List.map_filterMap, ← List.filterMap_eq_map]
  refine List.filterMap_congr fun relationship listed => ?_
  obtain ⟨key, found⟩ := sound.exists_foreignKey listed
  rw [Function.comp_apply, found, Option.map_some]

/-- An accepted diagram loses nothing when it is written: every table has its columns, every index
is written once with all of its columns, every relationship once as a foreign key, and no two
names of tables, of columns in a table, or of indexes are equal but for case. -/
theorem accepted_written_in_full (diagram : Diagram) (dialect : Dialect) (options : Options)
    (distinct : (diagram.tables.map Table.id).Nodup)
    (accepted : diagram.Accepted dialect.config) :
    ∃ placement : Placement,
      diagram.Places (dialect.target options) placement ∧
      (∀ table ∈ diagram.tables, table.fields ≠ [] ∧
        (table.fields.map fun field => Text.lower field.name).Nodup) ∧
      (diagram.tables.map fun table => Text.lower table.name).Nodup ∧
      placement.allIndexes diagram.tables =
        diagram.tables.flatMap (fun table => table.indexes.map table.fullIndexDefinition) ∧
      ((placement.allIndexes diagram.tables).map fun index => Text.lower index.name).Nodup ∧
      ∃ keys, (placement.allKeys diagram.tables).Perm keys ∧
        keys.map some = diagram.relationships.map diagram.foreignKey? := by
  have sound := accepted.sound
  have places := places_placement distinct (dialect.target options)
  have indexes := places.indexes.trans
    (List.flatMap_congr fun table listed => (sound.tables table listed).indexDefinitions_eq)
  refine ⟨_, places, fun table listed => ?_, sound.tableNames_nodup, indexes, ?_,
    _, places.keys, sound.map_foreignKey?⟩
  · exact ⟨(sound.tables table listed).fields, (sound.tables table listed).fieldNames_nodup⟩
  · rw [indexes, List.map_flatMap]
    simp only [List.map_map]
    exact sound.indexNames_nodup

/-- Orders that refer to users, with a unique index: MySQL accepts the diagram. -/
theorem accepted_written_in_full_orders :
    let field (id name : String) : Field := { id, name, dataType := "INT" }
    let users : Table := { id := "u", name := "users", fields := [field "a" "id"] }
    let orders : Table := {
      id := "o", name := "orders", fields := [field "b" "id", field "c" "user_id"]
      indexes := [{ id := "i", unique := true, fields := ["user_id", "id"] }] }
    let diagram : Diagram := {
      tables := [users, orders], relationships := [.between "r" ⟨"o", "c"⟩ ⟨"u", "a"⟩] }
    (diagram.tables.map Table.id).Nodup ∧ diagram.Accepted Dialect.mysql.config ∧
      ∃ placement : Placement,
        diagram.Places (Dialect.mysql.target {}) placement ∧
        (placement.allIndexes diagram.tables).map (fun index => (index.name, index.columns)) =
          [("orders_user_id_id_index", ["user_id", "id"])] ∧
        (placement.allKeys diagram.tables).map ForeignKey.name = ["fk_orders_user_id_users"] := by
  intro field users orders diagram
  have distinct : (diagram.tables.map Table.id).Nodup := by decide
  have accepted : diagram.Accepted Dialect.mysql.config := by decide +kernel
  obtain ⟨placement, places, -, -, indexes, -, keys, same, each⟩ :=
    accepted_written_in_full diagram .mysql {} distinct accepted
  refine ⟨distinct, accepted, placement, places, ?_, ?_⟩
  · rw [indexes]
    decide +kernel
  · have named : (keys.map ForeignKey.name).map some =
        ["fk_orders_user_id_users"].map some := by
      calc (keys.map ForeignKey.name).map some
          = (keys.map some).map (Option.map ForeignKey.name) := by simp
        _ = ["fk_orders_user_id_users"].map some := by
            rw [each]
            decide +kernel
    rw [← List.perm_singleton, ← List.map_injective_iff.mpr (fun _ _ => Option.some.inj) named]
    exact same.map ForeignKey.name

end Diagram

end EntityDiagram
