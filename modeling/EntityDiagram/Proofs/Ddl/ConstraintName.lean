import EntityDiagram.Proofs.Ddl.Accepted

/-!
# When constraint names collide

A foreign key without a name of its own is called after its tables and its start column, and every
name is cut to the longest identifier. Issues compare the names of tables, columns and indexes, but
not those of foreign keys, so that an accepted diagram may give one name to several of them. Where
no name is cut and the made-up names can be read back, it is said here for which relationships this
happens. They can be read back, for one, where no table is called after another one with something
added to it behind or in front of an underscore.
-/

namespace EntityDiagram

open Ddl

theorem truncateIdentifier_of_length_le {name : String}
    (short : name.length ≤ maxIdentifierLength) :
    truncateIdentifier name = name := by
  apply String.toList_injective
  rw [toList_truncateIdentifier, List.take_of_length_le (by rwa [String.length_toList])]

/-! ### Made-up names -/

namespace Ddl

/-- A list is cut at one of its underscores only, if neither of the parts in front begins with the
other and an underscore. -/
theorem split_at_underscore {xs ys rest others : List Char} (left : ¬ xs ++ ['_'] <+: ys)
    (right : ¬ ys ++ ['_'] <+: xs) (same : xs ++ '_' :: rest = ys ++ '_' :: others) :
    xs = ys ∧ rest = others := by
  rcases List.append_eq_append_iff.mp same with ⟨between, rfl, behind⟩ | ⟨between, rfl, behind⟩
  · cases between with
    | nil => simpa using behind
    | cons c between =>
        obtain ⟨rfl, -⟩ := List.cons.inj behind
        exact absurd ⟨between, by simp⟩ left
  · cases between with
    | nil => simpa [eq_comm] using behind
    | cons c between =>
        obtain ⟨rfl, -⟩ := List.cons.inj behind
        exact absurd ⟨between, by simp⟩ right

/-- Neither name begins with the other one and an underscore, or ends with an underscore and the
other one. -/
structure NamesApart (name other : String) : Prop where
  front : ¬ name.toList ++ ['_'] <+: other.toList
  front' : ¬ other.toList ++ ['_'] <+: name.toList
  back : ¬ '_' :: name.toList <:+ other.toList
  back' : ¬ '_' :: other.toList <:+ name.toList

namespace ForeignKey

/-- The name of a foreign key for want of one of its own, before it is cut. -/
def madeUpName (key : ForeignKey) : String :=
  "fk_" ++ key.table.name ++ "_" ++ key.field.name ++ "_" ++ key.refTable.name

/-- Two foreign keys from columns of one name, in tables of one name, to tables of one name. -/
structure NamedAlike (key other : ForeignKey) : Prop where
  table : key.table.name = other.table.name
  field : key.field.name = other.field.name
  refTable : key.refTable.name = other.refTable.name

/-- A made-up name can be read back if the names of the tables are apart. -/
theorem namedAlike_of_madeUpName_eq {key other : ForeignKey}
    (tables : NamesApart key.table.name other.table.name)
    (refTables : NamesApart key.refTable.name other.refTable.name)
    (same : key.madeUpName = other.madeUpName) : key.NamedAlike other := by
  have underscore : "_".toList = ['_'] := rfl
  have chars := congrArg String.toList same
  simp only [madeUpName, String.toList_append, List.append_assoc, underscore,
    List.cons_append, List.nil_append] at chars
  obtain ⟨first, behind⟩ :=
    split_at_underscore tables.front tables.front' (List.append_cancel_left chars)
  -- The column may hold underscores, so that the second table is cut off from the end.
  have turned := congrArg List.reverse behind
  simp only [List.reverse_append, List.reverse_cons, List.append_assoc,
    List.singleton_append] at turned
  have reversed : ∀ {cs ds : List Char}, ¬ '_' :: cs <:+ ds →
      ¬ cs.reverse ++ ['_'] <+: ds.reverse := by
    intro cs ds apart
    rwa [← List.reverse_cons, List.reverse_prefix]
  obtain ⟨last, middle⟩ :=
    split_at_underscore (reversed refTables.back) (reversed refTables.back') turned
  exact ⟨String.toList_injective first, String.toList_injective (List.reverse_injective middle),
    String.toList_injective (List.reverse_injective last)⟩

theorem NamedAlike.madeUpName_eq {key other : ForeignKey} (alike : key.NamedAlike other) :
    key.madeUpName = other.madeUpName := by
  rw [madeUpName, madeUpName, alike.table, alike.field, alike.refTable]

end ForeignKey

end Ddl

/-- The name that a relationship has of its own, without the blanks around it; a blank one is
none. -/
def Relationship.ownName? (relationship : Relationship) : Option String :=
  match relationship.name with
  | some name => if Text.isAllBlank name then none else some (Text.trim name)
  | none => none

theorem Relationship.ownName?_eq (relationship : Relationship) :
    relationship.ownName? = Text.nonBlank? relationship.name := by
  unfold ownName?
  cases relationship.name with
  | none => rfl
  | some name => exact (Text.nonBlank?_some name).symm

/-- The name that a relationship wants for its foreign key, before it is cut. -/
def Relationship.wantedName (relationship : Relationship) (key : ForeignKey) : String :=
  relationship.ownName?.getD key.madeUpName

theorem Table.Sound.field_eq_of_name_eq {table : Table} (sound : table.Sound) {field other : Field}
    (listed : field ∈ table.fields) (listed' : other ∈ table.fields)
    (same : field.name = other.name) : field = other := by
  refine List.inj_on_of_nodup_map sound.fieldNames_nodup listed listed' ?_
  rw [same]

namespace Diagram

variable {diagram : Diagram}

/-- Different endpoints lead to different fields. -/
theorem endpoint_eq_of_resolve? {endpoint other : Endpoint} {found : Table × Field}
    (resolved : diagram.resolve? endpoint = some found)
    (resolved' : diagram.resolve? other = some found) : endpoint = other := by
  obtain ⟨table, field⟩ := resolve?_eq_some_iff.mp resolved
  obtain ⟨table', field'⟩ := resolve?_eq_some_iff.mp resolved'
  have tableId := (Keyed.key_of_find?_eq_some table).symm.trans (Keyed.key_of_find?_eq_some table')
  have fieldId := (Keyed.key_of_find?_eq_some field).symm.trans (Keyed.key_of_find?_eq_some field')
  cases endpoint
  cases other
  exact congrArg₂ Endpoint.mk tableId fieldId

theorem name_of_foreignKey? {relationship : Relationship} {key : ForeignKey}
    (defined : diagram.foreignKey? relationship = some key) :
    key.name = truncateIdentifier (relationship.wantedName key) := by
  rw [Relationship.wantedName, Relationship.ownName?_eq]
  exact (foreignKey?_eq_some_iff.mp defined).2.2.1

theorem tables_of_foreignKey? {relationship : Relationship} {key : ForeignKey}
    (defined : diagram.foreignKey? relationship = some key) :
    key.table ∈ diagram.tables ∧ key.refTable ∈ diagram.tables := by
  obtain ⟨start, target, -⟩ := foreignKey?_eq_some_iff.mp defined
  exact ⟨Keyed.mem_of_find?_eq_some (resolve?_eq_some_iff.mp start).1,
    Keyed.mem_of_find?_eq_some (resolve?_eq_some_iff.mp target).1⟩

/-- The names made up for foreign keys can be read back: where two of them are equal, so are the
names of the columns and of the tables that they are made of. This is not so for a column `id` of
`order_items` and a column `items_id` of `order` that refer to one table. -/
def NamesReadBack (diagram : Diagram) : Prop :=
  ∀ first ∈ diagram.relationships, ∀ second ∈ diagram.relationships,
    first.ownName? = none → second.ownName? = none →
      ∀ key ∈ diagram.foreignKey? first, ∀ other ∈ diagram.foreignKey? second,
        key.madeUpName = other.madeUpName → key.NamedAlike other

/-- Made-up names can be read back if the names of any two tables are apart, as all names without
underscores are. -/
theorem namesReadBack_of_namesApart
    (apart : ∀ table ∈ diagram.tables, ∀ other ∈ diagram.tables,
      NamesApart table.name other.name) : diagram.NamesReadBack := by
  intro first _ second _ _ _ key defined other defined' same
  obtain ⟨table, refTable⟩ := tables_of_foreignKey? defined
  obtain ⟨table', refTable'⟩ := tables_of_foreignKey? defined'
  exact ForeignKey.namedAlike_of_madeUpName_eq (apart _ table _ table')
    (apart _ refTable _ refTable') same

/-- Two relationships that want one name for their foreign keys: both have it as their own, or it
is made up for both since they start at one column and end at one table, or it is made up for one
and the other has it as its own. -/
def Clash (diagram : Diagram) (first second : Relationship) : Prop :=
  match first.ownName?, second.ownName? with
  | some own, some other => own = other
  | none, none => first.start = second.start ∧ first.endTableId = second.endTableId
  | some own, none => (diagram.foreignKey? second).map ForeignKey.madeUpName = some own
  | none, some own => (diagram.foreignKey? first).map ForeignKey.madeUpName = some own

namespace Sound

variable (sound : diagram.Sound)

include sound

theorem table_eq_of_name_eq {table other : Table} (listed : table ∈ diagram.tables)
    (listed' : other ∈ diagram.tables) (same : table.name = other.name) : table = other := by
  refine List.inj_on_of_nodup_map sound.tableNames_nodup listed listed' ?_
  rw [same]

/-- Foreign keys are named alike for equal start columns and equal tables referred to. -/
theorem namedAlike_iff {first second : Relationship} {key other : ForeignKey}
    (defined : diagram.foreignKey? first = some key)
    (defined' : diagram.foreignKey? second = some other) :
    key.NamedAlike other ↔
      first.start = second.start ∧ first.endTableId = second.endTableId := by
  obtain ⟨start, target, -⟩ := foreignKey?_eq_some_iff.mp defined
  obtain ⟨start', target', -⟩ := foreignKey?_eq_some_iff.mp defined'
  obtain ⟨table, field⟩ := resolve?_eq_some_iff.mp start
  obtain ⟨table', field'⟩ := resolve?_eq_some_iff.mp start'
  have refTable := (resolve?_eq_some_iff.mp target).1
  have refTable' := (resolve?_eq_some_iff.mp target').1
  obtain ⟨listed, refListed⟩ := tables_of_foreignKey? defined
  obtain ⟨listed', refListed'⟩ := tables_of_foreignKey? defined'
  constructor
  · rintro ⟨tableName, fieldName, refTableName⟩
    have sameTable := sound.table_eq_of_name_eq listed listed' tableName
    have sameRefTable := sound.table_eq_of_name_eq refListed refListed' refTableName
    rw [← sameTable] at field' start'
    have sameField := (sound.tables _ listed).field_eq_of_name_eq
      (Keyed.mem_of_find?_eq_some field) (Keyed.mem_of_find?_eq_some field') fieldName
    rw [← sameField] at start'
    rw [← sameRefTable] at refTable'
    exact ⟨endpoint_eq_of_resolve? start start',
      (Keyed.key_of_find?_eq_some refTable).symm.trans (Keyed.key_of_find?_eq_some refTable')⟩
  · rintro ⟨sameStart, sameTable⟩
    rw [sameStart, start', Option.some.injEq, Prod.mk.injEq] at start
    have refFound : diagram.table? first.endTableId = some key.refTable := refTable
    have refFound' : diagram.table? second.endTableId = some other.refTable := refTable'
    rw [sameTable, refFound', Option.some.injEq] at refFound
    exact ⟨congrArg Table.name start.1.symm, congrArg Field.name start.2.symm,
      congrArg Table.name refFound.symm⟩

/-- The names that two relationships want are equal if the relationships clash. -/
theorem wantedName_eq_iff (readable : diagram.NamesReadBack) {first second : Relationship}
    {key other : ForeignKey} (listed : first ∈ diagram.relationships)
    (listed' : second ∈ diagram.relationships) (defined : diagram.foreignKey? first = some key)
    (defined' : diagram.foreignKey? second = some other) :
    first.wantedName key = second.wantedName other ↔ diagram.Clash first second := by
  rw [Clash, Relationship.wantedName, Relationship.wantedName, defined, defined']
  cases own : first.ownName? with
  | none =>
      cases own' : second.ownName? with
      | none =>
          have back := readable first listed second listed' own own' key defined other defined'
          exact Iff.trans ⟨back, ForeignKey.NamedAlike.madeUpName_eq⟩
            (sound.namedAlike_iff defined defined')
      | some name => simp
  | some name =>
      cases second.ownName? with
      | none => simp [eq_comm]
      | some other => simp

end Sound

/-- The foreign keys of an accepted diagram have different names if and only if no two of its
relationships clash, provided that the made-up names can be read back and no name is cut. -/
theorem constraintNames_nodup_iff (diagram : Diagram) (dialect : Dialect) (options : Options)
    (distinct : (diagram.tables.map Table.id).Nodup) (accepted : diagram.Accepted dialect.config)
    (readable : diagram.NamesReadBack)
    (short : ∀ relationship ∈ diagram.relationships, ∀ key ∈ diagram.foreignKey? relationship,
      (relationship.wantedName key).length ≤ maxIdentifierLength) :
    ∃ placement : Placement,
      diagram.Places (dialect.target options) placement ∧
      (((placement.allKeys diagram.tables).map ForeignKey.name).Nodup ↔
        diagram.relationships.Pairwise fun first second => ¬ diagram.Clash first second) := by
  have sound := accepted.sound
  have places := places_placement distinct (dialect.target options)
  refine ⟨_, places, ?_⟩
  rw [(places.keys.map ForeignKey.name).nodup_iff, List.Nodup, List.pairwise_map,
    List.pairwise_filterMap]
  refine List.Pairwise.iff_of_mem fun {first second} listed listed' => ?_
  obtain ⟨key, defined⟩ := sound.exists_foreignKey listed
  obtain ⟨other, defined'⟩ := sound.exists_foreignKey listed'
  have full := truncateIdentifier_of_length_le (short first listed key defined)
  have full' := truncateIdentifier_of_length_le (short second listed' other defined')
  rw [← sound.wantedName_eq_iff readable listed listed' defined defined', ← full, ← full',
    ← name_of_foreignKey? defined, ← name_of_foreignKey? defined']
  simp [defined, defined']

/-- Items of an order, each with the product and with the one it stands in for: two columns refer
to one table, and the names of the foreign keys differ. -/
theorem constraintNames_nodup_iff_order_items :
    let field (id name : String) : Field := { id, name, dataType := "INT" }
    let items : Table := {
      id := "i", name := "order_items"
      fields := [field "a" "product_id", field "b" "replaced_product_id"] }
    let products : Table := { id := "p", name := "products", fields := [field "c" "id"] }
    let diagram : Diagram := {
      tables := [items, products]
      relationships := [.between "r" ⟨"i", "a"⟩ ⟨"p", "c"⟩, .between "s" ⟨"i", "b"⟩ ⟨"p", "c"⟩] }
    (diagram.tables.map Table.id).Nodup ∧ diagram.Accepted Dialect.sqlite.config ∧
      diagram.NamesReadBack ∧
      (∀ relationship ∈ diagram.relationships, ∀ key ∈ diagram.foreignKey? relationship,
        (relationship.wantedName key).length ≤ maxIdentifierLength) ∧
      ∃ placement : Placement,
        diagram.Places (Dialect.sqlite.target {}) placement ∧
        ((placement.allKeys diagram.tables).map ForeignKey.name).Nodup := by
  intro field items products diagram
  have distinct : (diagram.tables.map Table.id).Nodup := by decide
  have accepted : diagram.Accepted Dialect.sqlite.config := by decide +kernel
  have readable : diagram.NamesReadBack := by
    refine namesReadBack_of_namesApart fun table listed other listed' => ?_
    rcases List.mem_pair.mp listed with rfl | rfl <;> rcases List.mem_pair.mp listed' with rfl | rfl
    all_goals exact ⟨by decide, by decide, by decide, by decide⟩
  have short : ∀ relationship ∈ diagram.relationships,
      ∀ key ∈ diagram.foreignKey? relationship,
        (relationship.wantedName key).length ≤ maxIdentifierLength := by decide +kernel
  obtain ⟨placement, places, names⟩ :=
    constraintNames_nodup_iff diagram .sqlite {} distinct accepted readable short
  refine ⟨distinct, accepted, readable, short, placement, places, names.mpr ?_⟩
  refine List.pairwise_pair.mpr ?_
  rintro ⟨start, -⟩
  exact absurd start (by decide)

/-- A table with a long name and two columns that begin alike: MySQL accepts the diagram, and both
foreign keys get the same name. -/
theorem constraintNames_collide_billing :
    let field (id name : String) : Field := { id, name, dataType := "INT" }
    let entries : Table := {
      id := "t", name := "customer_subscription_billing_history_entries"
      fields := [field "a" "original_invoice_id", field "b" "original_invoice_currency_id"] }
    let invoices : Table := { id := "u", name := "invoices", fields := [field "c" "id"] }
    let currencies : Table := { id := "v", name := "currencies", fields := [field "d" "id"] }
    let diagram : Diagram := {
      title := "Billing", tables := [entries, invoices, currencies]
      relationships := [.between "r" ⟨"t", "a"⟩ ⟨"u", "c"⟩, .between "s" ⟨"t", "b"⟩ ⟨"v", "d"⟩] }
    (diagram.tables.map Table.id).Nodup ∧ diagram.Accepted Dialect.mysql.config ∧
      ∃ placement : Placement,
        diagram.Places (Dialect.mysql.target {}) placement ∧
        ¬ ((placement.allKeys diagram.tables).map ForeignKey.name).Nodup := by
  intro field entries invoices currencies diagram
  have distinct : (diagram.tables.map Table.id).Nodup := by decide
  refine ⟨distinct, by decide +kernel, _, places_placement distinct _, ?_⟩
  decide +kernel

end Diagram

end EntityDiagram
