import EntityDiagram.Issue
import EntityDiagram.Proofs.Identifier.Portable
import EntityDiagram.Proofs.Keyed
import EntityDiagram.Proofs.Text.Lowering

/-!
# Accepted diagrams

A diagram is accepted for an engine if none of its issues is an error. The issues are found in one
pass, in which each table, column and index is seen with the ones before it. For every part of the
pass it is said here when it reports no error; together this is what an accepted diagram is like:
names are usable and differ, also where case is ignored, tables have columns, indexes name columns
that are there, and relationships have both of their sides.
-/

namespace EntityDiagram

/-! ### Case and blanks in names -/

/-- Usable names that are equal but for case are equal as they are compared. -/
theorem comparedName_eq_of_lower_eq {a b : String} (first : Identifier.IsPortable a)
    (second : Identifier.IsPortable b) (same : Text.lower a = Text.lower b) :
    comparedName a = comparedName b := by
  have plain : ∀ {name : String}, Identifier.IsPortable name →
      comparedName name = Text.trim (Text.lower name) := by
    intro name portable
    have inside : ∀ c ∈ (Text.trim name).toList, Text.isBlank c = true ∨ c.toNat < 128 := by
      intro c member
      rw [Text.toList_trim] at member
      exact .inr (Identifier.ascii_of_isNameChar (portable.chars c member))
    rw [comparedName, Text.lower_eq_asciiLower inside,
      Text.lower_eq_asciiLower portable.blank_or_ascii, Text.trim_asciiLower]
  rw [plain first, plain second, same]

/-! ### Lists of issues without an error -/

namespace Issue

/-- No issue among some is an error. -/
def Harmless (issues : List Issue) : Prop := ∀ issue ∈ issues, issue.severity ≠ .error

@[simp] theorem harmless_nil : Harmless [] := List.forall_mem_nil _

@[simp] theorem harmless_singleton {issue : Issue} :
    Harmless [issue] ↔ issue.severity ≠ .error :=
  List.forall_mem_singleton

@[simp] theorem harmless_append {issues others : List Issue} :
    Harmless (issues ++ others) ↔ Harmless issues ∧ Harmless others :=
  List.forall_mem_append

@[simp] theorem harmless_when {condition : Bool} {issue : Issue} :
    Harmless (when condition issue) ↔ (issue.severity = .error → condition = false) := by
  cases condition <;> simp [when]

theorem harmless_map {α : Type} {f : α → Issue} {items : List α} :
    Harmless (items.map f) ↔ ∀ a ∈ items, (f a).severity ≠ .error :=
  List.forall_mem_map

theorem harmless_flatMap {α : Type} {f : α → List Issue} {items : List α} :
    Harmless (items.flatMap f) ↔ ∀ a ∈ items, Harmless (f a) :=
  List.forall_mem_flatMap

/-- In a pass, each member is seen with those before it and with those before the list. -/
theorem Harmless.pass {α : Type} {f : List α → α → List Issue} {p : α → Prop} {r : α → α → Prop}
    (step : ∀ earlier a, Harmless (f earlier a) → p a ∧ ∀ other ∈ earlier, r other a)
    {earlier items : List α} (harmless : Harmless (flatMapWithEarlier f earlier items)) :
    (∀ a ∈ items, p a) ∧ items.Pairwise r ∧ ∀ a ∈ items, ∀ other ∈ earlier, r other a := by
  induction items generalizing earlier with
  | nil => simp
  | cons a rest ih =>
      obtain ⟨first, others⟩ := harmless_append.mp harmless
      obtain ⟨here, before⟩ := step earlier a first
      obtain ⟨all, pairwise, apart⟩ := ih others
      refine ⟨List.forall_mem_cons.mpr ⟨here, all⟩, .cons ?_ pairwise,
        List.forall_mem_cons.mpr ⟨before, ?_⟩⟩
      · intro b member
        exact apart b member a List.mem_cons_self
      · intro b member other old
        exact apart b member other (List.mem_cons_of_mem _ old)

/-- What a step without an error says of a member and of those before it holds of every member and
of every two. -/
theorem Harmless.all_and_pairwise {α : Type} {f : List α → α → List Issue} {p : α → Prop}
    {r : α → α → Prop} {items : List α} (harmless : Harmless (flatMapWithEarlier f [] items))
    (step : ∀ earlier a, Harmless (f earlier a) → p a ∧ ∀ other ∈ earlier, r other a) :
    (∀ a ∈ items, p a) ∧ items.Pairwise r := by
  obtain ⟨all, pairwise, -⟩ := harmless.pass step
  exact ⟨all, pairwise⟩

/-- The name of a thing gives no error if it is usable. -/
theorem harmless_ofName {thing : NamedThing} {text : String} :
    Harmless (ofName thing text) ↔ Identifier.IsPortable text := by
  have form : ∀ fault ∈ Identifier.formFaults (Text.trimChars text.toList),
      (name thing fault).severity = .error := by
    simp only [Identifier.formFaults, List.mem_append, Identifier.mem_faultIf]
    rintro fault (((⟨-, rfl⟩ | ⟨-, rfl⟩) | ⟨-, rfl⟩) | ⟨-, rfl⟩) <;> rfl
  have others : ∀ fault ∈ Identifier.reservedFaults (Text.trimChars text.toList) ++
      Identifier.styleFaults (Text.trimChars text.toList),
      (name thing fault).severity = .warning := by
    simp only [Identifier.reservedFaults, Identifier.styleFaults, List.mem_append,
      Identifier.mem_faultIf]
    rintro fault (⟨-, rfl⟩ | (⟨-, rfl⟩ | ⟨-, rfl⟩) | ⟨-, rfl⟩) <;> rfl
  simp only [Harmless, ofName, List.forall_mem_map]
  by_cases solid : Text.trimChars text.toList = []
  · rw [Identifier.validate_of_blank solid]
    constructor
    · intro all
      exact absurd rfl (all .empty List.mem_cons_self)
    · intro portable
      exact absurd solid portable.solid
  · have judged : (Identifier.validate text .standard).errors ++
        (Identifier.validate text .standard).warnings =
        Identifier.formFaults (Text.trimChars text.toList) ++
          (Identifier.reservedFaults (Text.trimChars text.toList) ++
            Identifier.styleFaults (Text.trimChars text.toList)) := by
      simp [Identifier.validate, solid]
    rw [judged]
    constructor
    · intro all
      have none : Identifier.formFaults (Text.trimChars text.toList) = [] := by
        refine List.eq_nil_iff_forall_not_mem.mpr fun fault member => ?_
        exact all fault (List.mem_append_left _ member) (form fault member)
      obtain ⟨short, chars, start, letter⟩ := Identifier.formFaults_eq_nil_iff.mp none
      exact ⟨solid, short, chars, start, letter⟩
    · intro portable fault member
      rw [Identifier.formFaults_eq_nil_iff.mpr ⟨portable.short, portable.chars, portable.start,
        portable.letter⟩, List.nil_append] at member
      rw [others fault member]
      decide

end Issue

namespace Table

open Issue

variable {config : DialectConfig} {table : Table}

theorem harmless_fieldIssues {earlier : List Field} {field : Field} :
    Harmless (table.fieldIssues config earlier field) ↔
      (Identifier.IsPortable field.name ∧ Harmless (table.typeIssues config field)) ∧
        ∀ other ∈ earlier, comparedName other.name ≠ comparedName field.name := by
  simp only [fieldIssues, harmless_append, harmless_ofName, harmless_when, severity, forall_const,
    List.any_eq_false, beq_iff_eq]
  exact and_right_comm

theorem harmless_indexIssues {earlierTables : List Table} {earlier : List Index} {index : Index} :
    Harmless (table.indexIssues earlierTables earlier index) ↔
      ((index.fields ≠ [] ∧ ∀ column ∈ index.fields, table.hasFieldNamed column = true) ∧
        ∀ other ∈ earlierTables, ∀ foreign ∈ other.indexes,
          other.comparedIndexName foreign ≠ table.comparedIndexName index) ∧
        ∀ other ∈ earlier, table.comparedIndexName other ≠ table.comparedIndexName index := by
  have known : Harmless ((index.fields.filter (!table.hasFieldNamed ·)).map
      (.unknownColumn (table.indexName index))) ↔
      ∀ column ∈ index.fields, table.hasFieldNamed column = true := by
    simp [harmless_map, severity]
  simp only [indexIssues, harmless_append, harmless_when, known, severity, forall_const,
    Bool.or_eq_false_iff, List.any_eq_false, List.isEmpty_eq_false_iff, beq_iff_eq,
    List.any_eq_true, not_exists, not_and]
  exact and_assoc.symm.trans and_right_comm

/-- A table as the tables of an accepted diagram are. -/
structure Sound (table : Table) : Prop where
  name : Identifier.IsPortable table.name
  fields : table.fields ≠ []
  fieldName : ∀ field ∈ table.fields, Identifier.IsPortable field.name
  fieldNames : table.fields.Pairwise fun a b => comparedName a.name ≠ comparedName b.name
  columns : ∀ index ∈ table.indexes,
    index.fields ≠ [] ∧ ∀ column ∈ index.fields, table.hasFieldNamed column = true
  indexNames : table.indexes.Pairwise fun a b =>
    table.comparedIndexName a ≠ table.comparedIndexName b

/-- A table without an error is sound, and differs in its names from the tables before it. -/
theorem sound_of_harmless {earlier : List Table}
    (harmless : Harmless (table.issues config earlier)) :
    table.Sound ∧ ∀ other ∈ earlier, comparedName other.name ≠ comparedName table.name ∧
      ∀ foreign ∈ other.indexes, ∀ index ∈ table.indexes,
        other.comparedIndexName foreign ≠ table.comparedIndexName index := by
  simp only [issues, harmless_append, harmless_ofName, harmless_when, severity, forall_const,
    List.any_eq_false, beq_iff_eq, List.isEmpty_eq_false_iff, and_assoc] at harmless
  obtain ⟨name, fresh, some_field, fields, indexes⟩ := harmless
  obtain ⟨fieldwise, fieldNames⟩ := fields.all_and_pairwise fun _ _ => harmless_fieldIssues.mp
  obtain ⟨indexwise, indexNames⟩ := indexes.all_and_pairwise fun _ _ => harmless_indexIssues.mp
  refine ⟨⟨name, some_field, fun field listed => (fieldwise field listed).1, fieldNames,
    fun index listed => (indexwise index listed).1, indexNames⟩, ?_⟩
  intro other old
  exact ⟨fresh other old, fun foreign member index listed =>
    (indexwise index listed).2 other old foreign member⟩

end Table

/-! ### Diagrams without an error -/

namespace Diagram

open Issue

theorem harmless_relationshipIssues {diagram : Diagram} {relationship : Relationship} :
    Harmless (diagram.relationshipIssues relationship) ↔
      diagram.resolves relationship.start = true ∧ diagram.resolves relationship.target = true := by
  simp only [relationshipIssues, resolves]
  cases diagram.resolve? relationship.start <;> cases diagram.resolve? relationship.target <;>
    simp [severity]

/-- An accepted diagram: no issue for the engine is an error. -/
def Accepted (diagram : Diagram) (config : DialectConfig) : Prop :=
  Harmless (diagram.issues config)

instance (diagram : Diagram) (config : DialectConfig) : Decidable (diagram.Accepted config) :=
  inferInstanceAs (Decidable (∀ issue ∈ diagram.issues config, issue.severity ≠ .error))

/-- What an accepted diagram is like. -/
structure Sound (diagram : Diagram) : Prop where
  tables : ∀ table ∈ diagram.tables, table.Sound
  tableNames : diagram.tables.Pairwise fun a b => comparedName a.name ≠ comparedName b.name
  indexNames : diagram.tables.Pairwise fun a b => ∀ foreign ∈ a.indexes, ∀ index ∈ b.indexes,
    a.comparedIndexName foreign ≠ b.comparedIndexName index
  relationships : ∀ relationship ∈ diagram.relationships,
    diagram.resolves relationship.start = true ∧ diagram.resolves relationship.target = true

theorem Accepted.sound {diagram : Diagram} {config : DialectConfig}
    (accepted : diagram.Accepted config) : diagram.Sound := by
  simp only [Accepted, issues, harmless_append, harmless_flatMap] at accepted
  obtain ⟨⟨tables, relationships⟩, -⟩ := accepted
  obtain ⟨all, pairwise⟩ := tables.all_and_pairwise fun _ _ => Table.sound_of_harmless
  exact ⟨all, pairwise.imp And.left, pairwise.imp And.right,
    fun relationship listed => harmless_relationshipIssues.mp (relationships relationship listed)⟩

end Diagram

/-! ### Names that differ where case is ignored -/

theorem Table.Sound.fieldNames_nodup {table : Table} (sound : table.Sound) :
    (table.fields.map fun field => Text.lower field.name).Nodup := by
  rw [List.Nodup, List.pairwise_map]
  refine sound.fieldNames.imp_of_mem fun first second differ same => differ ?_
  exact comparedName_eq_of_lower_eq (sound.fieldName _ first) (sound.fieldName _ second) same

namespace Diagram.Sound

variable {diagram : Diagram} (sound : diagram.Sound)

include sound

theorem tableNames_nodup : (diagram.tables.map fun table => Text.lower table.name).Nodup := by
  rw [List.Nodup, List.pairwise_map]
  refine sound.tableNames.imp_of_mem fun first second differ same => differ ?_
  exact comparedName_eq_of_lower_eq (sound.tables _ first).name (sound.tables _ second).name same

theorem indexNames_nodup :
    (diagram.tables.flatMap fun table => table.indexes.map table.comparedIndexName).Nodup := by
  rw [List.nodup_flatMap]
  refine ⟨fun table listed => ?_, sound.indexNames.imp fun {first second} apart => ?_⟩
  · rw [List.Nodup, List.pairwise_map]
    exact (sound.tables table listed).indexNames
  · intro name here there
    obtain ⟨foreign, member, rfl⟩ := List.mem_map.mp here
    obtain ⟨index, listed, same⟩ := List.mem_map.mp there
    exact apart foreign member index listed same.symm

end Diagram.Sound

end EntityDiagram
