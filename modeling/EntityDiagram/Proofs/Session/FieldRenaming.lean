import EntityDiagram.Proofs.Session.Consistency
import EntityDiagram.Session.Basic

/-!
# Giving a field another name

Indexes name their columns, and a name stands for the first field that has it. A field whose old and
new names no other field has takes its index entries along: under the new name every entry stands
for what it stood for, be it a field or nothing that is there, and the old name brings back the
indexes as they were.
-/

namespace EntityDiagram

/-- A column name, with one name exchanged for another. -/
def exchangeName (old new name : String) : String := if name == old then new else name

@[simp] theorem exchangeName_left (old new : String) : exchangeName old new old = new :=
  if_pos (beq_self_eq_true old)

theorem exchangeName_of_ne {old name : String} (other : name ≠ old) (new : String) :
    exchangeName old new name = name :=
  if_neg (mt beq_iff_eq.mp other)

@[simp] theorem exchangeName_self (old name : String) : exchangeName old old name = name := by
  by_cases same : name = old
  · rw [same, exchangeName_left]
  · exact exchangeName_of_ne same old

/-- A name that was not in use leaves no trace once it is exchanged for the old one again. -/
theorem exchangeName_exchangeName {new name : String} (other : name ≠ new) (old : String) :
    exchangeName new old (exchangeName old new name) = name := by
  by_cases same : name = old
  · rw [same, exchangeName_left, exchangeName_left]
  · rw [exchangeName_of_ne same, exchangeName_of_ne other]

namespace Index

/-- The index with one name exchanged for another in every entry. -/
def exchange (old new : String) (index : Index) : Index :=
  { index with fields := index.fields.map (exchangeName old new) }

@[simp] theorem exchange_self (name : String) (index : Index) :
    index.exchange name name = index := by
  have same : index.fields.map (exchangeName name name) = index.fields :=
    List.map_id'' (exchangeName_self name) index.fields
  rw [exchange, same]

theorem exchange_exchange {index : Index} {new : String} (unlisted : new ∉ index.fields)
    (old : String) : (index.exchange old new).exchange new old = index := by
  have same : (index.fields.map (exchangeName old new)).map (exchangeName new old) =
      index.fields := by
    rw [List.map_map]
    exact (List.map_congr_left fun name listed =>
      exchangeName_exchangeName (ne_of_mem_of_not_mem listed unlisted) old).trans (List.map_id _)
  rw [exchange, exchange, same]

end Index

/-- What an entry of an index stands for. -/
inductive Column where
  /-- A field of the table, by its id. -/
  | field (id : String)
  /-- A name that no field has. -/
  | stale (name : String)
  deriving DecidableEq, Repr

namespace Table

variable {table : Table} {field : Field} {name : String} {patch : FieldPatch}

/-- What a name stands for in the indexes of the table. -/
def column (table : Table) (name : String) : Column :=
  match table.fieldNamed? name with
  | some field => .field field.id
  | none => .stale name

/-- An index with what its entries stand for, each in its place. -/
def bound (table : Table) (index : Index) : Index × List Column :=
  ({ index with fields := [] }, index.fields.map table.column)

/-- The table after a change of a field that gives it a name. -/
def renamed (table : Table) (field : Field) (patch : FieldPatch) (name : String) : Table :=
  { table with
    fields := Keyed.update patch.apply field.id table.fields
    indexes := table.indexes.map (Index.exchange field.name name) }

/-- A field told apart from all others of its table by its id, by its name, and by the name that it is
to have. -/
structure Renamable (table : Table) (field : Field) (name : String) : Prop where
  inside : field ∈ table.fields
  distinct : (table.fields.map Field.id).Nodup
  alone : ∀ other ∈ table.fields, other.id ≠ field.id →
    other.name ≠ field.name ∧ other.name ≠ name

theorem renameColumn_eq (table : Table) (old new : String) :
    table.renameColumn old new =
      if new == old || table.hasFieldNamed old then table
      else { table with indexes := table.indexes.map (Index.exchange old new) } := rfl

namespace Renamable

theorem found (free : table.Renamable field name) : table.field? field.id = some field :=
  (Keyed.find?_eq_some_iff free.distinct).mpr ⟨free.inside, rfl⟩

/-- Only the field has either name. -/
theorem eq_of_name (free : table.Renamable field name) {other : Field}
    (member : other ∈ table.fields) (called : other.name = field.name ∨ other.name = name) :
    other = field := by
  refine List.inj_on_of_nodup_map free.distinct member free.inside ?_
  by_contra apart
  obtain ⟨notOld, notNew⟩ := free.alone other member apart
  exact called.elim notOld notNew

theorem column_name (free : table.Renamable field name) :
    table.column field.name = .field field.id := by
  obtain ⟨first, hit⟩ := Option.isSome_iff_exists.mp
    ((table.fieldNamed?_isSome field.name).trans (hasFieldNamed_iff.mpr ⟨field, free.inside, rfl⟩))
  have called : first.name = field.name :=
    beq_iff_eq.mp (List.find?_some (p := fun other : Field => other.name == field.name) hit)
  rw [column, hit, free.eq_of_name (List.mem_of_find?_eq_some hit) (.inl called)]

/-- The other name is in use only if it is the same one. -/
theorem name_eq (free : table.Renamable field name) (used : table.hasFieldNamed name = true) :
    field.name = name := by
  obtain ⟨other, member, called⟩ := hasFieldNamed_iff.mp used
  rw [← free.eq_of_name member (.inr called), called]

/-- Under the new name the field can still be told apart, and may have its old name again. -/
theorem back (free : table.Renamable field name) (named : (patch.apply field).name = name)
    (indexes : List Index) :
    ({ table with
      fields := Keyed.update patch.apply field.id table.fields, indexes } : Table).Renamable
        (patch.apply field) field.name where
  inside := Keyed.mem_update_self free.found
  distinct := by
    rw [Keyed.map_update_of_find? fun other _ => patch.id_apply other]
    exact free.distinct
  alone := by
    intro other member apart
    rw [patch.id_apply] at apart
    rcases Keyed.mem_update member with old | ⟨same, hit, rfl⟩
    · rw [named]
      exact (free.alone other old apart).symm
    · rw [patch.id_apply] at apart
      exact absurd (Keyed.key_of_find?_eq_some hit) apart

/-- Changing the field gives its new name to the indexes. -/
theorem updateField_eq_ok (free : table.Renamable field name)
    (named : (patch.apply field).name = name) :
    table.updateField field.id patch = .ok (table.renamed field patch name, patch.apply field) := by
  refine updateField_eq_ok_iff.mpr ⟨field, free.found, rfl, ?_⟩
  rw [named, renameColumn_eq]
  split
  · next kept =>
    -- The old name is still in use, so it is the new one as well.
    have same : name = field.name := by
      rcases Bool.or_eq_true_iff.mp kept with same | used
      · exact beq_iff_eq.mp same
      · exact named.symm.trans ((free.back named table.indexes).name_eq used)
    have unchanged : table.indexes.map (Index.exchange field.name name) = table.indexes :=
      same ▸ List.map_id'' (Index.exchange_self name) table.indexes
    rw [renamed, unchanged]
  · rfl

/-- What an entry stands for before, it stands for afterwards under the name it then has. -/
theorem column_exchange (free : table.Renamable field name)
    (named : (patch.apply field).name = name) {entry : String} (other : entry ≠ name) :
    (table.renamed field patch name).column (exchangeName field.name name entry) =
      table.column entry := by
  by_cases called : entry = field.name
  · have here := (free.back named (table.indexes.map (Index.exchange field.name name))).column_name
    rw [named, patch.id_apply] at here
    rw [called, exchangeName_left, free.column_name]
    exact here
  · have same : (table.renamed field patch name).fieldNamed? entry = table.fieldNamed? entry :=
      Keyed.find?_update_of_not free.found (beq_eq_false_iff_ne.mpr (Ne.symm called))
        (beq_eq_false_iff_ne.mpr (named.trans_ne other.symm))
    rw [exchangeName_of_ne called, column, column, same]

theorem bound_exchange (free : table.Renamable field name)
    (named : (patch.apply field).name = name) {index : Index} (unlisted : name ∉ index.fields) :
    (table.renamed field patch name).bound (index.exchange field.name name) =
      table.bound index := by
  refine Prod.ext rfl ?_
  rw [bound, bound, Index.exchange, List.map_map]
  exact List.map_congr_left fun entry listed =>
    free.column_exchange named (ne_of_mem_of_not_mem listed unlisted)

/-- Every index keeps what it stands for. -/
theorem map_bound_renamed (free : table.Renamable field name)
    (named : (patch.apply field).name = name)
    (unlisted : ∀ index ∈ table.indexes, name ∉ index.fields) :
    (table.renamed field patch name).indexes.map (table.renamed field patch name).bound =
      table.indexes.map table.bound := by
  rw [renamed, List.map_map]
  exact List.map_congr_left fun index member => free.bound_exchange named (unlisted index member)

end Renamable

/-- The old name brings back the indexes and the names of all fields. -/
theorem renamed_renamed {back : FieldPatch} (found : table.field? field.id = some field)
    (named : (patch.apply field).name = name)
    (namedBack : (back.apply (patch.apply field)).name = field.name)
    (unlisted : ∀ index ∈ table.indexes, name ∉ index.fields) :
    ((table.renamed field patch name).renamed (patch.apply field) back field.name).indexes =
        table.indexes ∧
      ((table.renamed field patch name).renamed (patch.apply field) back field.name).fields.map
        Field.name = table.fields.map Field.name := by
  constructor
  · rw [renamed, renamed, named, List.map_map]
    exact (List.map_congr_left fun index member =>
      Index.exchange_exchange (unlisted index member) field.name).trans (List.map_id _)
  · rw [renamed, renamed, patch.id_apply, Keyed.update_update found (patch.id_apply field)]
    refine Keyed.map_update_of_find? fun other hit => ?_
    obtain rfl : field = other := Option.some.inj (found.symm.trans hit)
    exact namedBack

end Table

/-- Counting up has no bearing on the name. -/
theorem FieldPatch.name_apply_eq (patch : FieldPatch) (field : Field) :
    (patch.apply field).name = (patch.assign field).name := by
  rw [apply]
  split <;> rfl

/-- A patch that names the name gives it. -/
theorem FieldPatch.name_apply {patch : FieldPatch} {name : String} (named : patch.name = some name)
    (field : Field) : (patch.apply field).name = name := by
  rw [name_apply_eq, assign, named, Option.getD_some]

namespace Session

variable {session : Session} {tableId name : String} {table : Table} {field : Field}

/-- A change of a field that its table accepts is accepted: the changed table takes the place of the
old one, and is found there. -/
theorem edit_updateField_replaces {id : String} {patch : FieldPatch} {changed : Table}
    (found : session.diagram.table? tableId = some table)
    (updated : table.updateField id patch = .ok (changed, field)) :
    ∃ next, session.edit (.updateField tableId id patch) = .ok (next, .field field) ∧
      next.diagram.table? tableId = some changed ∧
      next.diagram = { session.diagram with
        tables := Keyed.update (fun _ => changed) tableId session.diagram.tables } := by
  have shown : Edit.showing .field (table.updateField id patch) = .ok (changed, .field field) :=
    Edit.showing_eq_ok_iff.mpr ⟨field, updated, rfl⟩
  have applied : (Edit.updateField tableId id patch).apply session.diagram =
      .ok ({ session.diagram with
        tables := Keyed.update (fun _ => changed) tableId session.diagram.tables }, .field field) :=
    Diagram.inTable_eq_ok_iff.mpr ⟨table, changed, found, shown, rfl⟩
  have sameId : changed.id = tableId :=
    (Table.replaces_updateField updated).id.trans (Keyed.key_of_find?_eq_some found)
  exact ⟨_, map_eq_ok_iff.mpr ⟨_, applied, rfl⟩, Keyed.find?_update_self found sameId, rfl⟩

/-- A change of a field that its table accepts is accepted, and leads to the changed table. -/
theorem edit_updateField_eq_ok {id : String} {patch : FieldPatch} {changed : Table}
    (found : session.diagram.table? tableId = some table)
    (updated : table.updateField id patch = .ok (changed, field)) :
    ∃ next, session.edit (.updateField tableId id patch) = .ok (next, .field field) ∧
      next.diagram.table? tableId = some changed := by
  obtain ⟨next, done, there, -⟩ := edit_updateField_replaces found updated
  exact ⟨next, done, there⟩

/-- A field that can be told apart by its old and its new name, where no index lists the new one, may
be called by it: every entry of every index still stands for what it stood for, repeated entries
and those that stand for nothing included. When it is called by its old name again, the indexes and
the names of all fields are as they were. The patches may change other attributes as well. -/
theorem edit_rename_and_back {patch back : FieldPatch}
    (found : session.diagram.table? tableId = some table)
    (free : table.Renamable field name)
    (unlisted : ∀ index ∈ table.indexes, name ∉ index.fields)
    (named : patch.name = some name) (namedBack : back.name = some field.name) :
    ∃ (renamed restored : Session) (changed again : Table),
      session.edit (.updateField tableId field.id patch) =
        .ok (renamed, .field (patch.apply field)) ∧
      renamed.diagram.table? tableId = some changed ∧
      changed.fields = Keyed.update patch.apply field.id table.fields ∧
      changed.indexes.map changed.bound = table.indexes.map table.bound ∧
      renamed.edit (.updateField tableId field.id back) =
        .ok (restored, .field (back.apply (patch.apply field))) ∧
      restored.diagram.table? tableId = some again ∧
      again.indexes = table.indexes ∧
      again.fields.map Field.name = table.fields.map Field.name := by
  have called : (patch.apply field).name = name := FieldPatch.name_apply named field
  have calledBack : (back.apply (patch.apply field)).name = field.name :=
    FieldPatch.name_apply namedBack _
  obtain ⟨renamed, there, changed⟩ := edit_updateField_eq_ok found (free.updateField_eq_ok called)
  have freeBack : (table.renamed field patch name).Renamable (patch.apply field) field.name :=
    free.back called _
  obtain ⟨restored, andBack, again⟩ :=
    edit_updateField_eq_ok changed (freeBack.updateField_eq_ok calledBack)
  rw [patch.id_apply] at andBack
  obtain ⟨indexes, names⟩ := Table.renamed_renamed free.found called calledBack unlisted
  exact ⟨renamed, restored, _, _, there, changed, rfl, free.map_bound_renamed called unlisted,
    andBack, again, indexes, names⟩

/-- One index lists the name twice, one lists it after a name that no field has, and one lists
nothing. -/
theorem edit_rename_and_back_mail :
    let field (id name : String) : Field := { id, name, dataType := "TEXT" }
    let users : Table := {
      id := "t", name := "users", fields := [field "a" "email", field "b" "name"]
      indexes := [{ id := "i", fields := ["email", "name", "email"] },
        { id := "j", fields := ["ghost", "email"] }, { id := "k", fields := [] }] }
    let session := start { tables := [users] } 5
    (users.indexes.map users.bound).map Prod.snd =
        [[.field "a", .field "b", .field "a"], [.stale "ghost", .field "a"], []] ∧
      ∃ (renamed restored : Session) (changed again : Table),
        session.edit (.updateField "t" "a" (.rename "mail")) =
          .ok (renamed, .field (field "a" "mail")) ∧
        renamed.diagram.table? "t" = some changed ∧
        changed.indexes.map changed.bound = users.indexes.map users.bound ∧
        renamed.edit (.updateField "t" "a" (.rename "email")) =
          .ok (restored, .field (field "a" "email")) ∧
        restored.diagram.table? "t" = some again ∧
        again.indexes = users.indexes := by
  intro field users session
  have free : users.Renamable (field "a" "email") "mail" :=
    ⟨by decide, by decide, by decide⟩
  have unlisted : ∀ index ∈ users.indexes, "mail" ∉ index.fields := by decide
  have found : session.diagram.table? "t" = some users := rfl
  have named : (FieldPatch.rename "mail").name = some "mail" := rfl
  have namedBack : (FieldPatch.rename "email").name = some "email" := rfl
  obtain ⟨renamed, restored, changed, again, there, shown, _, bound, andBack, shownAgain, indexes,
    _⟩ := edit_rename_and_back found free unlisted named namedBack
  exact ⟨by decide, renamed, restored, changed, again, there, shown, bound, andBack, shownAgain,
    indexes⟩

end Session

end EntityDiagram
