import EntityDiagram.Proofs.Session.FieldRenaming

/-!
# Changing a field twice

A patch gives a field the attributes that it names, and if the field then counts up, it settles it:
never null, and without a default. Giving attributes is harmless on its own: what is given twice is
given, and two patches that name no attribute in common give theirs in either order. Settling is
what could come between them. But a field that was settled before a patch is settled after it as if
it had not been, unless the patch stops the counting; so the settling can be put off to the end.

A patch that does stop the counting leaves behind what counting forced on the field. Its order with
another patch is then free exactly if nothing that was forced shows.
-/

namespace EntityDiagram

namespace Field

/-- The field as counting up demands it, if it does: never null, and without a default. -/
def settled (field : Field) : Field := if field.increment then field.asIncrement else field

theorem settled_of_increment {field : Field} (counts : field.increment = true) :
    field.settled = field.asIncrement :=
  if_pos counts

theorem settled_of_not_increment {field : Field} (counts : field.increment = false) :
    field.settled = field :=
  if_neg (Bool.not_eq_true _ ▸ counts)

@[simp] theorem increment_settled (field : Field) : field.settled.increment = field.increment := by
  cases counts : field.increment with
  | true =>
      rw [settled_of_increment counts]
      rfl
  | false => rw [settled_of_not_increment counts, counts]

end Field

/-- An attribute that a patch can give to a field. -/
inductive FieldAttribute where
  | name
  | dataType
  | size
  | precision
  | scale
  | primary
  | unique
  | notNull
  | increment
  | unsigned
  | isArray
  | default
  | check
  | comment
  deriving DecidableEq, Repr

/-- Every attribute. -/
def FieldAttribute.all : List FieldAttribute := [
  .name, .dataType, .size, .precision, .scale, .primary, .unique, .notNull, .increment, .unsigned,
  .isArray, .default, .check, .comment]

theorem FieldAttribute.mem_all (part : FieldAttribute) : part ∈ all := by
  cases part <;> decide

/-- Of two values of which one is missing, the order does not matter. -/
theorem getD_getD_comm {α : Type} {first second : Option α}
    (apart : ¬ (first.isSome = true ∧ second.isSome = true)) (a : α) :
    second.getD (first.getD a) = first.getD (second.getD a) := by
  cases first with
  | none => rfl
  | some value =>
      cases second with
      | none => rfl
      | some other => exact absurd ⟨rfl, rfl⟩ apart

theorem getD_eq_getD_iff {α : Type} {given : Option α} {a b : α} :
    given.getD a = given.getD b ↔ given.isSome = true ∨ a = b := by
  cases given <;> simp

namespace FieldPatch

variable {patch first second : FieldPatch} {field : Field}

/-- Whether a patch gives an attribute. -/
def gives (patch : FieldPatch) : FieldAttribute → Bool
  | .name => patch.name.isSome
  | .dataType => patch.dataType.isSome
  | .size => patch.size.isSome
  | .precision => patch.precision.isSome
  | .scale => patch.scale.isSome
  | .primary => patch.primary.isSome
  | .unique => patch.unique.isSome
  | .notNull => patch.notNull.isSome
  | .increment => patch.increment.isSome
  | .unsigned => patch.unsigned.isSome
  | .isArray => patch.isArray.isSome
  | .default => patch.default.isSome
  | .check => patch.check.isSome
  | .comment => patch.comment.isSome

/-- No attribute is given by both of two patches. -/
def Apart (first second : FieldPatch) : Prop :=
  ∀ part, ¬ (first.gives part = true ∧ second.gives part = true)

instance (first second : FieldPatch) : Decidable (first.Apart second) :=
  decidable_of_iff
    (∀ part ∈ FieldAttribute.all, ¬ (first.gives part = true ∧ second.gives part = true))
    ⟨fun apart part => apart part part.mem_all, fun apart part _ => apart part⟩

/-! ### Attributes are given -/

theorem assign_assign (patch : FieldPatch) (field : Field) :
    patch.assign (patch.assign field) = patch.assign field := by
  simp only [assign, ← Option.getD_or, Option.or_self]

theorem assign_comm (apart : first.Apart second) (field : Field) :
    second.assign (first.assign field) = first.assign (second.assign field) := by
  simp only [assign, Field.mk.injEq, true_and]
  exact ⟨getD_getD_comm (apart .name) _, getD_getD_comm (apart .dataType) _,
    getD_getD_comm (apart .size) _, getD_getD_comm (apart .precision) _,
    getD_getD_comm (apart .scale) _, getD_getD_comm (apart .primary) _,
    getD_getD_comm (apart .unique) _, getD_getD_comm (apart .notNull) _,
    getD_getD_comm (apart .increment) _, getD_getD_comm (apart .unsigned) _,
    getD_getD_comm (apart .isArray) _, getD_getD_comm (apart .default) _,
    getD_getD_comm (apart .check) _, getD_getD_comm (apart .comment) _⟩

/-! ### Fields are settled -/

/-- A patch gives what it names and settles the field. -/
theorem apply_eq (patch : FieldPatch) (field : Field) :
    patch.apply field = (patch.assign field).settled := rfl

/-- A field that counts up is never null, and has no default. -/
theorem rules_apply (counts : (patch.apply field).increment = true) :
    (patch.apply field).notNull = true ∧ (patch.apply field).default = none := by
  rw [apply_eq, Field.increment_settled] at counts
  rw [apply_eq, Field.settled_of_increment counts]
  exact ⟨rfl, rfl⟩

theorem increment_assign (keeps : patch.increment ≠ some false) (counts : field.increment = true) :
    (patch.assign field).increment = true := by
  show patch.increment.getD field.increment = true
  cases given : patch.increment with
  | none => exact counts
  | some value =>
      cases value with
      | true => rfl
      | false => exact absurd given keeps

theorem not_increment_assign (stops : patch.increment = some false) (field : Field) :
    (patch.assign field).increment = false := by
  rw [assign, stops, Option.getD_some]

/-- A field that was settled before a patch is settled after it as if it had not been, unless the
patch stops the counting. -/
theorem settled_assign_settled (keeps : patch.increment ≠ some false) (field : Field) :
    (patch.assign field.settled).settled = (patch.assign field).settled := by
  cases counts : field.increment with
  | false => rw [Field.settled_of_not_increment counts]
  | true =>
      have before : (patch.assign field.asIncrement).increment = true :=
        increment_assign keeps rfl
      rw [Field.settled_of_increment counts, Field.settled_of_increment before,
        Field.settled_of_increment (increment_assign keeps counts)]
      rfl

theorem apply_apply (patch : FieldPatch) (field : Field) :
    patch.apply (patch.apply field) = patch.apply field := by
  by_cases stops : patch.increment = some false
  · have halted := not_increment_assign stops
    rw [apply_eq, apply_eq, Field.settled_of_not_increment (halted _),
      Field.settled_of_not_increment (halted _), assign_assign]
  · rw [apply_eq, apply_eq, settled_assign_settled stops, assign_assign]

/-- Two patches that name no attribute in common, and of which neither stops the counting, can be
applied in either order. -/
theorem apply_comm (apart : first.Apart second) (keepsFirst : first.increment ≠ some false)
    (keepsSecond : second.increment ≠ some false) (field : Field) :
    second.apply (first.apply field) = first.apply (second.apply field) :=
  calc second.apply (first.apply field)
      = (second.assign (first.assign field)).settled := settled_assign_settled keepsSecond _
    _ = (first.assign (second.assign field)).settled := by rw [assign_comm apart]
    _ = first.apply (second.apply field) := (settled_assign_settled keepsFirst _).symm

/-- What counting forced on a field shows after a patch that stops it, unless the patch gives the
attribute itself or the field had what was forced. -/
theorem assign_settled_eq_iff (stops : patch.increment = some false)
    (counts : field.increment = true) :
    patch.assign field.settled = patch.assign field ↔
      (patch.notNull.isSome = true ∨ field.notNull = true) ∧
        (patch.default.isSome = true ∨ field.default = none) := by
  rw [Field.settled_of_increment counts]
  simp only [assign, Field.asIncrement, stops, Option.getD_some, Field.mk.injEq, true_and, and_true,
    getD_eq_getD_iff, eq_comm]

/-- A patch that stops the counting can be exchanged with one that names no attribute in common just
in case the field does not count up, or nothing that was forced on it shows. -/
theorem apply_comm_iff_of_stops (apart : first.Apart second)
    (stops : first.increment = some false) (field : Field) :
    second.apply (first.apply field) = first.apply (second.apply field) ↔
      (field.increment = true →
        (first.notNull.isSome = true ∨ (second.assign field).notNull = true) ∧
          (first.default.isSome = true ∨ (second.assign field).default = none)) := by
  have halted := not_increment_assign stops
  have silent : second.increment = none := by
    have gives : first.gives .increment = true := by rw [gives, stops]; rfl
    exact Option.not_isSome_iff_eq_none.mp fun given => apart .increment ⟨gives, given⟩
  have kept : ∀ field : Field, (second.assign field).increment = field.increment := by
    intro field
    rw [assign, silent, Option.getD_none]
  have left : second.apply (first.apply field) = first.assign (second.assign field) := by
    rw [apply_eq, apply_eq, Field.settled_of_not_increment (halted field),
      Field.settled_of_not_increment ((kept _).trans (halted field)), assign_comm apart]
  have right : first.apply (second.apply field) = first.assign (second.assign field).settled :=
    Field.settled_of_not_increment (halted _)
  rw [left, right, eq_comm]
  cases counts : field.increment with
  | false => simp [Field.settled_of_not_increment ((kept field).trans counts)]
  | true => simp [assign_settled_eq_iff stops ((kept field).trans counts)]

/-- Whether a column that stops counting may be null depends on what was said first. -/
example :
    let stop : FieldPatch := { increment := some false }
    let optional : FieldPatch := { notNull := some false }
    let counter : Field := {
      id := "f", name := "id", dataType := "INT", notNull := true, increment := true }
    (optional.apply (stop.apply counter)).notNull = false ∧
      (stop.apply (optional.apply counter)).notNull = true := by
  decide

/-- A patch that gives no name leaves the old one. -/
theorem name_apply_of_none (unnamed : patch.name = none) (field : Field) :
    (patch.apply field).name = field.name := by
  rw [name_apply_eq, assign, unnamed, Option.getD_none]

/-- Patching a field again with the same patch changes nothing, and a field that counts up after a
patch is never null and has no default. Two patches that name no attribute in common, and of which
neither stops the counting, lead to the same field in either order. -/
theorem apply_idempotent_and_exchangeable :
    (∀ (patch : FieldPatch) (field : Field),
      patch.apply (patch.apply field) = patch.apply field ∧
        ((patch.apply field).increment = true →
          (patch.apply field).notNull = true ∧ (patch.apply field).default = none)) ∧
    ∀ first second : FieldPatch, first.Apart second →
      first.increment ≠ some false → second.increment ≠ some false →
      ∀ field : Field, second.apply (first.apply field) = first.apply (second.apply field) :=
  ⟨fun patch field => ⟨patch.apply_apply field, rules_apply⟩,
    fun _ _ apart keepsFirst keepsSecond => apply_comm apart keepsFirst keepsSecond⟩

/-- One patch starts the counting, the other one says what counting does not allow. -/
theorem apply_idempotent_and_exchangeable_counter :
    let count : FieldPatch := { increment := some true, name := some "id" }
    let optional : FieldPatch := { notNull := some false, default := some (some (.literal "0")) }
    let field : Field := { id := "f", name := "number", dataType := "INT" }
    let counter : Field := {
      id := "f", name := "id", dataType := "INT", notNull := true, increment := true }
    optional.apply (count.apply field) = counter ∧ count.apply (optional.apply field) = counter ∧
      count.apply counter = counter ∧ counter.notNull = true ∧ counter.default = none := by
  intro count optional field counter
  have one : optional.apply (count.apply field) = counter := by decide
  have other : count.apply (optional.apply field) = counter :=
    (apply_idempotent_and_exchangeable.2 count optional (by decide) (by decide) (by decide)
      field).symm.trans one
  obtain ⟨again, rules⟩ := apply_idempotent_and_exchangeable.1 count (optional.apply field)
  rw [other] at again rules
  obtain ⟨required, plain⟩ := rules rfl
  exact ⟨one, other, again, required, plain⟩

end FieldPatch

/-! ### Fields of a table -/

namespace Table

variable {table : Table} {id : String} {field : Field} {patch first second : FieldPatch}

/-- The table when the field with the id, which is the given one, was patched. -/
def patched (id : String) (field : Field) (patch : FieldPatch) (table : Table) : Table :=
  ({ table with fields := Keyed.update patch.apply id table.fields }).renameColumn
    field.name (patch.apply field).name

theorem updateField_of_field? (inside : table.field? id = some field) (patch : FieldPatch) :
    table.updateField id patch = .ok (table.patched id field patch, patch.apply field) :=
  updateField_eq_ok_iff.mpr ⟨field, inside, rfl, rfl⟩

@[simp] theorem fields_patched (id : String) (field : Field) (patch : FieldPatch) (table : Table) :
    (table.patched id field patch).fields = Keyed.update patch.apply id table.fields :=
  fields_renameColumn _ _ _

theorem field?_patched (inside : table.field? id = some field) (patch : FieldPatch) :
    (table.patched id field patch).field? id = some (patch.apply field) := by
  rw [field?, fields_patched]
  exact Keyed.find?_update_self inside
    ((patch.id_apply field).trans (Keyed.key_of_find?_eq_some inside))

/-- Under the old name the indexes stay as they are. -/
theorem patched_of_name_eq (kept : (patch.apply field).name = field.name) (id : String)
    (table : Table) : table.patched id field patch =
      { table with fields := Keyed.update patch.apply id table.fields } := by
  rw [patched, kept, renameColumn, if_pos (by simp)]

/-- A patch that leaves the field as it is leaves the table as it is. -/
theorem patched_eq_self (inside : table.field? id = some field)
    (same : patch.apply field = field) : table.patched id field patch = table := by
  rw [patched_of_name_eq (congrArg Field.name same), Keyed.update_eq_self inside same]

/-- What becomes of the indexes depends on the names of the fields only. -/
theorem renameColumn_withFields (table : Table) {fields : List Field}
    (names : fields.map Field.name = table.fields.map Field.name) (old new : String) :
    ({ table with fields } : Table).renameColumn old new =
      { table.renameColumn old new with fields } := by
  have carried : ({ table with fields } : Table).hasFieldNamed old = table.hasFieldNamed old := by
    have listed : ∀ fields : List Field,
        fields.any (·.name == old) = (fields.map Field.name).any (· == old) := by
      intro fields
      rw [List.any_map, Function.comp_def]
    rw [hasFieldNamed, hasFieldNamed, listed, listed, names]
  rw [renameColumn, renameColumn, carried]
  split <;> rfl

/-- Two patches that can be exchanged on a field, of which the second keeps its name, can be
exchanged in its table. -/
theorem patched_comm (inside : table.field? id = some field)
    (either : second.apply (first.apply field) = first.apply (second.apply field))
    (kept : ∀ field : Field, (second.apply field).name = field.name) :
    (table.patched id field first).patched id (first.apply field) second =
      (table.patched id field second).patched id (second.apply field) first := by
  have keyed (patch : FieldPatch) : Keyed.key (patch.apply field) = id :=
    (patch.id_apply field).trans (Keyed.key_of_find?_eq_some inside)
  have fields : Keyed.update first.apply id (Keyed.update second.apply id table.fields) =
      Keyed.update second.apply id (Keyed.update first.apply id table.fields) := by
    rw [Keyed.update_update inside (keyed second), Keyed.update_update inside (keyed first)]
    exact Keyed.update_congr inside either.symm
  have names : (Keyed.update second.apply id (Keyed.update first.apply id table.fields)).map
      Field.name = (Keyed.update first.apply id table.fields).map Field.name :=
    Keyed.map_update_of_find? fun other _ => kept other
  have named : (first.apply (second.apply field)).name = (first.apply field).name := by
    rw [← either, kept]
  calc (table.patched id field first).patched id (first.apply field) second
      = { table.patched id field first with
          fields := Keyed.update second.apply id (Keyed.update first.apply id table.fields) } := by
        rw [patched_of_name_eq (kept _), fields_patched]
    _ = ({ table with
          fields := Keyed.update second.apply id (Keyed.update first.apply id table.fields) }
            : Table).renameColumn field.name (first.apply field).name :=
        (renameColumn_withFields { table with fields := Keyed.update first.apply id table.fields }
          names _ _).symm
    _ = (table.patched id field second).patched id (second.apply field) first := by
        rw [patched_of_name_eq (kept _), patched, fields, kept, named]

end Table

/-! ### Fields of a diagram -/

namespace Session

variable {session next : Session} {tableId fieldId : String} {table : Table} {field : Field}
variable {patch first second : FieldPatch}

/-- A field that is there can be patched. -/
theorem edit_updateField_of_field? (found : session.diagram.table? tableId = some table)
    (inside : table.field? fieldId = some field) (patch : FieldPatch) :
    ∃ next, session.edit (.updateField tableId fieldId patch) =
        .ok (next, .field (patch.apply field)) ∧
      next.diagram.table? tableId = some (table.patched fieldId field patch) ∧
      next.diagram = { session.diagram with
        tables := Keyed.update (fun _ => table.patched fieldId field patch) tableId
          session.diagram.tables } :=
  edit_updateField_replaces found (Table.updateField_of_field? inside patch)

/-- A patched field is in its table, and is shown. -/
theorem exists_of_edit_updateField {shown : Member}
    (done : session.edit (.updateField tableId fieldId patch) = .ok (next, shown)) :
    ∃ table old, next.diagram.table? tableId = some table ∧
      table.field? fieldId = some (patch.apply old) ∧ shown = .field (patch.apply old) := by
  obtain ⟨⟨diagram, member⟩, applied, same⟩ := map_eq_ok_iff.mp done
  obtain ⟨rfl, rfl⟩ := Prod.mk.inj same
  obtain ⟨table, changed, found, shows, rfl⟩ := Diagram.inTable_eq_ok_iff.mp applied
  obtain ⟨field, updated, rfl⟩ := Edit.showing_eq_ok_iff.mp shows
  obtain ⟨old, inside, rfl, rfl⟩ := Table.updateField_eq_ok_iff.mp updated
  have sameId : (table.patched fieldId old patch).id = tableId :=
    (Table.id_renameColumn _ _ _).trans (Keyed.key_of_find?_eq_some found)
  exact ⟨_, old, Keyed.find?_update_self found sameId, Table.field?_patched inside patch, rfl⟩

/-- A patch that leaves its field as it is leaves the diagram as it is. -/
theorem edit_updateField_of_apply_eq (found : session.diagram.table? tableId = some table)
    (inside : table.field? fieldId = some field) (same : patch.apply field = field) :
    ∃ again, session.edit (.updateField tableId fieldId patch) = .ok (again, .field field) ∧
      again.diagram = session.diagram := by
  obtain ⟨again, done, -, changed⟩ := edit_updateField_of_field? found inside patch
  rw [same] at done
  rw [Table.patched_eq_self inside same, Keyed.update_eq_self found rfl] at changed
  exact ⟨again, done, changed⟩

/-- A patch that was accepted is accepted again. It shows the same field, and changes nothing. -/
theorem edit_updateField_again {shown : Member}
    (done : session.edit (.updateField tableId fieldId patch) = .ok (next, shown)) :
    ∃ again, next.edit (.updateField tableId fieldId patch) = .ok (again, shown) ∧
      again.diagram = next.diagram := by
  obtain ⟨table, old, found, inside, rfl⟩ := exists_of_edit_updateField done
  exact edit_updateField_of_apply_eq found inside (patch.apply_apply old)

/-- A field that is there can be patched twice. -/
theorem edit_updateField_twice (found : session.diagram.table? tableId = some table)
    (inside : table.field? fieldId = some field) (first second : FieldPatch) :
    ∃ after final : Session,
      session.edit (.updateField tableId fieldId first) =
        .ok (after, .field (first.apply field)) ∧
      after.edit (.updateField tableId fieldId second) =
        .ok (final, .field (second.apply (first.apply field))) ∧
      final.diagram = { session.diagram with
        tables := Keyed.update
          (fun _ => (table.patched fieldId field first).patched fieldId (first.apply field) second)
          tableId session.diagram.tables } := by
  obtain ⟨after, once, foundAfter, diagramAfter⟩ := edit_updateField_of_field? found inside first
  obtain ⟨final, twice, -, diagramFinal⟩ :=
    edit_updateField_of_field? foundAfter (Table.field?_patched inside first) second
  have sameId : Keyed.key (table.patched fieldId field first) = tableId :=
    Keyed.key_of_find?_eq_some foundAfter
  refine ⟨after, final, once, twice, ?_⟩
  rw [diagramFinal, diagramAfter, Diagram.mk.injEq]
  exact ⟨rfl, rfl, Keyed.update_update found sameId, rfl, rfl, rfl⟩

/-- Two patches that name no attribute in common, and that lead to the same field in either order,
can be made in either order: the same field is shown at the end and the same diagram is left, the
indexes that follow a new name included. -/
theorem edit_updateField_comm (apart : first.Apart second)
    (either : second.apply (first.apply field) = first.apply (second.apply field))
    (found : session.diagram.table? tableId = some table)
    (inside : table.field? fieldId = some field) :
    ∃ (afterFirst afterSecond one other : Session) (both : Field),
      session.edit (.updateField tableId fieldId first) =
        .ok (afterFirst, .field (first.apply field)) ∧
      afterFirst.edit (.updateField tableId fieldId second) = .ok (one, .field both) ∧
      session.edit (.updateField tableId fieldId second) =
        .ok (afterSecond, .field (second.apply field)) ∧
      afterSecond.edit (.updateField tableId fieldId first) = .ok (other, .field both) ∧
      one.diagram = other.diagram := by
  have tables : (table.patched fieldId field first).patched fieldId (first.apply field) second =
      (table.patched fieldId field second).patched fieldId (second.apply field) first := by
    -- At most one of the two gives a name, and the other one is the patch that keeps it.
    cases named : second.name with
    | none => exact Table.patched_comm inside either (FieldPatch.name_apply_of_none named)
    | some name =>
        have unnamed : first.name = none := by
          have gives : second.gives .name = true := by rw [FieldPatch.gives, named]; rfl
          exact Option.not_isSome_iff_eq_none.mp fun given => apart .name ⟨given, gives⟩
        exact (Table.patched_comm inside either.symm
          (FieldPatch.name_apply_of_none unnamed)).symm
  obtain ⟨afterFirst, one, there, thereSecond, oneDiagram⟩ :=
    edit_updateField_twice found inside first second
  obtain ⟨afterSecond, other, here, hereFirst, otherDiagram⟩ :=
    edit_updateField_twice found inside second first
  rw [← either] at hereFirst
  exact ⟨afterFirst, afterSecond, one, other, _, there, thereSecond, here, hereFirst,
    by rw [oneDiagram, otherDiagram, tables]⟩

end Session

end EntityDiagram
