import EntityDiagram.Proofs.Session.Edit
import EntityDiagram.Session.Basic

/-!
# When a command is refused

Before a command changes anything it makes demands on the diagram: what it addresses must be there,
the id of a new member must be new, both sides of a new relationship must resolve. The demands of
each command are listed here in the order in which they are made. A command is refused exactly if a
demand is not met, with the refusal of the first such demand, and the whole session is then as it
was, history included.

An operation `Checks` its demands if it fails in just this way. Each operation that edits are made
of has a rule for that, and the rules compose, so that no edit has to be opened again.
-/

namespace EntityDiagram

/-- What a command can address. Fields and indexes are sought in the first table with the id. -/
inductive Address where
  | table (id : String)
  | field (tableId id : String)
  | index (tableId id : String)
  | relationship (id : String)
  | note (id : String)
  | area (id : String)
  deriving DecidableEq, Repr

namespace Address

/-- The id of what is addressed, within its collection. -/
def id : Address → String
  | table id => id
  | field _ id => id
  | index _ id => id
  | relationship id => id
  | note id => id
  | area id => id

/-- Whether there is something at the address. -/
def Taken (diagram : Diagram) : Address → Prop
  | table id => ∃ table ∈ diagram.tables, table.id = id
  | field tableId id =>
    ∃ table, diagram.table? tableId = some table ∧ ∃ field ∈ table.fields, field.id = id
  | index tableId id =>
    ∃ table, diagram.table? tableId = some table ∧ ∃ index ∈ table.indexes, index.id = id
  | relationship id => ∃ relationship ∈ diagram.relationships, relationship.id = id
  | note id => ∃ note ∈ diagram.notes, note.id = id
  | area id => ∃ area ∈ diagram.areas, area.id = id

/-- The refusal for an address where there is nothing. -/
def missing : Address → EditError
  | table id => .tableNotFound id
  | field tableId id => .fieldNotFound tableId id
  | index tableId id => .indexNotFound tableId id
  | relationship id => .relationshipNotFound id
  | note id => .noteNotFound id
  | area id => .areaNotFound id

@[simp] theorem isNotFound_missing (address : Address) : address.missing.isNotFound = true := by
  cases address <;> rfl

end Address

/-- Something that must hold of a diagram before a command changes it. -/
inductive Demand where
  /-- What is addressed must be there. -/
  | taken (address : Address)
  /-- What is to be added must not be there yet. -/
  | free (address : Address)
  /-- A side of a new relationship must name a field that is there. -/
  | resolved (endpoint : Endpoint)
  deriving DecidableEq, Repr

namespace Demand

/-- Whether a diagram meets a demand. -/
def Met (diagram : Diagram) : Demand → Prop
  | taken address => address.Taken diagram
  | free address => ¬ address.Taken diagram
  | resolved endpoint => diagram.resolves endpoint = true

/-- The refusal of a command whose demand is not met. -/
def refusal : Demand → EditError
  | taken address => address.missing
  | free address => .duplicateId address.id
  | resolved endpoint => .unresolvedEndpoint endpoint.tableId endpoint.fieldId

/-- Only a demand for something that is addressed is refused because it is not found. -/
theorem isNotFound_refusal_iff {demand : Demand} :
    demand.refusal.isNotFound = true ↔ ∃ address, demand = taken address := by
  cases demand with
  | taken address => simp [refusal]
  | free address => simp [refusal, EditError.isNotFound]
  | resolved endpoint => simp [refusal, EditError.isNotFound]

end Demand

/-- Whether the first demand that a diagram does not meet is refused with a cause. -/
def Refuses (diagram : Diagram) (demands : List Demand) (cause : EditError) : Prop :=
  ∃ met unmet later, demands = met ++ unmet :: later ∧ (∀ demand ∈ met, demand.Met diagram) ∧
    ¬ unmet.Met diagram ∧ unmet.refusal = cause

section Refuses

variable {diagram : Diagram} {demand : Demand} {rest : List Demand} {cause : EditError}

theorem not_refuses_nil : ¬ Refuses diagram [] cause := by
  rintro ⟨met, unmet, later, split, -⟩
  simp at split

theorem refuses_cons_of_unmet (unmet : ¬ demand.Met diagram) :
    Refuses diagram (demand :: rest) cause ↔ demand.refusal = cause := by
  constructor
  · rintro ⟨met, first, later, split, before, -, rfl⟩
    cases met with
    | nil => rw [(List.cons.inj split).1]
    | cons head tail =>
        rw [(List.cons.inj split).1] at unmet
        exact absurd (before head List.mem_cons_self) unmet
  · intro same
    exact ⟨[], demand, rest, rfl, by simp, unmet, same⟩

theorem refuses_cons_of_met (met : demand.Met diagram) :
    Refuses diagram (demand :: rest) cause ↔ Refuses diagram rest cause := by
  constructor
  · rintro ⟨before, unmet, later, split, fine, fails, same⟩
    cases before with
    | nil =>
        rw [(List.cons.inj split).1] at met
        exact absurd met fails
    | cons head tail =>
        exact ⟨tail, unmet, later, (List.cons.inj split).2,
          fun other member => fine other (List.mem_cons_of_mem _ member), fails, same⟩
  · rintro ⟨before, unmet, later, rfl, fine, fails, same⟩
    exact ⟨demand :: before, unmet, later, rfl, List.forall_mem_cons.mpr ⟨met, fine⟩, fails, same⟩

end Refuses

/-- A result that is refused by the first demand that is not met, and by nothing else. -/
def Checks {β : Type} (diagram : Diagram) (demands : List Demand) (result : Except EditError β) :
    Prop :=
  ∀ cause, result = .error cause ↔ Refuses diagram demands cause

namespace Checks

variable {diagram : Diagram} {demand : Demand} {demands rest : List Demand} {β γ : Type}
variable {result : Except EditError β}

theorem ok (b : β) : Checks diagram [] (.ok b : Except EditError β) := by
  intro cause
  simp [not_refuses_nil]

/-- The first demand is made first: unmet it decides, and met it leaves the rest to decide. -/
theorem first (unmet : ¬ demand.Met diagram → result = .error demand.refusal)
    (met : demand.Met diagram → Checks diagram rest result) :
    Checks diagram (demand :: rest) result := by
  intro cause
  by_cases h : demand.Met diagram
  · rw [refuses_cons_of_met h]
    exact met h cause
  · rw [refuses_cons_of_unmet h, unmet h, Except.error.injEq]

/-- What follows without failing changes nothing about the refusals. -/
theorem map (checks : Checks diagram demands result) (f : β → γ) :
    Checks diagram demands (result.map f) := by
  intro cause
  rw [← checks cause]
  cases result <;> simp [Except.map]

theorem bind (checks : Checks diagram demands result) (f : β → γ) :
    Checks diagram demands (result >>= fun b => .ok (f b)) :=
  checks.map f

theorem showing {whole : Type} {result : Except EditError (whole × β)}
    (checks : Checks diagram demands result) (member : β → Member) :
    Checks diagram demands (Edit.showing member result) :=
  checks.map _

theorem presenting (checks : Checks diagram demands result) (member : Member) :
    Checks diagram demands (Edit.presenting member result) :=
  checks.map _

end Checks

/-! ### Collections -/

/-- A collection whose members are what is at some addresses, one for each id. -/
structure Shelf.Serves {σ α : Type} [Keyed α] (shelf : Shelf σ α) (whole : σ) (diagram : Diagram)
    (address : String → Address) : Prop where
  taken : ∀ id, (address id).Taken diagram ↔ ∃ a ∈ shelf.items whole, Keyed.key a = id
  missing : ∀ id, shelf.missing id = (address id).missing
  id : ∀ id, (address id).id = id

namespace Shelf.Serves

variable {σ α : Type} [Keyed α] {shelf : Shelf σ α} {whole : σ} {diagram : Diagram}
variable {address : String → Address} {rest : List Demand} {β : Type}
variable {result : Except EditError β}

/-- An operation that looks up a member first demands that it is there. -/
theorem taken_first (serves : shelf.Serves whole diagram address) (id : String)
    (absent : Keyed.find? (shelf.items whole) id = none → result = .error (shelf.missing id))
    (found : ∀ a, Keyed.find? (shelf.items whole) id = some a → Checks diagram rest result) :
    Checks diagram (.taken (address id) :: rest) result := by
  have there := (serves.taken id).trans Keyed.find?_isSome_iff_exists.symm
  refine .first ?_ ?_
  · intro unmet
    rw [absent (Option.not_isSome_iff_eq_none.mp fun some => unmet (there.mpr some)),
      serves.missing]
    rfl
  · intro met
    obtain ⟨a, some⟩ := Option.isSome_iff_exists.mp (there.mp met)
    exact found a some

/-- An operation that looks for a clash first demands that the id is new. -/
theorem free_first (serves : shelf.Serves whole diagram address) (id : String)
    (clash : Keyed.contains (shelf.items whole) id = true → result = .error (.duplicateId id))
    (new : Keyed.contains (shelf.items whole) id = false → Checks diagram rest result) :
    Checks diagram (.free (address id) :: rest) result := by
  have there := (serves.taken id).trans Keyed.contains_iff.symm
  refine .first ?_ ?_
  · intro unmet
    rw [clash (there.mp (not_not.mp unmet)), Demand.refusal, serves.id]
  · intro met
    exact new (Bool.eq_false_iff.mpr fun contained => met (there.mpr contained))

theorem add (serves : shelf.Serves whole diagram address) (a : α) :
    Checks diagram [.free (address (Keyed.key a))] (shelf.add a whole) := by
  refine serves.free_first _ ?_ ?_
  · intro clash
    rw [Shelf.add, clash, if_pos rfl]
  · intro new
    rw [Shelf.add, new]
    exact .ok _

theorem update (serves : shelf.Serves whole diagram address) (id : String) (f : α → α) :
    Checks diagram [.taken (address id)] (shelf.update id f whole) := by
  refine serves.taken_first id ?_ ?_
  · intro absent
    rw [Shelf.update, absent]
  · intro a found
    rw [Shelf.update, found]
    exact .ok _

theorem delete (serves : shelf.Serves whole diagram address) (id : String) :
    Checks diagram [.taken (address id)] (shelf.delete id whole) := by
  refine serves.taken_first id ?_ ?_
  · intro absent
    rw [Shelf.delete, absent]
  · intro a found
    rw [Shelf.delete, found]
    exact .ok _

theorem reorder (serves : shelf.Serves whole diagram address) (id : String) (target : Nat) :
    Checks diagram [.taken (address id)] (shelf.reorder id target whole) := by
  have same : (Keyed.find? (shelf.items whole) id).isSome = Keyed.contains (shelf.items whole) id :=
    Bool.eq_iff_iff.mpr Keyed.find?_isSome_iff
  refine serves.taken_first id ?_ ?_
  · intro absent
    rw [Shelf.reorder, ← same, absent]
    rfl
  · intro a found
    rw [Shelf.reorder, ← same, found]
    exact .ok _

end Shelf.Serves

namespace Table

variable {diagram : Diagram} {table : Table} {tableId : String}

theorem fieldShelf_serves (found : diagram.table? tableId = some table) :
    table.fieldShelf.Serves table diagram (.field tableId) where
  taken id := by simp [Address.Taken, found, fieldShelf]
  missing id := by
    have same : table.id = tableId := Keyed.key_of_find?_eq_some found
    simp [fieldShelf, Address.missing, same]
  id _ := rfl

theorem indexShelf_serves (found : diagram.table? tableId = some table) :
    table.indexShelf.Serves table diagram (.index tableId) where
  taken id := by simp [Address.Taken, found, indexShelf]
  missing id := by
    have same : table.id = tableId := Keyed.key_of_find?_eq_some found
    simp [indexShelf, Address.missing, same]
  id _ := rfl

theorem checks_updateField (found : diagram.table? tableId = some table) (id : String)
    (patch : FieldPatch) :
    Checks diagram [.taken (.field tableId id)] (table.updateField id patch) := by
  refine (fieldShelf_serves found).taken_first id ?_ ?_
  · intro absent
    have none : table.field? id = none := absent
    rw [updateField, none]
    rfl
  · intro field inside
    have some : table.field? id = some field := inside
    rw [updateField, some]
    exact .ok _

theorem checks_deleteField (found : diagram.table? tableId = some table) (id : String) :
    Checks diagram [.taken (.field tableId id)] (table.deleteField id) :=
  ((fieldShelf_serves found).delete id).bind _

end Table

namespace Diagram

variable (diagram : Diagram)

theorem tableShelf_serves : tableShelf.Serves diagram diagram .table where
  taken _ := Iff.rfl
  missing _ := rfl
  id _ := rfl

theorem relationshipShelf_serves :
    relationshipShelf.Serves diagram diagram .relationship where
  taken _ := Iff.rfl
  missing _ := rfl
  id _ := rfl

theorem noteShelf_serves : noteShelf.Serves diagram diagram .note where
  taken _ := Iff.rfl
  missing _ := rfl
  id _ := rfl

theorem areaShelf_serves : areaShelf.Serves diagram diagram .area where
  taken _ := Iff.rfl
  missing _ := rfl
  id _ := rfl

/-- A change inside a table demands the table before anything else. -/
theorem checks_inTable {β : Type} {tableId : String}
    {change : Table → Except EditError (Table × β)} {rest : List Demand}
    (inside : ∀ table, diagram.table? tableId = some table → Checks diagram rest (change table)) :
    Checks diagram (.taken (.table tableId) :: rest) (diagram.inTable tableId change) := by
  refine diagram.tableShelf_serves.taken_first tableId ?_ ?_
  · intro absent
    have none : diagram.table? tableId = none := absent
    rw [inTable, none]
    rfl
  · intro table found
    have some : diagram.table? tableId = some table := found
    rw [inTable, some]
    exact (inside table some).bind _

theorem checks_addRelationship (relationship : Relationship) :
    Checks diagram
      [.free (.relationship relationship.id), .resolved relationship.start,
        .resolved relationship.target]
      (diagram.addRelationship relationship) := by
  refine diagram.relationshipShelf_serves.free_first relationship.id ?_ ?_
  · intro clash
    have there : Keyed.contains diagram.relationships relationship.id = true := clash
    rw [addRelationship, there, if_pos rfl]
  intro new
  have free : Keyed.contains diagram.relationships relationship.id = false := new
  rw [addRelationship, free]
  refine .first ?_ ?_
  · intro unmet
    have gone : diagram.resolves relationship.start = false := Bool.eq_false_iff.mpr unmet
    simp [requireEndpoint, gone, Demand.refusal, bind, Except.bind]
  intro start
  have startFound : diagram.resolves relationship.start = true := start
  refine .first ?_ ?_
  · intro unmet
    have gone : diagram.resolves relationship.target = false := Bool.eq_false_iff.mpr unmet
    simp [requireEndpoint, startFound, gone, Demand.refusal, bind, Except.bind]
  intro target
  have targetFound : diagram.resolves relationship.target = true := target
  simp only [requireEndpoint, startFound, targetFound, if_true, bind_ok, Bool.false_eq_true,
    if_false]
  exact .ok _

end Diagram

/-! ### Commands -/

/-- What an edit demands of a diagram, in the order in which it does. -/
def Edit.demands : Edit → List Demand
  | setTitle _ => []
  | setDialect _ => []
  | addTable table => [.free (.table table.id)]
  | updateTable id _ => [.taken (.table id)]
  | deleteTable id => [.taken (.table id)]
  | reorderTable id _ => [.taken (.table id)]
  | addField tableId field => [.taken (.table tableId), .free (.field tableId field.id)]
  | updateField tableId id _ => [.taken (.table tableId), .taken (.field tableId id)]
  | setFieldDefault tableId id _ => [.taken (.table tableId), .taken (.field tableId id)]
  | deleteField tableId id => [.taken (.table tableId), .taken (.field tableId id)]
  | reorderField tableId id _ => [.taken (.table tableId), .taken (.field tableId id)]
  | addIndex tableId index => [.taken (.table tableId), .free (.index tableId index.id)]
  | updateIndex tableId id _ => [.taken (.table tableId), .taken (.index tableId id)]
  | deleteIndex tableId id => [.taken (.table tableId), .taken (.index tableId id)]
  | reorderIndex tableId id _ => [.taken (.table tableId), .taken (.index tableId id)]
  | addRelationship relationship =>
    [.free (.relationship relationship.id), .resolved relationship.start,
      .resolved relationship.target]
  | updateRelationship id _ => [.taken (.relationship id)]
  | deleteRelationship id => [.taken (.relationship id)]
  | reorderRelationship id _ => [.taken (.relationship id)]
  | addNote note => [.free (.note note.id)]
  | updateNote id _ => [.taken (.note id)]
  | deleteNote id => [.taken (.note id)]
  | reorderNote id _ => [.taken (.note id)]
  | addArea area => [.free (.area area.id)]
  | updateArea id _ => [.taken (.area id)]
  | deleteArea id => [.taken (.area id)]
  | reorderArea id _ => [.taken (.area id)]

/-- The address of something that can be moved. -/
def Movable.address : Movable → String → Address
  | table => .table
  | note => .note
  | area => .area

/-- What a command demands of the live diagram, in the order in which it does. Stepping through the
history and loading a diagram demand nothing. -/
def Command.demands : Command → List Demand
  | .edit change => change.demands
  | .move kind id _ => [.taken (kind.address id)]
  | .undo => []
  | .redo => []
  | .load _ => []

/-- Every edit checks what it demands. -/
theorem Edit.checks_demands (diagram : Diagram) (edit : Edit) :
    Checks diagram edit.demands (edit.apply diagram) := by
  cases edit with
  | setTitle title => exact .ok _
  | setDialect dialect => exact .ok _
  | addTable table => exact (diagram.tableShelf_serves.add table).presenting _
  | updateTable id patch => exact (diagram.tableShelf_serves.update id patch.apply).showing _
  | deleteTable id => exact ((diagram.tableShelf_serves.delete id).bind _).showing _
  | reorderTable id target => exact (diagram.tableShelf_serves.reorder id target).presenting _
  | addField tableId field =>
      exact diagram.checks_inTable fun table found =>
        ((Table.fieldShelf_serves found).add field).presenting _
  | updateField tableId id patch =>
      exact diagram.checks_inTable fun table found =>
        (Table.checks_updateField found id patch).showing _
  | setFieldDefault tableId id raw =>
      exact diagram.checks_inTable fun table found =>
        (Table.checks_updateField found id (diagram.defaultPatch raw)).showing _
  | deleteField tableId id =>
      have inside : Checks diagram _ (diagram.inTable tableId (Table.deleteField id)) :=
        diagram.checks_inTable fun table found => Table.checks_deleteField found id
      exact (inside.bind _).showing _
  | reorderField tableId id target =>
      exact diagram.checks_inTable fun table found =>
        ((Table.fieldShelf_serves found).reorder id target).presenting _
  | addIndex tableId index =>
      exact diagram.checks_inTable fun table found =>
        ((Table.indexShelf_serves found).add index).presenting _
  | updateIndex tableId id patch =>
      exact diagram.checks_inTable fun table found =>
        ((Table.indexShelf_serves found).update id patch.apply).showing _
  | deleteIndex tableId id =>
      exact diagram.checks_inTable fun table found =>
        ((Table.indexShelf_serves found).delete id).showing _
  | reorderIndex tableId id target =>
      exact diagram.checks_inTable fun table found =>
        ((Table.indexShelf_serves found).reorder id target).presenting _
  | addRelationship relationship =>
      exact (diagram.checks_addRelationship relationship).presenting _
  | updateRelationship id patch =>
      exact (diagram.relationshipShelf_serves.update id patch.apply).showing _
  | deleteRelationship id => exact (diagram.relationshipShelf_serves.delete id).showing _
  | reorderRelationship id target =>
      exact (diagram.relationshipShelf_serves.reorder id target).presenting _
  | addNote note => exact (diagram.noteShelf_serves.add note).presenting _
  | updateNote id patch => exact (diagram.noteShelf_serves.update id patch.apply).showing _
  | deleteNote id => exact (diagram.noteShelf_serves.delete id).showing _
  | reorderNote id target => exact (diagram.noteShelf_serves.reorder id target).presenting _
  | addArea area => exact (diagram.areaShelf_serves.add area).presenting _
  | updateArea id patch => exact (diagram.areaShelf_serves.update id patch.apply).showing _
  | deleteArea id => exact (diagram.areaShelf_serves.delete id).showing _
  | reorderArea id target => exact (diagram.areaShelf_serves.reorder id target).presenting _

/-- Moving something demands that it is there. -/
theorem Diagram.checks_move (diagram : Diagram) (kind : Movable) (id : String)
    (position : Position) :
    Checks diagram [.taken (kind.address id)] (diagram.move kind id position) := by
  cases kind with
  | table => exact (diagram.tableShelf_serves.update id _).map _
  | note => exact (diagram.noteShelf_serves.update id _).map _
  | area => exact (diagram.areaShelf_serves.update id _).map _

namespace Session

variable (session : Session)

/-- Every command checks what it demands of the live diagram. -/
theorem checks_perform (command : Command) :
    Checks session.diagram command.demands (session.perform command).2 := by
  cases command with
  | edit edit =>
      intro cause
      refine Iff.trans ?_ (edit.checks_demands session.diagram cause)
      simp only [perform, Session.edit]
      cases edit.apply session.diagram <;> simp [Except.map]
  | move kind id position =>
      intro cause
      refine Iff.trans ?_ (session.diagram.checks_move kind id position cause)
      simp only [perform, Session.move]
      cases session.diagram.move kind id position <;> simp [Except.map]
  | undo =>
      simp only [perform, Command.demands]
      split <;> exact Checks.ok _
  | redo =>
      simp only [perform, Command.demands]
      split <;> exact Checks.ok _
  | load diagram => exact Checks.ok (Answer.member .none)

/-- A refused command leaves the session as it was. -/
theorem perform_fst_of_error {command : Command} {cause : EditError}
    (refused : (session.perform command).2 = .error cause) :
    (session.perform command).1 = session := by
  cases command with
  | edit edit =>
      simp only [perform] at refused ⊢
      split at refused
      · cases refused
      · rfl
  | move kind id position =>
      simp only [perform] at refused ⊢
      split at refused
      · cases refused
      · rfl
  | undo =>
      simp only [perform] at refused
      split at refused <;> cases refused
  | redo =>
      simp only [perform] at refused
      split at refused <;> cases refused
  | load diagram => cases refused

/-- A command is refused exactly if it demands something that the live diagram does not meet, and
the cause is that of the first such demand: something addressed is not there, which is what "not
found" says, or an id is not new, or a side of a new relationship does not resolve. Then the live
diagram and the history, with its entries, its mark and its capacity, are as before. -/
theorem perform_refused_iff (command : Command) (cause : EditError) :
    ((session.perform command).2 = .error cause ↔
      ∃ met unmet later, command.demands = met ++ unmet :: later ∧
        (∀ demand ∈ met, demand.Met session.diagram) ∧ ¬ unmet.Met session.diagram ∧
        unmet.refusal = cause ∧ (cause.isNotFound = true ↔ ∃ address, unmet = .taken address)) ∧
      ((session.perform command).2 = .error cause → (session.perform command).1 = session) := by
  refine ⟨(session.checks_perform command cause).trans ?_, session.perform_fst_of_error⟩
  constructor
  · rintro ⟨met, unmet, later, split, fine, fails, rfl⟩
    exact ⟨met, unmet, later, split, fine, fails, rfl, Demand.isNotFound_refusal_iff⟩
  · rintro ⟨met, unmet, later, split, fine, fails, same, -⟩
    exact ⟨met, unmet, later, split, fine, fails, same⟩

/-- With a title to be restored, a new relationship between two fields that are not there is refused
for its start, and the title can still be restored. -/
theorem perform_refused_after_undo :
    let session := (start {} 1).run [.edit (.setTitle "restored"), .undo]
    let command : Command :=
      .edit (.addRelationship (.between "r" ⟨"orders", "user_id"⟩ ⟨"users", "id"⟩))
    (session.perform command).2 = .error (.unresolvedEndpoint "orders" "user_id") ∧
      (session.perform command).1 = session ∧
      (session.perform .redo).1.diagram.title = "restored" := by
  intro session command
  have refused : (session.perform command).2 =
      .error (.unresolvedEndpoint "orders" "user_id") := by decide
  exact ⟨refused, (session.perform_refused_iff command _).2 refused, by decide⟩

end Session

end EntityDiagram
