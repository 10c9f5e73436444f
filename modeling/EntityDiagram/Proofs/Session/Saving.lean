import EntityDiagram.Proofs.Session.Run
import EntityDiagram.Proofs.Snapshot.Acceptance

/-!
# What is saved can be loaded

The coordinates and sizes of a diagram come from what was put on the canvas, what was moved and what
was resized; no edit makes up a number. So a property of the numbers that commands bring along is
one of all numbers in the session, and what a session saves can be loaded as long as commands bring
only finite numbers.
-/

namespace EntityDiagram

/-! ### Where numbers come from -/

namespace Shelf

variable {σ α : Type} {shelf : Shelf σ α} {whole next : σ} {id : String}
  {floats : α → List Float} {brought : List Float}

/-- A whole with other members on a shelf, whose numbers were there or are brought along. -/
def KeepsFloats (shelf : Shelf σ α) (floats : α → List Float) (brought : List Float)
    (whole next : σ) : Prop :=
  ∃ items, next = shelf.withItems whole items ∧
    items.flatMap floats ⊆ (shelf.items whole).flatMap floats ++ brought

/-- It is enough to look at every member by itself. -/
private theorem keepsFloats_of_members {items : List α}
    (same : next = shelf.withItems whole items)
    (members : ∀ a ∈ items, floats a ⊆ (shelf.items whole).flatMap floats ++ brought) :
    shelf.KeepsFloats floats brought whole next := by
  refine ⟨items, same, ?_⟩
  intro x listed
  obtain ⟨a, member, inside⟩ := List.mem_flatMap.mp listed
  exact members a member inside

private theorem floats_subset {items : List α} {a : α} (member : a ∈ items) :
    floats a ⊆ items.flatMap floats ++ brought := by
  intro x inside
  exact List.mem_append_left _ (List.mem_flatMap_of_mem member inside)

variable [Keyed α]

theorem keepsFloats_add {a : α} (done : shelf.add a whole = .ok next) :
    shelf.KeepsFloats floats (floats a) whole next := by
  obtain ⟨_, same⟩ := add_eq_ok_iff.mp done
  refine keepsFloats_of_members same fun b member => ?_
  rcases List.mem_append.mp member with old | new
  · exact floats_subset old
  · rw [List.mem_singleton.mp new]
    exact List.subset_append_right _ _

theorem keepsFloats_update {f : α → α} {a : α}
    (changed : ∀ a, floats (f a) ⊆ floats a ++ brought)
    (done : shelf.update id f whole = .ok (next, a)) :
    shelf.KeepsFloats floats brought whole next := by
  obtain ⟨_, _, same, _⟩ := update_eq_ok_iff.mp done
  refine keepsFloats_of_members same fun b member => ?_
  rcases Keyed.mem_update member with old | ⟨before, found, rfl⟩
  · exact floats_subset old
  · intro x inside
    rcases List.mem_append.mp (changed before inside) with kept | new
    · exact floats_subset (Keyed.mem_of_find?_eq_some found) kept
    · exact List.mem_append_right _ new

theorem keepsFloats_delete {a : α} (done : shelf.delete id whole = .ok (next, a)) :
    shelf.KeepsFloats floats [] whole next := by
  obtain ⟨_, same⟩ := delete_eq_ok_iff.mp done
  refine keepsFloats_of_members same fun b member => ?_
  exact floats_subset ((Keyed.erase_sublist _ _).mem member)

theorem keepsFloats_reorder {target : Nat} (done : shelf.reorder id target whole = .ok next) :
    shelf.KeepsFloats floats [] whole next := by
  obtain ⟨_, same⟩ := reorder_eq_ok_iff.mp done
  refine keepsFloats_of_members same fun b member => ?_
  exact floats_subset ((Keyed.reorder_perm _ _ _).mem_iff.mp member)

end Shelf

/-- The number of a table. -/
def Table.floats (table : Table) : List Float := table.position.floats

/-- The numbers that an edit brings along. -/
def Edit.floats : Edit → List Float
  | .addTable table => table.floats
  | .addNote note => note.floats
  | .updateNote _ patch => patch.height.toList
  | .addArea area => area.floats
  | .updateArea _ patch => patch.width.toList ++ patch.height.toList
  | _ => []

/-- The numbers that a command brings along. -/
def Command.floats : Command → List Float
  | .edit change => change.floats
  | .move _ _ position => position.floats
  | .load diagram => diagram.floats
  | _ => []

namespace Table

theorem position_renameColumn (table : Table) (old new : String) :
    (table.renameColumn old new).position = table.position := by
  unfold renameColumn
  split <;> rfl

theorem position_forgetColumn (table : Table) (name : String) :
    (table.forgetColumn name).position = table.position := by
  unfold forgetColumn
  split <;> rfl

variable {table next : Table} {id : String} {field : Field}

theorem position_updateField {patch : FieldPatch}
    (done : table.updateField id patch = .ok (next, field)) : next.position = table.position := by
  obtain ⟨old, _, _, rfl⟩ := updateField_eq_ok_iff.mp done
  exact position_renameColumn _ _ _

theorem position_deleteField (done : table.deleteField id = .ok (next, field)) :
    next.position = table.position := by
  obtain ⟨_, rfl⟩ := deleteField_eq_ok_iff.mp done
  exact position_forgetColumn _ _

end Table

theorem NotePatch.floats_apply (patch : NotePatch) (note : Note) :
    (patch.apply note).floats ⊆ note.floats ++ patch.height.toList := by
  cases h : patch.height <;> simp [NotePatch.apply, Note.floats, h]

theorem AreaPatch.floats_apply (patch : AreaPatch) (area : Area) :
    (patch.apply area).floats ⊆ area.floats ++ (patch.width.toList ++ patch.height.toList) := by
  cases w : patch.width <;> cases h : patch.height <;>
    simp [AreaPatch.apply, Area.floats, w, h]

namespace Diagram

variable {diagram next : Diagram} {brought : List Float}

/-- A diagram all of whose numbers were there or are brought along. -/
def KeepsFloats (brought : List Float) (diagram next : Diagram) : Prop :=
  next.floats ⊆ diagram.floats ++ brought

theorem KeepsFloats.of_eq (same : next.floats = diagram.floats) :
    KeepsFloats brought diagram next := by
  rw [KeepsFloats, same]
  exact List.subset_append_left _ _

theorem mem_floats {x : Float} :
    x ∈ diagram.floats ↔ x ∈ diagram.tables.flatMap Table.floats ∨
      x ∈ diagram.notes.flatMap Note.floats ∨ x ∈ diagram.areas.flatMap Area.floats := by
  simp only [floats, List.mem_append, or_assoc]
  rfl

theorem KeepsFloats.of_tables (kept : tableShelf.KeepsFloats Table.floats brought diagram next) :
    KeepsFloats brought diagram next := by
  obtain ⟨tables, rfl, subset⟩ := kept
  intro x listed
  rw [List.mem_append, mem_floats]
  rcases mem_floats.mp listed with table | elsewhere
  · exact (List.mem_append.mp (subset table)).imp_left .inl
  · exact .inl (.inr elsewhere)

theorem KeepsFloats.of_notes (kept : noteShelf.KeepsFloats Note.floats brought diagram next) :
    KeepsFloats brought diagram next := by
  obtain ⟨notes, rfl, subset⟩ := kept
  intro x listed
  rw [List.mem_append, mem_floats]
  rcases mem_floats.mp listed with table | note | area
  · exact .inl (.inl table)
  · exact (List.mem_append.mp (subset note)).imp_left fun old => .inr (.inl old)
  · exact .inl (.inr (.inr area))

theorem KeepsFloats.of_areas (kept : areaShelf.KeepsFloats Area.floats brought diagram next) :
    KeepsFloats brought diagram next := by
  obtain ⟨areas, rfl, subset⟩ := kept
  intro x listed
  rw [List.mem_append, mem_floats]
  rcases mem_floats.mp listed with table | note | area
  · exact .inl (.inl table)
  · exact .inl (.inr (.inl note))
  · exact (List.mem_append.mp (subset area)).imp_left fun old => .inr (.inr old)

/-- Nothing inside a table has numbers. -/
theorem KeepsFloats.inTable {β : Type} {tableId : String}
    {change : Table → Except EditError (Table × β)} {b : β}
    (kept : ∀ table changed b, change table = .ok (changed, b) →
      changed.position = table.position)
    (done : diagram.inTable tableId change = .ok (next, b)) :
    KeepsFloats brought diagram next := by
  obtain ⟨table, changed, found, inside, rfl⟩ := inTable_eq_ok_iff.mp done
  have tables : (Keyed.update (fun _ => changed) tableId diagram.tables).map Table.floats =
      diagram.tables.map Table.floats := by
    refine Keyed.map_update_of_find? fun other again => ?_
    obtain rfl : table = other := Option.some.inj (found.symm.trans again)
    exact congrArg Position.floats (kept table changed b inside)
  refine .of_eq ?_
  show ((Keyed.update (fun _ => changed) tableId diagram.tables).flatMap Table.floats ++ _) ++ _ =
    (diagram.tables.flatMap Table.floats ++ _) ++ _
  rw [List.flatMap_def, tables, ← List.flatMap_def]

/-- The numbers after an edit were there before it, or it brought them along. -/
theorem KeepsFloats.apply {edit : Edit} {shown : Member}
    (done : edit.apply diagram = .ok (next, shown)) : KeepsFloats edit.floats diagram next := by
  cases edit with
  | setTitle title =>
      cases done
      exact .of_eq rfl
  | setDialect dialect =>
      cases done
      exact .of_eq rfl
  | addTable table =>
      exact .of_tables (Shelf.keepsFloats_add (Edit.presenting_eq_ok_iff.mp done).1)
  | updateTable id patch =>
      obtain ⟨_, updated, _⟩ := Edit.showing_eq_ok_iff.mp done
      refine .of_tables (Shelf.keepsFloats_update (fun table => ?_) updated)
      exact List.subset_append_left _ _
  | deleteTable id =>
      obtain ⟨_, deleted, _⟩ := Edit.showing_eq_ok_iff.mp done
      obtain ⟨found, rfl⟩ := deleteTable_eq_ok_iff.mp deleted
      have erased : tableShelf.delete id diagram = .ok (_, _) :=
        Shelf.delete_eq_ok_iff.mpr ⟨found, rfl⟩
      have kept := KeepsFloats.of_tables (Shelf.keepsFloats_delete erased)
      exact kept
  | reorderTable id target =>
      exact .of_tables (Shelf.keepsFloats_reorder (Edit.presenting_eq_ok_iff.mp done).1)
  | addField tableId field =>
      refine .inTable (fun table changed b added => ?_) done
      obtain ⟨_, rfl⟩ := Shelf.add_eq_ok_iff.mp (Edit.presenting_eq_ok_iff.mp added).1
      rfl
  | updateField tableId id patch =>
      refine .inTable (fun table changed b inside => ?_) done
      obtain ⟨_, updated, _⟩ := Edit.showing_eq_ok_iff.mp inside
      exact Table.position_updateField updated
  | setFieldDefault tableId id raw =>
      refine .inTable (fun table changed b inside => ?_) done
      obtain ⟨_, updated, _⟩ := Edit.showing_eq_ok_iff.mp inside
      exact Table.position_updateField updated
  | deleteField tableId id =>
      obtain ⟨_, deleted, _⟩ := Edit.showing_eq_ok_iff.mp done
      obtain ⟨rest, inside, rfl⟩ := deleteField_eq_ok_iff.mp deleted
      have kept : KeepsFloats [] diagram rest :=
        .inTable (fun table changed b removed => Table.position_deleteField removed) inside
      exact kept
  | reorderField tableId id target =>
      refine .inTable (fun table changed b moved => ?_) done
      obtain ⟨_, rfl⟩ := Shelf.reorder_eq_ok_iff.mp (Edit.presenting_eq_ok_iff.mp moved).1
      rfl
  | addIndex tableId index =>
      refine .inTable (fun table changed b added => ?_) done
      obtain ⟨_, rfl⟩ := Shelf.add_eq_ok_iff.mp (Edit.presenting_eq_ok_iff.mp added).1
      rfl
  | updateIndex tableId id patch =>
      refine .inTable (fun table changed b inside => ?_) done
      obtain ⟨_, updated, _⟩ := Edit.showing_eq_ok_iff.mp inside
      obtain ⟨_, _, rfl, _⟩ := Shelf.update_eq_ok_iff.mp updated
      rfl
  | deleteIndex tableId id =>
      refine .inTable (fun table changed b inside => ?_) done
      obtain ⟨_, deleted, _⟩ := Edit.showing_eq_ok_iff.mp inside
      obtain ⟨_, rfl⟩ := Shelf.delete_eq_ok_iff.mp deleted
      rfl
  | reorderIndex tableId id target =>
      refine .inTable (fun table changed b moved => ?_) done
      obtain ⟨_, rfl⟩ := Shelf.reorder_eq_ok_iff.mp (Edit.presenting_eq_ok_iff.mp moved).1
      rfl
  | addRelationship relationship =>
      obtain ⟨_, _, _, rfl⟩ :=
        addRelationship_eq_ok_iff.mp (Edit.presenting_eq_ok_iff.mp done).1
      exact .of_eq rfl
  | updateRelationship id patch =>
      obtain ⟨_, updated, _⟩ := Edit.showing_eq_ok_iff.mp done
      obtain ⟨_, _, rfl, _⟩ := Shelf.update_eq_ok_iff.mp updated
      exact .of_eq rfl
  | deleteRelationship id =>
      obtain ⟨_, deleted, _⟩ := Edit.showing_eq_ok_iff.mp done
      obtain ⟨_, rfl⟩ := Shelf.delete_eq_ok_iff.mp deleted
      exact .of_eq rfl
  | reorderRelationship id target =>
      obtain ⟨_, rfl⟩ := Shelf.reorder_eq_ok_iff.mp (Edit.presenting_eq_ok_iff.mp done).1
      exact .of_eq rfl
  | addNote note =>
      exact .of_notes (Shelf.keepsFloats_add (Edit.presenting_eq_ok_iff.mp done).1)
  | updateNote id patch =>
      obtain ⟨_, updated, _⟩ := Edit.showing_eq_ok_iff.mp done
      exact .of_notes (Shelf.keepsFloats_update patch.floats_apply updated)
  | deleteNote id =>
      obtain ⟨_, deleted, _⟩ := Edit.showing_eq_ok_iff.mp done
      exact .of_notes (Shelf.keepsFloats_delete deleted)
  | reorderNote id target =>
      exact .of_notes (Shelf.keepsFloats_reorder (Edit.presenting_eq_ok_iff.mp done).1)
  | addArea area =>
      exact .of_areas (Shelf.keepsFloats_add (Edit.presenting_eq_ok_iff.mp done).1)
  | updateArea id patch =>
      obtain ⟨_, updated, _⟩ := Edit.showing_eq_ok_iff.mp done
      exact .of_areas (Shelf.keepsFloats_update patch.floats_apply updated)
  | deleteArea id =>
      obtain ⟨_, deleted, _⟩ := Edit.showing_eq_ok_iff.mp done
      exact .of_areas (Shelf.keepsFloats_delete deleted)
  | reorderArea id target =>
      exact .of_areas (Shelf.keepsFloats_reorder (Edit.presenting_eq_ok_iff.mp done).1)

/-- Moving something brings its new place along. -/
theorem KeepsFloats.move {kind : Movable} {id : String} {position : Position}
    (done : diagram.move kind id position = .ok next) :
    KeepsFloats position.floats diagram next := by
  cases kind with
  | table =>
      obtain ⟨⟨_, _⟩, moved, rfl⟩ := map_eq_ok_iff.mp done
      refine .of_tables (Shelf.keepsFloats_update (fun table => ?_) moved)
      exact List.subset_append_right _ _
  | note =>
      obtain ⟨⟨_, _⟩, moved, rfl⟩ := map_eq_ok_iff.mp done
      refine .of_notes (Shelf.keepsFloats_update (fun note x inside => ?_) moved)
      simp only [Note.floats, List.mem_append] at inside ⊢
      tauto
  | area =>
      obtain ⟨⟨_, _⟩, moved, rfl⟩ := map_eq_ok_iff.mp done
      refine .of_areas (Shelf.keepsFloats_update (fun area x inside => ?_) moved)
      simp only [Area.floats, List.mem_append] at inside ⊢
      tauto

end Diagram

/-- A command keeps a property of numbers if the numbers that it brings along have it. -/
theorem Command.keeps_floats {P : Float → Prop} {command : Command}
    (brings : ∀ x ∈ command.floats, P x) :
    command.Keeps fun diagram => ∀ x ∈ diagram.floats, P x := by
  have followed : ∀ {diagram next : Diagram}, (∀ x ∈ diagram.floats, P x) →
      Diagram.KeepsFloats command.floats diagram next → ∀ x ∈ next.floats, P x := by
    intro diagram next before kept x listed
    rcases List.mem_append.mp (kept listed) with old | new
    · exact before x old
    · exact brings x new
  cases command with
  | edit change => exact fun diagram next shown before done => followed before (.apply done)
  | move kind id position => exact fun diagram next before done => followed before (.move done)
  | undo => trivial
  | redo => trivial
  | load loaded => exact brings

/-! ### Nothing that is brought along is lost -/

namespace Shelf

variable {σ α : Type} {shelf : Shelf σ α} {whole next : σ} {id : String} {a : α}
  {floats : α → List Float} {brought : List Float}

/-- A whole with other members on a shelf, among whose numbers are some that are brought along. -/
def BringsFloats (shelf : Shelf σ α) (floats : α → List Float) (brought : List Float)
    (whole next : σ) : Prop :=
  ∃ items, next = shelf.withItems whole items ∧ brought ⊆ items.flatMap floats

variable [Keyed α]

theorem bringsFloats_add (done : shelf.add a whole = .ok next) :
    shelf.BringsFloats floats (floats a) whole next := by
  obtain ⟨_, same⟩ := add_eq_ok_iff.mp done
  have added : a ∈ shelf.items whole ++ [a] := by simp
  exact ⟨_, same, fun x inside => List.mem_flatMap_of_mem added inside⟩

theorem bringsFloats_update {f : α → α} (changed : ∀ a, brought ⊆ floats (f a))
    (done : shelf.update id f whole = .ok (next, a)) :
    shelf.BringsFloats floats brought whole next := by
  obtain ⟨old, found, same, _⟩ := update_eq_ok_iff.mp done
  have updated := Keyed.mem_update_self (f := f) found
  exact ⟨_, same, fun x inside => List.mem_flatMap_of_mem updated (changed old inside)⟩

end Shelf

theorem NotePatch.subset_floats_apply (patch : NotePatch) (note : Note) :
    patch.height.toList ⊆ (patch.apply note).floats := by
  cases h : patch.height <;> simp [NotePatch.apply, Note.floats, h]

theorem AreaPatch.subset_floats_apply (patch : AreaPatch) (area : Area) :
    patch.width.toList ++ patch.height.toList ⊆ (patch.apply area).floats := by
  cases w : patch.width <;> cases h : patch.height <;>
    simp [AreaPatch.apply, Area.floats, w, h]

namespace Diagram

variable {diagram next : Diagram} {brought : List Float}

theorem subset_floats_of_tables
    (brings : tableShelf.BringsFloats Table.floats brought diagram next) :
    brought ⊆ next.floats := by
  obtain ⟨_, rfl, subset⟩ := brings
  exact fun x inside => mem_floats.mpr (.inl (subset inside))

theorem subset_floats_of_notes
    (brings : noteShelf.BringsFloats Note.floats brought diagram next) :
    brought ⊆ next.floats := by
  obtain ⟨_, rfl, subset⟩ := brings
  exact fun x inside => mem_floats.mpr (.inr (.inl (subset inside)))

theorem subset_floats_of_areas
    (brings : areaShelf.BringsFloats Area.floats brought diagram next) :
    brought ⊆ next.floats := by
  obtain ⟨_, rfl, subset⟩ := brings
  exact fun x inside => mem_floats.mpr (.inr (.inr (subset inside)))

/-- The numbers that an edit brings along are there after it. -/
theorem subset_floats_of_apply {edit : Edit} {shown : Member}
    (done : edit.apply diagram = .ok (next, shown)) : edit.floats ⊆ next.floats := by
  cases edit with
  | addTable table =>
      show table.floats ⊆ _
      exact subset_floats_of_tables (Shelf.bringsFloats_add (Edit.presenting_eq_ok_iff.mp done).1)
  | addNote note =>
      show note.floats ⊆ _
      exact subset_floats_of_notes (Shelf.bringsFloats_add (Edit.presenting_eq_ok_iff.mp done).1)
  | updateNote id patch =>
      obtain ⟨_, updated, _⟩ := Edit.showing_eq_ok_iff.mp done
      exact subset_floats_of_notes (Shelf.bringsFloats_update patch.subset_floats_apply updated)
  | addArea area =>
      show area.floats ⊆ _
      exact subset_floats_of_areas (Shelf.bringsFloats_add (Edit.presenting_eq_ok_iff.mp done).1)
  | updateArea id patch =>
      obtain ⟨_, updated, _⟩ := Edit.showing_eq_ok_iff.mp done
      exact subset_floats_of_areas (Shelf.bringsFloats_update patch.subset_floats_apply updated)
  | _ => exact List.nil_subset _

theorem subset_floats_of_move {kind : Movable} {id : String} {position : Position}
    (done : diagram.move kind id position = .ok next) : position.floats ⊆ next.floats := by
  cases kind with
  | table =>
      obtain ⟨⟨_, _⟩, moved, rfl⟩ := map_eq_ok_iff.mp done
      refine subset_floats_of_tables (Shelf.bringsFloats_update (fun table => ?_) moved)
      exact List.Subset.refl _
  | note =>
      obtain ⟨⟨_, _⟩, moved, rfl⟩ := map_eq_ok_iff.mp done
      refine subset_floats_of_notes (Shelf.bringsFloats_update (fun note => ?_) moved)
      exact List.subset_append_left _ _
  | area =>
      obtain ⟨⟨_, _⟩, moved, rfl⟩ := map_eq_ok_iff.mp done
      refine subset_floats_of_areas (Shelf.bringsFloats_update (fun area => ?_) moved)
      exact List.subset_append_left _ _

end Diagram

namespace Session

/-- The numbers that a command brings along are there after it, if it succeeds. -/
theorem subset_floats_of_perform {session : Session} {command : Command} {answer : Answer}
    (done : (session.perform command).2 = .ok answer) :
    command.floats ⊆ (session.perform command).1.diagram.floats := by
  cases command with
  | edit change =>
      simp only [perform] at done ⊢
      split at done
      · next next shown edited =>
        obtain ⟨⟨diagram, member⟩, applied, same⟩ := map_eq_ok_iff.mp edited
        cases same
        exact Diagram.subset_floats_of_apply applied
      · cases done
  | move kind id position =>
      simp only [perform] at done ⊢
      split at done
      · next next moved =>
        obtain ⟨diagram, applied, rfl⟩ := map_eq_ok_iff.mp moved
        exact Diagram.subset_floats_of_move applied
      · cases done
  | undo => exact List.nil_subset _
  | redo => exact List.nil_subset _
  | load loaded => exact List.Subset.refl _

/-! ### Whether what is saved can be loaded -/

/-- After any run of commands a new session saves a text that can be loaded exactly if the numbers
in the live diagram are finite. As long as commands bring only finite numbers along, this holds of
the live diagram and of whatever can be undone or redone; and a command that is performed next and
succeeds keeps it so exactly if it brings only finite numbers along. -/
theorem isLoadable_run_iff (commands : List Command) :
    ((({} : Session).run commands).diagram.IsLoadable ↔
      ∀ x ∈ (({} : Session).run commands).diagram.floats, Decimal.isFinite x = true) ∧
    ((∀ command ∈ commands, ∀ x ∈ command.floats, Decimal.isFinite x = true) →
      (({} : Session).run commands).Everywhere Diagram.IsLoadable ∧
      ∀ command answer, ((({} : Session).run commands).perform command).2 = .ok answer →
        (((({} : Session).run commands).perform command).1.diagram.IsLoadable ↔
          ∀ x ∈ command.floats, Decimal.isFinite x = true)) := by
  refine ⟨Diagram.isLoadable_iff, fun finite => ?_⟩
  have blank : ({} : Session).Everywhere fun diagram =>
      ∀ x ∈ diagram.floats, Decimal.isFinite x = true :=
    .start (by simp [Diagram.floats]) _
  have everywhere := blank.run fun command member => Command.keeps_floats (finite command member)
  refine ⟨⟨Diagram.isLoadable_iff.mpr everywhere.live, fun state member =>
    Diagram.isLoadable_iff.mpr (everywhere.kept state member)⟩, ?_⟩
  intro command answer done
  rw [Diagram.isLoadable_iff]
  constructor
  · exact fun after x brought => after x (subset_floats_of_perform done brought)
  · exact fun brings => (everywhere.perform (Command.keeps_floats brings)).live

/-- A table is added and moved, a note and an area are put beside it and resized. The table is taken
out and comes back where it was moved to, and the area goes and comes back. -/
theorem isLoadable_run_iff_resized :
    let commands : List Command := [.edit (.addTable { id := "t", name := "users" }),
      .move .table "t" ⟨-12.5, 1e300⟩, .edit (.addNote { id := "n", position := ⟨0.1, 3⟩ }),
      .edit (.updateNote "n" { height := some 5e-324 }), .edit (.addArea { id := "a" }),
      .edit (.updateArea "a" { width := some 640, height := some 0.3 }),
      .edit (.deleteTable "t"), .undo, .undo, .undo, .redo]
    (∀ command ∈ commands, ∀ x ∈ command.floats, Decimal.isFinite x = true) ∧
      (({} : Session).run commands).Everywhere Diagram.IsLoadable ∧
      (({} : Session).run commands).diagram.tables.map Table.position = [⟨-12.5, 1e300⟩] := by
  intro commands
  have finite : ∀ command ∈ commands, ∀ x ∈ command.floats, Decimal.isFinite x = true := by
    decide +kernel
  exact ⟨finite, ((isLoadable_run_iff commands).2 finite).1, by decide +kernel⟩

/-- Where a table is moved to an undefined place, the place is saved as null, and the text is
refused. -/
theorem isLoadable_broken_by_nan :
    let session := ({} : Session).run
      [.edit (.addTable { id := "t", name := "users" }), .move .table "t" ⟨0 / 0, 0⟩]
    ¬ session.diagram.IsLoadable ∧
      (Diagram.ofSnapshot session.diagram.toSnapshot).mapError SnapshotError.message =
        .error "Invalid snapshot: invalid type: null, expected f64" := by
  intro session
  have infinite : ¬ ∀ x ∈ session.diagram.floats, Decimal.isFinite x = true := by decide +kernel
  refine ⟨mt Diagram.isLoadable_iff.mp infinite, ?_⟩
  rw [Diagram.ofSnapshot_toSnapshot_eq]
  decide +kernel

end Session

end EntityDiagram
