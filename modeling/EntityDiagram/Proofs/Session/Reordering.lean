import EntityDiagram.Proofs.Session.Edit
import EntityDiagram.Session.Basic

/-!
# Moving a member to another place

Six collections of a diagram can be put in another order: tables, relationships, notes, areas, and
the fields and indexes of a table. A `Collection` names one of them, and what is said of all of them
is said once. Its members can be read and replaced, and these two obey the laws of a view: what was
put in is read back, the last to be put in counts, and putting in what was read changes nothing.

Moving a member takes it out and puts it in again, so that the place it goes to is one of the
shorter list; `Keyed.Moved` says what comes of it without reference to the two steps.
-/

namespace EntityDiagram

/-- A collection of a diagram that has an order. Fields and indexes are those of the first table
with the id. -/
inductive Collection where
  | tables
  | fields (tableId : String)
  | indexes (tableId : String)
  | relationships
  | notes
  | areas
  deriving DecidableEq, Repr

namespace Collection

/-- The members of a collection are of this type. -/
@[reducible] def Item : Collection → Type
  | tables => Table
  | fields _ => Field
  | indexes _ => Index
  | relationships => Relationship
  | notes => Note
  | areas => Area

instance (collection : Collection) : Keyed collection.Item :=
  match collection with
  | tables => inferInstanceAs (Keyed Table)
  | fields _ => inferInstanceAs (Keyed Field)
  | indexes _ => inferInstanceAs (Keyed Index)
  | relationships => inferInstanceAs (Keyed Relationship)
  | notes => inferInstanceAs (Keyed Note)
  | areas => inferInstanceAs (Keyed Area)

/-- The members of a collection in order; there are none to speak of if its table is not there. -/
def items? (diagram : Diagram) : (collection : Collection) → Option (List collection.Item)
  | tables => some diagram.tables
  | fields tableId => (diagram.table? tableId).map Table.fields
  | indexes tableId => (diagram.table? tableId).map Table.indexes
  | relationships => some diagram.relationships
  | notes => some diagram.notes
  | areas => some diagram.areas

/-- The diagram with other members in a collection, and all else as it is. -/
def withItems (diagram : Diagram) :
    (collection : Collection) → List collection.Item → Diagram
  | tables, items => { diagram with tables := items }
  | fields tableId, items =>
    { diagram with tables := Keyed.update ({ · with fields := items }) tableId diagram.tables }
  | indexes tableId, items =>
    { diagram with tables := Keyed.update ({ · with indexes := items }) tableId diagram.tables }
  | relationships, items => { diagram with relationships := items }
  | notes, items => { diagram with notes := items }
  | areas, items => { diagram with areas := items }

/-- The edit that moves the member with an id to another place of its collection. -/
def reorder : Collection → String → Nat → Edit
  | tables => .reorderTable
  | fields tableId => .reorderField tableId
  | indexes tableId => .reorderIndex tableId
  | relationships => .reorderRelationship
  | notes => .reorderNote
  | areas => .reorderArea

variable {diagram : Diagram} {collection : Collection} {items : List collection.Item}

/-! ### Members are read and replaced -/

/-- What was put into a collection is read back. -/
theorem items?_withItems (here : collection.items? diagram = some items)
    (others : List collection.Item) :
    collection.items? (collection.withItems diagram others) = some others := by
  cases collection with
  | fields tableId | indexes tableId =>
      obtain ⟨table, found, rfl⟩ := Option.map_eq_some_iff.mp here
      have same : table.id = tableId := Keyed.key_of_find?_eq_some found
      exact Option.map_eq_some_iff.mpr ⟨_, Keyed.find?_update_self found same, rfl⟩
  | tables | relationships | notes | areas => rfl

/-- What was put into a collection last counts. -/
theorem withItems_withItems (here : collection.items? diagram = some items)
    (first second : List collection.Item) :
    collection.withItems (collection.withItems diagram first) second =
      collection.withItems diagram second := by
  cases collection with
  | fields tableId | indexes tableId =>
      obtain ⟨table, found, rfl⟩ := Option.map_eq_some_iff.mp here
      have same : table.id = tableId := Keyed.key_of_find?_eq_some found
      rw [withItems, withItems, withItems, Keyed.update_update found same]
      rfl
  | tables | relationships | notes | areas => rfl

/-- Putting into a collection what it holds changes nothing. -/
theorem withItems_of_items? (here : collection.items? diagram = some items) :
    collection.withItems diagram items = diagram := by
  cases collection with
  | fields tableId | indexes tableId =>
      obtain ⟨table, found, rfl⟩ := Option.map_eq_some_iff.mp here
      rw [withItems, Keyed.update_eq_self found rfl]
  | tables | relationships | notes | areas =>
      obtain rfl := Option.some.inj here
      rfl

/-! ### Members go to another place -/

/-- An edit that moves a member moves it within its collection, and changes nothing else. -/
theorem apply_reorder (here : collection.items? diagram = some items) {id : String}
    (listed : Keyed.contains items id = true) (target : Nat) :
    (collection.reorder id target).apply diagram =
      .ok (collection.withItems diagram (Keyed.reorder items id target), .none) := by
  cases collection with
  | fields tableId | indexes tableId =>
      obtain ⟨table, found, rfl⟩ := Option.map_eq_some_iff.mp here
      refine Diagram.inTable_eq_ok_iff.mpr ⟨table, _, found, Edit.presenting_eq_ok_iff.mpr
        ⟨Shelf.reorder_eq_ok_iff.mpr ⟨listed, rfl⟩, rfl⟩, ?_⟩
      rw [withItems, Diagram.mk.injEq]
      exact ⟨rfl, rfl, Keyed.update_congr found rfl, rfl, rfl, rfl⟩
  | tables | relationships | notes | areas =>
      obtain rfl := Option.some.inj here
      exact Edit.presenting_eq_ok_iff.mpr ⟨Shelf.reorder_eq_ok_iff.mpr ⟨listed, rfl⟩, rfl⟩

end Collection

namespace Session

/-- A member of a collection can be moved within the diagram of a session. -/
theorem edit_reorder {session : Session} {collection : Collection}
    {items : List collection.Item} (here : collection.items? session.diagram = some items)
    {place : Nat} {item : collection.Item} (held : items[place]? = some item) (target : Nat) :
    ∃ next, session.edit (collection.reorder (Keyed.key item) target) = .ok (next, .none) ∧
      next.diagram =
        collection.withItems session.diagram (Keyed.reorder items (Keyed.key item) target) := by
  have listed : Keyed.contains items (Keyed.key item) = true :=
    Keyed.contains_iff.mpr ⟨item, List.mem_of_getElem? held, rfl⟩
  exact ⟨_, map_eq_ok_iff.mpr ⟨_, Collection.apply_reorder here listed target, rfl⟩, rfl⟩

/-- In a collection with distinct ids, the member at any place can be moved to any other, by its id.
It then stands at the target, or at the end if the target lies beyond it; the others follow each
other as before, and nothing is lost, doubled or altered, in the collection or elsewhere in the
diagram. Moving the member back to its old place brings back the diagram. -/
theorem edit_reorder_there_and_back {session : Session} {collection : Collection}
    {items : List collection.Item} {source : Nat} {item : collection.Item}
    (here : collection.items? session.diagram = some items)
    (distinct : (items.map Keyed.key).Nodup) (held : items[source]? = some item) (target : Nat) :
    ∃ (next back : Session) (moved : List collection.Item),
      session.edit (collection.reorder (Keyed.key item) target) = .ok (next, .none) ∧
      next.diagram = collection.withItems session.diagram moved ∧
      collection.items? next.diagram = some moved ∧
      moved[min target (items.length - 1)]? = some item ∧
      moved.eraseIdx (min target (items.length - 1)) = items.eraseIdx source ∧
      moved.Perm items ∧
      next.edit (collection.reorder (Keyed.key item) source) = .ok (back, .none) ∧
      back.diagram = session.diagram := by
  obtain ⟨next, there, changed⟩ := edit_reorder here held target
  have moved := Keyed.moved_reorder held target distinct
  have shown : collection.items? next.diagram =
      some (Keyed.reorder items (Keyed.key item) target) := by
    rw [changed]
    exact Collection.items?_withItems here _
  obtain ⟨back, again, restored⟩ := edit_reorder shown moved.placed source
  have original : back.diagram = session.diagram := by
    rw [restored, Keyed.reorder_reorder held target distinct, changed,
      Collection.withItems_withItems here, Collection.withItems_of_items? here]
  exact ⟨next, back, _, there, changed, shown, moved.placed, moved.others, moved.perm, again,
    original⟩

/-- The middle one of three fields is sent far beyond the end, and called back. -/
theorem edit_reorder_there_and_back_email :
    let field (id name : String) : Field := { id, name, dataType := "TEXT" }
    let users : Table := {
      id := "t", name := "users"
      fields := [field "a" "id", field "b" "email", field "c" "name"] }
    let session := start { tables := [users] } 5
    ∃ next back : Session,
      session.edit (.reorderField "t" "b" 99) = .ok (next, .none) ∧
      next.diagram.tables = [{ users with
        fields := [field "a" "id", field "c" "name", field "b" "email"] }] ∧
      next.edit (.reorderField "t" "b" 1) = .ok (back, .none) ∧
      back.diagram = session.diagram := by
  intro field users session
  have here : (Collection.fields "t").items? session.diagram = some users.fields := rfl
  have distinct : (users.fields.map Keyed.key).Nodup := by decide
  have held : users.fields[1]? = some (field "b" "email") := rfl
  obtain ⟨next, back, _, there, -, -, -, -, -, again, original⟩ :=
    edit_reorder_there_and_back here distinct held 99
  have order : next.diagram.tables = [{ users with
      fields := [field "a" "id", field "c" "name", field "b" "email"] }] := by
    cases there
    decide
  exact ⟨next, back, there, order, again, original⟩

end Session

end EntityDiagram
