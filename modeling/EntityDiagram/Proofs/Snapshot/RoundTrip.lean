import EntityDiagram.Proofs.Json.Decoding
import EntityDiagram.Snapshot.Basic

/-!
# Saved diagrams are read back

Every member of a diagram is decoded to itself from what it is stored as, and so is the diagram,
straight from its text as well as by way of a value. The one thing asked of a diagram is that its
places and sizes are read back from their own texts.
-/

namespace EntityDiagram

open Json

/-! ### The numbers of a diagram -/

/-- The numbers of a place. -/
def Position.floats (position : Position) : List Float := [position.x, position.y]

/-- The numbers of a note. -/
def Note.floats (note : Note) : List Float := note.position.floats ++ [note.height]

/-- The numbers of an area. -/
def Area.floats (area : Area) : List Float := area.position.floats ++ [area.width, area.height]

/-- All coordinates, widths and heights in a diagram. -/
def Diagram.floats (diagram : Diagram) : List Float :=
  diagram.tables.flatMap (·.position.floats) ++ diagram.notes.flatMap Note.floats ++
    diagram.areas.flatMap Area.floats

namespace Snapshot

variable {depth : Nat}

private theorem decodes_word? (size : Option UInt32) :
    (Decoder.optional .word).Decodes depth (ofWord? size) size := by
  cases size with
  | none => exact .none
  | some n => exact Decoder.Decodes.word.some (by simp)

theorem decodes_text? (text : Option String) :
    (Decoder.optional .text).Decodes depth (.ofText? text) text := by
  cases text with
  | none => exact .none
  | some text => exact Decoder.Decodes.text.some (by simp)

private theorem decodes_texts (all : List String) :
    texts.Decodes (depth + 1) (ofTexts all) all :=
  .list fun _ _ => .text

private theorem decodes_cardinality (cardinality : Cardinality) :
    (Decoder.choice cardinalityNames).Decodes depth
      (.string (nameOf cardinalityNames cardinality)) cardinality :=
  .choice (by cases cardinality <;> rfl)

private theorem decodes_action (action : ForeignKeyAction) :
    (Decoder.choice actionNames).Decodes depth (.string (nameOf actionNames action)) action :=
  .choice (by cases action <;> rfl)

theorem decodes_dialect (dialect : Dialect) :
    (Decoder.choice dialectNames).Decodes depth (.string (nameOf dialectNames dialect)) dialect :=
  .choice (by cases dialect <;> rfl)

theorem decodes_default (value : DefaultValue) :
    default.Decodes (depth + 1) (ofDefault value) value := by
  cases value with
  | literal text => exact .tagged "DefaultValue" (by decide) rfl (Decoder.Decodes.text.map _)
  | expression text => exact .tagged "DefaultValue" (by decide) rfl (Decoder.Decodes.text.map _)
  | keyword text => exact .tagged "DefaultValue" (by decide) rfl (Decoder.Decodes.text.map _)

theorem decodes_default? (value : Option DefaultValue) :
    (Decoder.optional default).Decodes (depth + 1) ((value.map ofDefault).getD .null) value := by
  cases value with
  | none => exact .none
  | some value => exact (decodes_default value).some (by simp [ofDefault, Value.ofFields])

theorem decodes_position {place : Position}
    (floats : ∀ x ∈ place.floats, (Number.real x).Survives) :
    position.Decodes (depth + 1) (ofPosition place) place :=
  have x : (Number.real place.x).Survives := floats _ (by simp [Position.floats])
  have y : (Number.real place.y).Survives := floats _ (by simp [Position.floats])
  ((Decoder.Decodes.float x).pair (.float y)).map _

theorem decodes_index (value : Index) : index.Decodes (depth + 2) (ofIndex value) value :=
  Describes.decodes "Index"
    (.required "id" .text <| .optional "name" (decodes_text? _) <| .optional "unique" .flag <|
      .optional "fields" (decodes_texts _) <| .optional "indexType" (decodes_text? _) .nil)
    (by decide) rfl

theorem decodes_field (value : Field) : field.Decodes (depth + 2) (ofField value) value :=
  Describes.decodes "Field"
    (.required "id" .text <| .required "name" .text <| .required "type" .text <|
      .optional "size" (decodes_word? _) <| .optional "precision" (decodes_word? _) <|
      .optional "scale" (decodes_word? _) <| .optional "primary" .flag <|
      .optional "unique" .flag <| .optional "notNull" .flag <| .optional "increment" .flag <|
      .optional "unsigned" .flag <| .optional "isArray" .flag <|
      .optional "default" (decodes_default? _) <| .optional "check" (decodes_text? _) <|
      .optional "comment" .text .nil)
    (by decide) rfl

theorem decodes_table {value : Table}
    (floats : ∀ x ∈ value.position.floats, (Number.real x).Survives) :
    table.Decodes (depth + 4) (ofTable value) value :=
  Describes.decodes "Table"
    (.required "id" .text <| .required "name" .text <|
      .optional "position" (decodes_position floats) <| .optional "comment" .text <|
      .optional "color" (decodes_text? _) <|
      .optional "fields" (.list fun field _ => decodes_field field) <|
      .optional "indexes" (.list fun index _ => decodes_index index) .nil)
    (by decide) rfl

theorem decodes_relationship (value : Relationship) :
    relationship.Decodes (depth + 1) (ofRelationship value) value :=
  Describes.decodes "Relationship"
    (.required "id" .text <| .optional "name" (decodes_text? _) <|
      .required "startTableId" .text <| .required "startFieldId" .text <|
      .required "endTableId" .text <| .required "endFieldId" .text <|
      .optional "cardinality" (decodes_cardinality _) <|
      .optional "updateConstraint" (decodes_action _) <|
      .optional "deleteConstraint" (decodes_action _) .nil)
    (by decide) rfl

theorem decodes_note {value : Note} (floats : ∀ x ∈ value.floats, (Number.real x).Survives) :
    note.Decodes (depth + 2) (ofNote value) value := by
  have place : ∀ x ∈ value.position.floats, (Number.real x).Survives := fun x member =>
    floats x (List.mem_append_left _ member)
  have height : (Number.real value.height).Survives := floats _ (by simp [Note.floats])
  exact Describes.decodes "Note"
    (.required "id" .text <| .optional "title" .text <| .optional "content" .text <|
      .optional "position" (decodes_position place) <| .optional "color" (decodes_text? _) <|
      .optional "height" (.float height) .nil)
    (by decide) rfl

theorem decodes_area {value : Area} (floats : ∀ x ∈ value.floats, (Number.real x).Survives) :
    area.Decodes (depth + 2) (ofArea value) value := by
  have place : ∀ x ∈ value.position.floats, (Number.real x).Survives := fun x member =>
    floats x (List.mem_append_left _ member)
  have width : (Number.real value.width).Survives := floats _ (by simp [Area.floats])
  have height : (Number.real value.height).Survives := floats _ (by simp [Area.floats])
  exact Describes.decodes "Area"
    (.required "id" .text <| .optional "name" .text <|
      .optional "position" (decodes_position place) <| .optional "width" (.float width) <|
      .optional "height" (.float height) <| .optional "color" (decodes_text? _) .nil)
    (by decide) rfl

theorem decodes_diagram {value : Diagram} (floats : ∀ x ∈ value.floats, (Number.real x).Survives) :
    diagram.Decodes (depth + 6) (ofDiagram value) value := by
  have tables : ∀ table ∈ value.tables, ∀ x ∈ table.position.floats, (Number.real x).Survives := by
    intro table member x listed
    refine floats x ?_
    simp only [Diagram.floats, List.mem_append, List.mem_flatMap]
    exact .inl (.inl ⟨table, member, listed⟩)
  have notes : ∀ note ∈ value.notes, ∀ x ∈ note.floats, (Number.real x).Survives := by
    intro note member x listed
    refine floats x ?_
    simp only [Diagram.floats, List.mem_append, List.mem_flatMap]
    exact .inl (.inr ⟨note, member, listed⟩)
  have areas : ∀ area ∈ value.areas, ∀ x ∈ area.floats, (Number.real x).Survives := by
    intro area member x listed
    refine floats x ?_
    simp only [Diagram.floats, List.mem_append, List.mem_flatMap]
    exact .inr ⟨area, member, listed⟩
  exact Describes.decodes "Diagram"
    (.optional "title" .text <| .optional "dialect" (decodes_dialect _) <|
      .optional "tables" (.list fun table member => decodes_table (tables table member)) <|
      .optional "relationships" (.list fun relationship _ => decodes_relationship relationship) <|
      .optional "notes" (.list fun note member => decodes_note (notes note member)) <|
      .optional "areas" (.list fun area member => decodes_area (areas area member)) .nil)
    (by decide) rfl

/-- No engine is filled in for that of a diagram. -/
theorem withDialect_ofDiagram (fallback : Dialect) (value : Diagram) :
    withDialect fallback (ofDiagram value).sorted = (ofDiagram value).sorted := by
  rw [ofDiagram, Value.ofFields, Value.sorted, withDialect,
    (Fields.ordered_sorted _).insert_eq (Fields.isSome_find?_sorted rfl)]

end Snapshot

namespace Diagram

/-- A saved diagram is read back as it was, and its engine is kept, whichever is offered. -/
theorem ofSnapshot_toSnapshot {diagram : Diagram}
    (survive : ∀ x ∈ diagram.floats, (Number.real x).Survives) :
    ofSnapshot diagram.toSnapshot = .ok diagram ∧
      ∀ fallback, ofSnapshotOr fallback diagram.toSnapshot = .ok diagram := by
  have decodes : Snapshot.diagram.Decodes maxDepth (Snapshot.ofDiagram diagram) diagram :=
    Snapshot.decodes_diagram survive
  have scanned : Document.ofText diagram.toSnapshot = ⟨(Snapshot.ofDiagram diagram).tree, true⟩ :=
    Value.ofText_pretty _
  constructor
  · rw [ofSnapshot, scanned, Document.decode, decodes.ofTree]
    rfl
  · intro fallback
    have read := Value.read_tree (Snapshot.ofDiagram diagram) decodes.readable
    rw [ofSnapshotOr, scanned, Document.read, Document.decode, read, bind_ok]
    show (Snapshot.diagram.ofValue (Snapshot.withDialect fallback
      (Snapshot.ofDiagram diagram).sorted)).mapError SnapshotError.mk = .ok diagram
    rw [Snapshot.withDialect_ofDiagram, decodes.ofValue]
    rfl

theorem ofSnapshot_toSnapshot_demo :
    ofSnapshot (demo .oracle toString).toSnapshot = .ok (demo .oracle toString) ∧
      ∀ fallback, ofSnapshotOr fallback (demo .oracle toString).toSnapshot =
        .ok (demo .oracle toString) := by
  have hundred : (Number.real 100).Survives :=
    Number.survives_of_tenths (by decide +kernel : numberLayout.text? 100 = some "100.0")
      (by decide +kernel : Document.ofText "100.0" =
        ⟨.number ⟨false, ['1', '0', '0'], some ['0'], none⟩, true⟩)
      (rfl : _ = (1000, -1)) (by decide +kernel)
  have fourHundred : (Number.real 400).Survives :=
    Number.survives_of_tenths (by decide +kernel : numberLayout.text? 400 = some "400.0")
      (by decide +kernel : Document.ofText "400.0" =
        ⟨.number ⟨false, ['4', '0', '0'], some ['0'], none⟩, true⟩)
      (rfl : _ = (4000, -1)) (by decide +kernel)
  refine ofSnapshot_toSnapshot ?_
  intro x listed
  have either : x = 100 ∨ x = 400 ∨ x = 100 := by
    simpa [demo, floats, Position.floats] using listed
  rcases either with rfl | rfl | rfl
  · exact hundred
  · exact fourHundred
  · exact hundred

end Diagram

end EntityDiagram
