import EntityDiagram.Proofs.Json.Acceptance
import EntityDiagram.Proofs.Snapshot.RoundTrip

/-!
# Which saved diagrams can be loaded

A saved diagram is loaded exactly if all its coordinates and sizes are finite. Other numbers are
stored as null, which is read as no number; nothing else in a diagram is ever refused.
-/

namespace EntityDiagram

open Json

namespace Snapshot

variable {depth : Nat}

theorem accepts_position (place : Position) :
    position.Accepts (depth + 1) (ofPosition place)
      (∀ x ∈ place.floats, Decimal.isFinite x = true) :=
  ((Decoder.Accepts.float.pair .float).map _).of_iff (by simp [Position.floats])

theorem accepts_table (value : Table) :
    table.Accepts (depth + 4) (ofTable value)
      (∀ x ∈ value.position.floats, Decimal.isFinite x = true) :=
  Judges.accepts "Table"
    (.required "id" Decoder.Decodes.text.accepts <|
      .required "name" Decoder.Decodes.text.accepts <|
      .optional "position" (accepts_position _) <|
      .optional "comment" Decoder.Decodes.text.accepts <|
      .optional "color" (decodes_text? _).accepts <|
      .optional "fields" (.list fun field _ => (decodes_field field).accepts) <|
      .optional "indexes" (.list fun index _ => (decodes_index index).accepts) .nil)
    (by decide) (by simp)

theorem accepts_note (value : Note) :
    note.Accepts (depth + 2) (ofNote value) (∀ x ∈ value.floats, Decimal.isFinite x = true) :=
  Judges.accepts "Note"
    (.required "id" Decoder.Decodes.text.accepts <|
      .optional "title" Decoder.Decodes.text.accepts <|
      .optional "content" Decoder.Decodes.text.accepts <|
      .optional "position" (accepts_position _) <|
      .optional "color" (decodes_text? _).accepts <| .optional "height" .float .nil)
    (by decide) (by simp [Note.floats, or_imp, forall_and])

theorem accepts_area (value : Area) :
    area.Accepts (depth + 2) (ofArea value) (∀ x ∈ value.floats, Decimal.isFinite x = true) :=
  Judges.accepts "Area"
    (.required "id" Decoder.Decodes.text.accepts <|
      .optional "name" Decoder.Decodes.text.accepts <|
      .optional "position" (accepts_position _) <| .optional "width" .float <|
      .optional "height" .float <| .optional "color" (decodes_text? _).accepts .nil)
    (by decide) (by simp [Area.floats, or_imp, forall_and])

theorem accepts_diagram (value : Diagram) :
    diagram.Accepts (depth + 6) (ofDiagram value)
      (∀ x ∈ value.floats, Decimal.isFinite x = true) := by
  refine Judges.accepts "Diagram"
    (.optional "title" Decoder.Decodes.text.accepts <|
      .optional "dialect" (decodes_dialect _).accepts <|
      .optional "tables" (.list fun table _ => accepts_table table) <|
      .optional "relationships" (.list fun relationship _ =>
        (decodes_relationship relationship).accepts) <|
      .optional "notes" (.list fun note _ => accepts_note note) <|
      .optional "areas" (.list fun area _ => accepts_area area) .nil)
    (by decide) ?_
  simp only [Diagram.floats, List.forall_mem_append, List.forall_mem_flatMap, implies_true,
    true_and, and_true, and_assoc]

end Snapshot

namespace Diagram

/-- Loading what a diagram is saved as comes down to decoding what its value is scanned as. -/
theorem ofSnapshot_toSnapshot_eq (diagram : Diagram) :
    ofSnapshot diagram.toSnapshot =
      (Snapshot.diagram.ofTree maxDepth (Snapshot.ofDiagram diagram).tree).mapError .mk := by
  have scanned : Document.ofText diagram.toSnapshot = ⟨(Snapshot.ofDiagram diagram).tree, true⟩ :=
    Value.ofText_pretty _
  rw [ofSnapshot, scanned, Document.decode]
  cases Snapshot.diagram.ofTree maxDepth (Snapshot.ofDiagram diagram).tree <;> rfl

/-- What a diagram is saved as can be loaded. -/
def IsLoadable (diagram : Diagram) : Prop :=
  ∃ loaded, ofSnapshot diagram.toSnapshot = .ok loaded

/-- A diagram is loaded from its own text exactly if all its numbers are finite. -/
theorem isLoadable_iff {diagram : Diagram} :
    diagram.IsLoadable ↔ ∀ x ∈ diagram.floats, Decimal.isFinite x = true := by
  have accepts : Snapshot.diagram.Accepts maxDepth (Snapshot.ofDiagram diagram) _ :=
    Snapshot.accepts_diagram diagram
  refine Iff.trans ?_ accepts
  rw [IsLoadable, ofSnapshot_toSnapshot_eq]
  cases Snapshot.diagram.ofTree maxDepth (Snapshot.ofDiagram diagram).tree with
  | error fault => exact iff_of_false (fun ⟨_, read⟩ => nomatch read) fun ⟨_, read⟩ => nomatch read
  | ok loaded => exact iff_of_true ⟨loaded, rfl⟩ ⟨loaded, rfl⟩

end Diagram

end EntityDiagram
