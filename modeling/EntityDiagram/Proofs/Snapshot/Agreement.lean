import EntityDiagram.Proofs.Json.Record
import EntityDiagram.Snapshot.Basic

/-!
# Both ways of loading a diagram agree

A snapshot is loaded straight from its text, or by way of a value, in which an engine is put in
where an object names none. Every part of a diagram is read alike both ways. So of a text that is
loaded straight, the other way makes the same diagram, but for the engine that was put in; and it
does so for each of these texts that can be read as a value.
-/

namespace EntityDiagram

open Json

namespace Snapshot

theorem agrees_position : position.Agrees := (Decoder.Agrees.float.pair .float).map _

theorem agrees_default : default.Agrees :=
  .tagged "DefaultValue" (by decide) fun _ => Decoder.Agrees.text.map _

theorem agrees_field : field.Agrees :=
  .record "Field" _ <|
    .required "id" .text <| .required "name" .text <| .required "type" .text <|
    .optional "size" (.optional .word) <| .optional "precision" (.optional .word) <|
    .optional "scale" (.optional .word) <| .optional "primary" .flag <|
    .optional "unique" .flag <| .optional "notNull" .flag <| .optional "increment" .flag <|
    .optional "unsigned" .flag <| .optional "isArray" .flag <|
    .optional "default" (.optional agrees_default) <| .optional "check" (.optional .text) <|
    .optional "comment" .text .nil

theorem agrees_index : index.Agrees :=
  .record "Index" _ <|
    .required "id" .text <| .optional "name" (.optional .text) <| .optional "unique" .flag <|
    .optional "fields" (.list .text) <| .optional "indexType" (.optional .text) .nil

theorem agrees_table : table.Agrees :=
  .record "Table" _ <|
    .required "id" .text <| .required "name" .text <| .optional "position" agrees_position <|
    .optional "comment" .text <| .optional "color" (.optional .text) <|
    .optional "fields" (.list agrees_field) <| .optional "indexes" (.list agrees_index) .nil

theorem agrees_relationship : relationship.Agrees :=
  .record "Relationship" _ <|
    .required "id" .text <| .optional "name" (.optional .text) <|
    .required "startTableId" .text <| .required "startFieldId" .text <|
    .required "endTableId" .text <| .required "endFieldId" .text <|
    .optional "cardinality" (.choice _) <| .optional "updateConstraint" (.choice _) <|
    .optional "deleteConstraint" (.choice _) .nil

theorem agrees_note : note.Agrees :=
  .record "Note" _ <|
    .required "id" .text <| .optional "title" .text <| .optional "content" .text <|
    .optional "position" agrees_position <| .optional "color" (.optional .text) <|
    .optional "height" .float .nil

theorem agrees_area : area.Agrees :=
  .record "Area" _ <|
    .required "id" .text <| .optional "name" .text <| .optional "position" agrees_position <|
    .optional "width" .float <| .optional "height" .float <|
    .optional "color" (.optional .text) .nil

theorem withDialect_eq_filled (dialect : Dialect) (value : Value) :
    withDialect dialect value = value.filled "dialect" (.string dialect.id) := by
  cases value <;> rfl

/-- A diagram is read alike from both, but for an engine that is put in. -/
theorem ofValue_withDialect {depth : Nat} {tree : Tree} {value : Value} {direct : Diagram}
    (read : tree.read depth = .ok value) (decoded : diagram.ofTree depth tree = .ok direct)
    (fallback : Dialect) :
    diagram.ofValue (withDialect fallback value) =
      .ok (if value.lacks "dialect" then { direct with dialect := fallback } else direct) := by
  have put : (FieldDecoder.optional "dialect" (.choice dialectNames)
      fun dialect (diagram : Diagram) => { diagram with dialect }).update.ofValue
        (.string fallback.id) = .ok fun diagram => { diagram with dialect := fallback } := by
    cases fallback <;> rfl
  rw [withDialect_eq_filled]
  unfold diagram at decoded ⊢
  refine Decoder.record_filled _ _ ?_ (by decide) (List.mem_cons_of_mem _ List.mem_cons_self) put
    ?_ read decoded
  · exact .optional "title" .text <| .optional "dialect" (.choice _) <|
      .optional "tables" (.list agrees_table) <|
      .optional "relationships" (.list agrees_relationship) <|
      .optional "notes" (.list agrees_note) <| .optional "areas" (.list agrees_area) .nil
  · intro other listed differs
    simp only [List.mem_cons, List.not_mem_nil, or_false] at listed
    rcases listed with rfl | rfl | rfl | rfl | rfl | rfl
    case inr.inl => exact absurd rfl differs
    all_goals exact FieldDecoder.spares_optional _ _ fun _ _ => rfl

end Snapshot

namespace Diagram

/-- A text that is loaded straight is loaded by way of a value as well, exactly if it can be read as
a value. The diagram is the same, but for the engine put in where the text names none. -/
theorem ofSnapshotOr_eq_ok_iff {text : String} {direct : Diagram}
    (loaded : ofSnapshot text = .ok direct) (fallback : Dialect) (filled : Diagram) :
    ofSnapshotOr fallback text = .ok filled ↔
      ∃ value, (Document.ofText text).read = .ok value ∧
        filled = if value.lacks "dialect" then { direct with dialect := fallback } else direct := by
  obtain ⟨decoded, -⟩ := Document.decode_eq_ok_iff.mp (mapError_eq_ok_iff.mp loaded)
  rw [ofSnapshotOr, mapError_eq_ok_iff, bind_eq_ok_iff]
  refine exists_congr fun value => and_congr_right fun readable => ?_
  obtain ⟨read, -⟩ := Document.decode_eq_ok_iff.mp readable
  rw [Snapshot.ofValue_withDialect read decoded fallback, Except.ok.injEq, eq_comm]

/-- A key with an escape, members out of order, a content before its tag, a whole number where a
floating-point number is wanted, an array for a record, a key twice in what nobody reads. -/
theorem ofSnapshotOr_eq_ok_iff_unordered :
    let text := "\x7b\"t\\u0069tle\":\"shop\",\"tables\":[\x7b\"name\":\"users\",\"id\":\"t\"," ++
      "\"position\":[4,-0.5],\"fields\":[\x7b\"default\":\x7b\"value\":\"1\",\"kind\":\"literal\"\x7d," ++
      "\"size\":null,\"type\":\"INT\",\"name\":\"id\",\"id\":\"f\"\x7d]\x7d]," ++
      "\"areas\":[[\"a\"]],\"theme\":[\x7b\"x\":1,\"x\":2\x7d]\x7d"
    let id : Field := { id := "f", name := "id", dataType := "INT", default := some (.literal "1") }
    let users : Table := { id := "t", name := "users", position := ⟨4, -0.5⟩, fields := [id] }
    let shop : Diagram := { title := "shop", tables := [users], areas := [{ id := "a" }] }
    ofSnapshot text = .ok shop ∧ (Document.ofText text).read.map (·.lacks "dialect") = .ok true ∧
      ofSnapshotOr .oracle text = .ok { shop with dialect := .oracle } := by
  intro text id users shop
  have loaded : ofSnapshot text = .ok shop := by decide +kernel
  have nameless : (Document.ofText text).read.map (·.lacks "dialect") = .ok true := by
    decide +kernel
  refine ⟨loaded, nameless, ?_⟩
  obtain ⟨value, read, lacks⟩ := map_eq_ok_iff.mp nameless
  refine (ofSnapshotOr_eq_ok_iff loaded .oracle _).mpr ⟨value, read, ?_⟩
  rw [lacks, if_pos rfl]

end Diagram

end EntityDiagram
