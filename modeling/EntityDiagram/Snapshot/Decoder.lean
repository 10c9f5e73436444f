import EntityDiagram.Json.Record
import EntityDiagram.Snapshot.Encoder

/-!
# Diagrams from JSON

Each member of a diagram is described by a record. Ids, names and types are required, as far as a
member cannot be told without them; whatever else is left out has its usual value.
-/

namespace EntityDiagram

open Json

namespace Snapshot

/-- A list of members. -/
def texts : Decoder (List String) := .list .text

/-- A place. -/
def position : Decoder Position := (Decoder.pair .float .float).map fun (x, y) => ⟨x, y⟩

/-- The kinds of defaults, each with what makes a default from its text. -/
def defaultKinds : List (String × (String → DefaultValue)) :=
  [("literal", .literal), ("expression", .expression), ("keyword", .keyword)]

/-- A default value. -/
def default : Decoder DefaultValue :=
  .tagged "DefaultValue" {
    tagKey := "kind"
    contentKey := "value"
    tags := defaultKinds
    content := fun kind => Decoder.text.map kind }

/-- A field. -/
def field : Decoder Field :=
  .record "Field" { id := "", name := "", dataType := "" } [
    .required "id" .text fun id field => { field with id },
    .required "name" .text fun name field => { field with name },
    .required "type" .text fun dataType field => { field with dataType },
    .optional "size" (.optional .word) fun size field => { field with size },
    .optional "precision" (.optional .word) fun precision field => { field with precision },
    .optional "scale" (.optional .word) fun scale field => { field with scale },
    .optional "primary" .flag fun primary field => { field with primary },
    .optional "unique" .flag fun unique field => { field with unique },
    .optional "notNull" .flag fun notNull field => { field with notNull },
    .optional "increment" .flag fun increment field => { field with increment },
    .optional "unsigned" .flag fun unsigned field => { field with unsigned },
    .optional "isArray" .flag fun isArray field => { field with isArray },
    .optional "default" (.optional default) fun default field => { field with default },
    .optional "check" (.optional .text) fun check field => { field with check },
    .optional "comment" .text fun comment field => { field with comment }]

/-- An index. -/
def index : Decoder Index :=
  .record "Index" { id := "" } [
    .required "id" .text fun id index => { index with id },
    .optional "name" (.optional .text) fun name index => { index with name },
    .optional "unique" .flag fun unique index => { index with unique },
    .optional "fields" texts fun fields index => { index with fields },
    .optional "indexType" (.optional .text) fun indexType index => { index with indexType }]

/-- A table. -/
def table : Decoder Table :=
  .record "Table" { id := "", name := "" } [
    .required "id" .text fun id table => { table with id },
    .required "name" .text fun name table => { table with name },
    .optional "position" position fun position table => { table with position },
    .optional "comment" .text fun comment table => { table with comment },
    .optional "color" (.optional .text) fun color table => { table with color },
    .optional "fields" (.list field) fun fields table => { table with fields },
    .optional "indexes" (.list index) fun indexes table => { table with indexes }]

/-- A relationship. -/
def relationship : Decoder Relationship :=
  .record "Relationship" (.between "" ⟨"", ""⟩ ⟨"", ""⟩) [
    .required "id" .text fun id relationship => { relationship with id },
    .optional "name" (.optional .text) fun name relationship => { relationship with name },
    .required "startTableId" .text fun startTableId relationship =>
      { relationship with startTableId },
    .required "startFieldId" .text fun startFieldId relationship =>
      { relationship with startFieldId },
    .required "endTableId" .text fun endTableId relationship =>
      { relationship with endTableId },
    .required "endFieldId" .text fun endFieldId relationship =>
      { relationship with endFieldId },
    .optional "cardinality" (.choice cardinalityNames) fun cardinality relationship =>
      { relationship with cardinality },
    .optional "updateConstraint" (.choice actionNames) fun updateConstraint relationship =>
      { relationship with updateConstraint },
    .optional "deleteConstraint" (.choice actionNames) fun deleteConstraint relationship =>
      { relationship with deleteConstraint }]

/-- A note. -/
def note : Decoder Note :=
  .record "Note" { id := "" } [
    .required "id" .text fun id note => { note with id },
    .optional "title" .text fun title note => { note with title },
    .optional "content" .text fun content note => { note with content },
    .optional "position" position fun position note => { note with position },
    .optional "color" (.optional .text) fun color note => { note with color },
    .optional "height" .float fun height note => { note with height }]

/-- An area. -/
def area : Decoder Area :=
  .record "Area" { id := "" } [
    .required "id" .text fun id area => { area with id },
    .optional "name" .text fun name area => { area with name },
    .optional "position" position fun position area => { area with position },
    .optional "width" .float fun width area => { area with width },
    .optional "height" .float fun height area => { area with height },
    .optional "color" (.optional .text) fun color area => { area with color }]

/-- A diagram. -/
def diagram : Decoder Diagram :=
  .record "Diagram" {} [
    .optional "title" .text fun title diagram => { diagram with title },
    .optional "dialect" (.choice dialectNames) fun dialect diagram => { diagram with dialect },
    .optional "tables" (.list table) fun tables diagram => { diagram with tables },
    .optional "relationships" (.list relationship) fun relationships diagram =>
      { diagram with relationships },
    .optional "notes" (.list note) fun notes diagram => { diagram with notes },
    .optional "areas" (.list area) fun areas diagram => { diagram with areas }]

end Snapshot

end EntityDiagram
