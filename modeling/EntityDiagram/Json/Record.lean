import EntityDiagram.Json.Decoder

/-!
# Records

A record is described by an object with a member for each field, in any order and with unknown
members passed over, or by an array with the fields in order. Fields that are not required keep
the value that a blank record has. A tagged value is described by an object with a tag and a
content, in either order.
-/

namespace EntityDiagram.Json

variable {α τ : Type}

/-- A field of a record: its key, and what its value does to the record. -/
structure FieldDecoder (α : Type) where
  key : String
  isRequired : Bool
  update : Decoder (α → α)

namespace FieldDecoder

variable {β : Type}

/-- A field that has to be there. -/
def required (key : String) (decoder : Decoder β) (set : β → α → α) : FieldDecoder α :=
  ⟨key, true, decoder.map set⟩

/-- A field that may be left out. -/
def optional (key : String) (decoder : Decoder β) (set : β → α → α) : FieldDecoder α :=
  ⟨key, false, decoder.map set⟩

end FieldDecoder

/-- The values that have been read, by their keys, each as what it does to the record. -/
abbrev Updates (α : Type) := List (String × (α → α))

namespace Updates

/-- The record with the fields that have been read, taken in their order. -/
def assemble (updates : Updates α) : List (FieldDecoder α) → α → Except Fault α
  | [], record => .ok record
  | field :: fields, record =>
    match updates.lookup field.key with
    | some update => updates.assemble fields (update record)
    | none =>
      if field.isRequired then .error (.mismatch (.missingField field.key))
      else updates.assemble fields record

end Updates

/-- The field of a record with a key. -/
def fieldWithKey? (fields : List (FieldDecoder α)) (key : String) : Option (FieldDecoder α) :=
  fields.find? (·.key == key)

/-- Read the entries of an object that describes a record. -/
def Entries.record (fields : List (FieldDecoder α)) (depth : Nat) (updates : Updates α) :
    Entries → Except Fault (Updates α)
  | .stop ending => do
    orFault ending.objectFault?
    return updates
  | .nonKey => .error (.malformed .keyMustBeString)
  | .entry key value rest => do
    let key ← key.text
    match fieldWithKey? fields key with
    | none => do
      orFault value.skipFault?
      rest.record fields depth updates
    | some field =>
      if (updates.lookup key).isSome then .error (.mismatch (.duplicateField key))
      else do
        let update ← field.update.ofTree depth value
        rest.record fields depth (updates ++ [(key, update)])

/-- Read the items of an array that describes a record. -/
def Items.record (expected : String) (depth : Nat) : List (FieldDecoder α) → (index : Nat) →
    Items → α → Except Fault α
  | [], _, items, record => do
    orFault items.surplusFault?
    return record
  | field :: fields, index, .item head rest, record => do
    let update ← field.update.ofTree depth head
    rest.record expected depth fields (index + 1) (update record)
  | field :: fields, index, .stop ending, record => do
    orFault ending.listFault?
    if field.isRequired then .error (.mismatch (.invalidLength index expected))
    else Items.record expected depth fields (index + 1) (.stop ending) record

/-- Read the members of an object that describes a record. -/
def Fields.record (fields : List (FieldDecoder α)) (updates : Updates α) :
    Fields → Except Fault (Updates α)
  | .nil => .ok updates
  | .cons key value rest =>
    match fieldWithKey? fields key with
    | none => rest.record fields updates
    | some field =>
      if (updates.lookup key).isSome then .error (.mismatch (.duplicateField key))
      else do
        let update ← field.update.ofValue value
        rest.record fields (updates ++ [(key, update)])

/-- Read the values of an array of the given length that describes a record. -/
def recordOfValues (expected : String) (length : Nat) : List (FieldDecoder α) → (index : Nat) →
    List Value → α → Except Fault α
  | [], _, values, record => if values.isEmpty then .ok record else Decoder.tooLong length
  | field :: fields, index, value :: values, record => do
    let update ← field.update.ofValue value
    recordOfValues expected length fields (index + 1) values (update record)
  | field :: fields, index, [], record =>
    if field.isRequired then .error (.mismatch (.invalidLength index expected))
    else recordOfValues expected length fields (index + 1) [] record

/-- A record with some fields that starts from a blank one. -/
def Decoder.record (name : String) (blank : α) (fields : List (FieldDecoder α)) : Decoder α :=
  let expected := "struct " ++ name
  let counted := expected ++ " with " ++ toString fields.length ++ " elements"
  { ofTree := fun depth tree =>
      match tree with
      | .object entries => do
        let depth ← enter depth
        let updates ← entries.record fields depth []
        updates.assemble fields blank
      | .array items => do
        let depth ← enter depth
        items.record counted depth fields 0 blank
      | tree => .error (tree.typeFault expected)
    ofValue := fun value =>
      match value with
      | .object members => do
        let updates ← members.record fields []
        updates.assemble fields blank
      | .array values =>
        recordOfValues counted values.toList.length fields 0 values.toList blank
      | value => typeMismatch expected value }

/-- The keys of a tagged value, the tags that it may have, and how its content is read. -/
structure Tagging (τ α : Type) where
  tagKey : String
  contentKey : String
  tags : List (String × τ)
  content : τ → Decoder α

/-- How much of a tagged value has been read. -/
inductive Tagged (τ α : Type) where
  | nothing
  | tag (tag : τ)
  /-- The content, which cannot be understood before the tag is known. -/
  | content (content : Value)
  | whole (result : α)

namespace Tagging

/-- What has been read, if it is all that is wanted. -/
def finish (tagging : Tagging τ α) : Tagged τ α → Except Fault α
  | .whole result => .ok result
  | .tag _ => .error (.mismatch (.missingField tagging.contentKey))
  | .nothing => .error (.mismatch (.missingField tagging.tagKey))
  | .content _ => .error (.mismatch (.missingField tagging.tagKey))

/-- What has been read with the tag. -/
def addTag (tagging : Tagging τ α) (read : Decoder τ → Except Fault τ) :
    Tagged τ α → Except Fault (Tagged τ α)
  | .nothing => (read (.choice tagging.tags)).map .tag
  | .content content => do
    let tag ← read (.choice tagging.tags)
    ((tagging.content tag).ofValue content).map .whole
  | _ => .error (.mismatch (.duplicateField tagging.tagKey))

/-- What has been read with the content. -/
def addContent (tagging : Tagging τ α) (read : Decoder α → Except Fault α)
    (keep : Except Fault Value) : Tagged τ α → Except Fault (Tagged τ α)
  | .nothing => keep.map .content
  | .tag tag => (read (tagging.content tag)).map .whole
  | _ => .error (.mismatch (.duplicateField tagging.contentKey))

end Tagging

/-- Read the entries of an object that describes a tagged value. -/
def Entries.tagged (tagging : Tagging τ α) (depth : Nat) (state : Tagged τ α) :
    Entries → Except Fault (Tagged τ α)
  | .stop ending => do
    orFault ending.objectFault?
    return state
  | .nonKey => .error (.malformed .keyMustBeString)
  | .entry key value rest => do
    let key ← key.text
    if key = tagging.tagKey then do
      let state ← tagging.addTag (·.ofTree depth value) state
      rest.tagged tagging depth state
    else if key = tagging.contentKey then do
      let state ← tagging.addContent (·.ofTree depth value) (value.read depth) state
      rest.tagged tagging depth state
    else do
      orFault value.skipFault?
      rest.tagged tagging depth state

/-- Read the members of an object that describes a tagged value. -/
def Fields.tagged (tagging : Tagging τ α) (state : Tagged τ α) :
    Fields → Except Fault (Tagged τ α)
  | .nil => .ok state
  | .cons key value rest =>
    if key = tagging.tagKey then do
      let state ← tagging.addTag (·.ofValue value) state
      rest.tagged tagging state
    else if key = tagging.contentKey then do
      let state ← tagging.addContent (·.ofValue value) (.ok value) state
      rest.tagged tagging state
    else rest.tagged tagging state

/-- A value with a tag, which is also read from an array of the tag's name and the content. -/
def Decoder.tagged (name : String) (tagging : Tagging τ α) : Decoder α :=
  let expected := "adjacently tagged enum " ++ name
  let positional := Decoder.pairThen expected (.variant tagging.tags) tagging.content
  { ofTree := fun depth tree =>
      match tree with
      | .object entries => do
        let depth ← enter depth
        let state ← entries.tagged tagging depth .nothing
        tagging.finish state
      | tree => positional.ofTree depth tree
    ofValue := fun value =>
      match value with
      | .object members => do
        let state ← members.tagged tagging .nothing
        tagging.finish state
      | value => positional.ofValue value }

end EntityDiagram.Json
