import EntityDiagram.Json.Reading

/-!
# Decoders

A decoder says how a type is described in JSON. It has two readings: straight from what a text
spells, where the first fault in the text wins, and from a value in memory, whose members stand in
the order of their keys.
-/

namespace EntityDiagram.Json

/-- How a type is described in JSON. -/
structure Decoder (α : Type) where
  /-- Read what a text spells, with containers nested up to the given depth. -/
  ofTree : Nat → Tree → Except Fault α
  /-- Read a value in memory. -/
  ofValue : Value → Except Fault α

/-- The rest of the depth inside a container. -/
def enter : (depth : Nat) → Except Fault Nat
  | 0 => .error (.malformed .recursionLimit)
  | depth + 1 => .ok depth

/-- A value of another kind than the one expected. -/
def typeMismatch {α : Type} (expected : String) (value : Value) : Except Fault α :=
  .error (.mismatch (.invalidType value.found expected))

/-- The items of an array, each read in the same way. -/
def Items.decode {α : Type} (read : Tree → Except Fault α) : Items → Except Fault (List α)
  | .stop ending => do
    orFault ending.listFault?
    return []
  | .item head rest => do
    let first ← read head
    let others ← rest.decode read
    return first :: others

namespace Decoder

variable {α β : Type}

/-- The same description with another meaning. -/
def map (f : α → β) (decoder : Decoder α) : Decoder β where
  ofTree depth tree := (decoder.ofTree depth tree).map f
  ofValue value := (decoder.ofValue value).map f

/-- Something described without containers. -/
def leaf (read : Value → Except Fault α) : Decoder α where
  ofTree _ tree := tree.outline >>= read
  ofValue := read

/-- A text. -/
def text : Decoder String := leaf fun value =>
  match value with
  | .string text => .ok text
  | value => typeMismatch "a string" value

/-- A yes or no. -/
def flag : Decoder Bool := leaf fun value =>
  match value with
  | .bool flag => .ok flag
  | value => typeMismatch "a boolean" value

/-- A whole number of 32 bits. -/
def word : Decoder UInt32 := leaf fun value =>
  match value with
  | .number (.integer n) =>
    if 0 ≤ n ∧ n < UInt32.size then .ok n.toNat.toUInt32
    else .error (.mismatch (.invalidValue (.integer n) "u32"))
  | value => typeMismatch "u32" value

/-- A floating-point number. -/
def float : Decoder Float := leaf fun value =>
  match value with
  | .number n => .ok n.toFloat
  | value => typeMismatch "f64" value

/-- Something that may be null. -/
def optional (decoder : Decoder α) : Decoder (Option α) where
  ofTree depth tree :=
    match tree with
    | .null => .ok none
    | tree => (decoder.ofTree depth tree).map some
  ofValue value :=
    match value with
    | .null => .ok none
    | value => (decoder.ofValue value).map some

/-- A list. -/
def list (decoder : Decoder α) : Decoder (List α) where
  ofTree depth tree :=
    match tree with
    | .array items => do
      let depth ← enter depth
      items.decode (decoder.ofTree depth)
    | tree => .error (tree.typeFault "a sequence")
  ofValue value :=
    match value with
    | .array items => items.toList.mapM decoder.ofValue
    | value => typeMismatch "a sequence" value

/-- What is said about an array with more items than wanted. -/
def tooLong (length : Nat) : Except Fault α :=
  .error (.mismatch (.invalidLength length "fewer elements in array"))

/-- The first item of an array and the others; what is expected is said if there is none. -/
def firstItem (expected : String) (index : Nat) : Items → Except Fault (Tree × Items)
  | .item head rest => .ok (head, rest)
  | .stop ending => do
    orFault ending.listFault?
    .error (.mismatch (.invalidLength index expected))

/-- Two things in an array, of which the second may depend on the first. -/
def pairThen (expected : String) (first : Decoder α) (second : α → Decoder β) : Decoder β where
  ofTree depth tree :=
    match tree with
    | .array items => do
      let depth ← enter depth
      let (head, rest) ← firstItem expected 0 items
      let a ← first.ofTree depth head
      let (head, rest) ← firstItem expected 1 rest
      let b ← (second a).ofTree depth head
      orFault rest.surplusFault?
      return b
    | tree => .error (tree.typeFault expected)
  ofValue value :=
    match value with
    | .array items =>
      match items.toList with
      | [] => .error (.mismatch (.invalidLength 0 expected))
      | [head] => do
        let _ ← first.ofValue head
        .error (.mismatch (.invalidLength 1 expected))
      | head :: next :: rest => do
        let a ← first.ofValue head
        let b ← (second a).ofValue next
        if rest.isEmpty then return b else tooLong items.toList.length
    | value => typeMismatch expected value

/-- Two things in an array. -/
def pair (first : Decoder α) (second : Decoder β) : Decoder (α × β) :=
  pairThen "a tuple of size 2" first fun a => second.map (Prod.mk a)

/-- The variant with a name. -/
def pick (variants : List (String × α)) (name : String) : Except Fault α :=
  match variants.lookup name with
  | some a => .ok a
  | none => .error (.mismatch (.unknownVariant name (variants.map Prod.fst)))

/-- One of some variants by its name alone. -/
def variant (variants : List (String × α)) : Decoder α := leaf fun value =>
  match value with
  | .string name => pick variants name
  | value => typeMismatch "variant identifier" value

/-- One of some variants: its name, or an object with its name as the only key and null as the
value. -/
def choice (variants : List (String × α)) : Decoder α where
  ofTree depth tree :=
    match tree with
    | .string spelling => spelling.text >>= pick variants
    | .object entries => do
      let _ ← enter depth
      match entries with
      | .stop .cut => .error (.unfinished .object)
      | .stop _ => .error (.malformed .expectedValue)
      | .nonKey => .error (.malformed .keyMustBeString)
      | .entry key value rest => do
        let a ← key.text >>= pick variants
        match value with
        | .null =>
          match rest with
          | .stop .closed => return a
          | .stop .cut => .error (.unfinished .object)
          | _ => .error (.malformed .expectedValue)
        | value => .error (value.typeFault "unit")
    | .absent fault => .error fault
    | _ => .error (.malformed .expectedValue)
  ofValue value :=
    match value with
    | .string name => pick variants name
    | .object (.cons key value .nil) => do
      let a ← pick variants key
      match value with
      | .null => return a
      | value => typeMismatch "unit" value
    | .object _ => .error (.mismatch (.invalidValue .map "map with a single key"))
    | value => typeMismatch "string or map" value

end Decoder

end EntityDiagram.Json
