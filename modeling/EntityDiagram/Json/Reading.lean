import EntityDiagram.Json.Document
import EntityDiagram.Json.Value

/-!
# Reading trees

A tree is read into a value, or passed over where nobody wants its value. Either way its first
fault in the order of the text is the one reported. Reading minds more than passing over: pairs of
escapes, the range of numbers, and the depth of nesting.
-/

namespace EntityDiagram.Json

/-- Whether a number is the first half of a pair of escapes. -/
def isHighUnit (unit : Nat) : Bool := 0xD800 ≤ unit && unit < 0xDC00

/-- Whether a number is the second half of a pair of escapes. -/
def isLowUnit (unit : Nat) : Bool := 0xDC00 ≤ unit && unit < 0xE000

/-- The character that a pair of escapes stands for. -/
def pairedChar (high low : Nat) : Char :=
  Char.ofNat (0x10000 + 0x400 * (high - 0xD800) + (low - 0xDC00))

/-- What is wrong with the end of a string, perhaps in the middle of a pair of escapes. -/
def StringEnd.fault? (inPair : Bool) : StringEnd → Option Fault
  | cut => some (.unfinished .string)
  | badHex => some (.malformed .invalidEscape)
  | closed => if inPair then some (.malformed .unexpectedEndOfHexEscape) else none
  | control => some (.malformed (if inPair then .unexpectedEndOfHexEscape else .controlCharacter))
  | badEscape => some (.malformed (if inPair then .unexpectedEndOfHexEscape else .invalidEscape))

/-- The characters that the parts of a string stand for, perhaps behind the first half of a pair
of escapes. -/
def joinParts (ending : StringEnd) : (high : Option Nat) → List StringPart →
    Except Fault (List Char)
  | high, [] =>
    match ending.fault? high.isSome with
    | some fault => .error fault
    | none => .ok []
  | none, .char c :: rest => (joinParts ending none rest).map (c :: ·)
  | some _, .char _ :: _ => .error (.malformed .unexpectedEndOfHexEscape)
  | none, .unit unit :: rest =>
    if isHighUnit unit then joinParts ending (some unit) rest
    else if isLowUnit unit then .error (.malformed .loneSurrogate)
    else (joinParts ending none rest).map (Char.ofNat unit :: ·)
  | some high, .unit unit :: rest =>
    if isLowUnit unit then (joinParts ending none rest).map (pairedChar high unit :: ·)
    else .error (.malformed .loneSurrogate)

/-- The text that a spelling stands for. -/
def Spelling.text (spelling : Spelling) : Except Fault String :=
  (joinParts spelling.ending none spelling.parts).map String.ofList

/-- Nothing, or the fault that is there. -/
def orFault : Option Fault → Except Fault Unit
  | none => .ok ()
  | some fault => .error fault

/-- What is wrong with a number that breaks off. -/
def brokenNumber (cut : Bool) : Fault :=
  if cut then .unfinished .value else .malformed .invalidNumber

/-- The value of a number. -/
def Numeral.read (numeral : Numeral) : Except Fault Number :=
  match numeral.number? with
  | some number => .ok number
  | none => .error (.malformed .numberOutOfRange)

/-- How deep containers may be nested where values are wanted. -/
def maxDepth : Nat := 127

mutual

/-- The value of a tree, with containers nested up to the given depth. -/
def Tree.read : (depth : Nat) → Tree → Except Fault Value
  | _, .absent fault => .error fault
  | _, .broken fault => .error fault
  | _, .null => .ok .null
  | _, .bool value => .ok (.bool value)
  | _, .number numeral => numeral.read.map .number
  | _, .badNumber cut => .error (brokenNumber cut)
  | _, .string spelling => spelling.text.map .string
  | 0, .array _ => .error (.malformed .recursionLimit)
  | 0, .object _ => .error (.malformed .recursionLimit)
  | depth + 1, .array items => (items.read depth).map .array
  | depth + 1, .object entries => (entries.read depth).map .object

/-- The values of the items of an array. -/
def Items.read : (depth : Nat) → Items → Except Fault Values
  | _, .stop ending => do
    orFault ending.listFault?
    return .nil
  | depth, .item head rest => do
    let value ← head.read depth
    let values ← rest.read depth
    return .cons value values

/-- The members of an object in the order of their keys; of members with one key the last
counts. -/
def Entries.read : (depth : Nat) → Entries → Except Fault Fields
  | _, .stop ending => do
    orFault ending.objectFault?
    return .nil
  | _, .nonKey => .error (.malformed .keyMustBeString)
  | depth, .entry key value rest => do
    let key ← key.text
    let value ← value.read depth
    let fields ← rest.read depth
    return fields.insert key value

end

/-- What is wrong with a string that is passed over. -/
def Spelling.skipFault? (spelling : Spelling) : Option Fault := spelling.ending.fault? false

mutual

/-- The fault at which passing over a tree fails. -/
def Tree.skipFault? : Tree → Option Fault
  | .absent fault => some fault
  | .broken fault => some fault
  | .null => none
  | .bool _ => none
  | .number _ => none
  | .badNumber _ => some (.malformed .invalidNumber)
  | .string spelling => spelling.skipFault?
  | .array items => items.skipFault?
  | .object entries => entries.skipFault?

/-- The fault at which passing over items fails. Behind a comma a value is due. -/
def Items.skipFault? : Items → Option Fault
  | .stop .commaClosed => some (.malformed .expectedValue)
  | .stop ending => ending.listFault?
  | .item head rest => head.skipFault?.or rest.skipFault?

/-- The fault at which passing over entries fails. Behind a comma a key is due. -/
def Entries.skipFault? : Entries → Option Fault
  | .stop .commaClosed => some (.malformed .keyMustBeString)
  | .stop .commaCut => some (.unfinished .object)
  | .stop ending => ending.objectFault?
  | .nonKey => some (.malformed .keyMustBeString)
  | .entry key value rest => key.skipFault?.or (value.skipFault?.or rest.skipFault?)

end

/-- The value of a tree with its containers left unopened. -/
def Tree.outline : Tree → Except Fault Value
  | .array _ => .ok (.array .nil)
  | .object _ => .ok (.object .nil)
  | tree => tree.read 0

/-- The fault of a tree that is not of the kind expected: its own, or that it is another kind. -/
def Tree.typeFault (expected : String) (tree : Tree) : Fault :=
  match tree.outline with
  | .error fault => fault
  | .ok value => .mismatch (.invalidType value.found expected)

/-- Something read from the root of a document, with nothing but space behind it. -/
def Document.decode {α : Type} (read : Tree → Except Fault α) (document : Document) :
    Except Fault α := do
  let result ← read document.root
  orFault (if document.isWhole then none else some (.malformed .trailingCharacters))
  return result

/-- The value of a document. -/
def Document.read (document : Document) : Except Fault Value := document.decode (·.read maxDepth)

end EntityDiagram.Json
