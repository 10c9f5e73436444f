import EntityDiagram.Diagram.DefaultValue
import EntityDiagram.Keyed

/-!
# Fields

A field is a column of a table. Its type is a logical name that each engine spells in its own way.
-/

namespace EntityDiagram

/-- A column of a table. -/
structure Field where
  id : String
  name : String
  /-- The logical name of the type. -/
  dataType : String
  size : Option UInt32 := none
  precision : Option UInt32 := none
  scale : Option UInt32 := none
  primary : Bool := false
  unique : Bool := false
  notNull : Bool := false
  /-- Whether the column counts up by itself. -/
  increment : Bool := false
  unsigned : Bool := false
  isArray : Bool := false
  default : Option DefaultValue := none
  /-- A condition that every row meets. -/
  check : Option String := none
  comment : String := ""
  deriving DecidableEq, Repr

namespace Field

instance : Keyed Field := ⟨Field.id⟩

@[simp] theorem key_eq (field : Field) : Keyed.key field = field.id := rfl

/-- The field as a primary key, which never holds null. -/
def asPrimaryKey (field : Field) : Field := { field with primary := true, notNull := true }

/-- The field counting up by itself: never null, and without a default. -/
def asIncrement (field : Field) : Field :=
  { field with increment := true, notNull := true, default := none }

/-- The field with a precision and perhaps a scale. -/
def withPrecision (field : Field) (precision : UInt32) (scale : Option UInt32) : Field :=
  { field with precision := some precision, scale }

/-- Whether the column refuses null: because it says so, or as a key, or as a counter. -/
def isRequired (field : Field) : Bool := field.notNull || field.primary || field.increment

/-- Whether a comment is there to be written. -/
def hasComment (field : Field) : Bool := !Text.isAllBlank field.comment

end Field

end EntityDiagram
