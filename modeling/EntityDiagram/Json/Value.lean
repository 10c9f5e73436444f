import EntityDiagram.Json.Number

/-!
# JSON values

A value in memory, and how it is written: indented by two spaces, with a line for every member.
Objects keep their members in the given order; `Fields.insert` keeps them sorted by key.
-/

namespace EntityDiagram.Json

mutual

/-- A JSON value. -/
inductive Value where
  | null
  | bool (value : Bool)
  | number (value : Number)
  | string (value : String)
  | array (items : Values)
  | object (fields : Fields)
  deriving DecidableEq, Repr

/-- The items of an array. -/
inductive Values where
  | nil
  | cons (head : Value) (tail : Values)
  deriving DecidableEq, Repr

/-- The members of an object. -/
inductive Fields where
  | nil
  | cons (key : String) (value : Value) (tail : Fields)
  deriving DecidableEq, Repr

end

namespace Values

/-- The items as a list. -/
def toList : Values → List Value
  | nil => []
  | cons head tail => head :: tail.toList

/-- The items from a list. -/
def ofList : List Value → Values
  | [] => nil
  | head :: tail => cons head (ofList tail)

end Values

namespace Fields

/-- The members as a list of keys and values. -/
def toList : Fields → List (String × Value)
  | nil => []
  | cons key value tail => (key, value) :: tail.toList

/-- The members from a list of keys and values. -/
def ofList : List (String × Value) → Fields
  | [] => nil
  | (key, value) :: tail => cons key value (ofList tail)

/-- The value of the first member with a key. -/
def find? (key : String) : Fields → Option Value
  | nil => none
  | cons k value tail => if k = key then some value else tail.find? key

/-- Members in the order of their keys with one more, unless its key is there. -/
def insert (key : String) (value : Value) : Fields → Fields
  | nil => cons key value nil
  | cons k v tail =>
    if key = k then cons k v tail
    else if key < k then cons key value (cons k v tail)
    else cons k v (tail.insert key value)

theorem find?_insert_of_ne {key other : String} (h : other ≠ key) (value : Value) :
    ∀ fields : Fields, (fields.insert key value).find? other = fields.find? other
  | nil => by simp [insert, find?, h.symm]
  | cons k v tail => by
    simp only [insert]
    split
    · rfl
    · split
      · simp [find?, h.symm]
      · simp [find?, find?_insert_of_ne h value tail]

theorem isSome_find?_insert_self (key : String) (value : Value) :
    ∀ fields : Fields, ((fields.insert key value).find? key).isSome
  | nil => by simp [insert, find?]
  | cons k v tail => by
    simp only [insert]
    split
    · next h => simp [find?, h]
    · next h =>
      split
      · simp [find?]
      · simp [find?, Ne.symm h, isSome_find?_insert_self key value tail]

end Fields

namespace Value

/-- The array of some items. -/
def ofItems (items : List Value) : Value := array (.ofList items)

/-- The object with some members. -/
def ofFields (fields : List (String × Value)) : Value := object (.ofList fields)

/-- A text that may be absent. -/
def ofText? : Option String → Value
  | none => null
  | some text => string text

/-- What a value is called where something else was wanted. -/
def found : Value → Found
  | null => .null
  | bool value => .boolean value
  | number value => value.found
  | string value => .string value
  | array _ => .sequence
  | object _ => .map

end Value

end EntityDiagram.Json
