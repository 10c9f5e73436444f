/-!
# Ordered collections of things with ids

Tables, fields, indexes, relationships, notes and areas all live in lists whose order matters and
whose members carry an id. The operations here work on the first member with an id: find it,
change it, take it out, or move it to another place.
-/

namespace EntityDiagram

/-- A type whose values carry an id. -/
class Keyed (α : Type) where
  /-- The id of a value. -/
  key : α → String

namespace Keyed

variable {α : Type} [Keyed α]

/-- Whether a value has the given id. -/
def hasKey (id : String) (a : α) : Bool := key a == id

/-- The first member with an id. -/
def find? (items : List α) (id : String) : Option α := items.find? (hasKey id)

/-- The place of the first member with an id, counted from zero. -/
def position? (items : List α) (id : String) : Option Nat := items.findIdx? (hasKey id)

/-- Whether some member has the given id. -/
def contains (items : List α) (id : String) : Bool := items.any (hasKey id)

/-- The collection with the first member that has the id replaced by its image. -/
def update (f : α → α) (id : String) : List α → List α
  | [] => []
  | a :: rest => if hasKey id a then f a :: rest else a :: update f id rest

/-- The collection without the first member that has the id. -/
def erase (items : List α) (id : String) : List α := items.eraseP (hasKey id)

/-- The collection with the member at `source` taken out and put in again at `target`, or at the
end if `target` lies beyond it. -/
def move (items : List α) (source target : Nat) : List α :=
  match items[source]? with
  | none => items
  | some a => (items.eraseIdx source).insertIdx (min target (items.length - 1)) a

/-- The collection with the first member that has the id moved to `target`. -/
def reorder (items : List α) (id : String) (target : Nat) : List α :=
  match position? items id with
  | none => items
  | some source => move items source target

@[simp] theorem hasKey_iff {id : String} {a : α} : hasKey id a = true ↔ key a = id := by
  simp [hasKey]

theorem contains_iff {items : List α} {id : String} :
    contains items id = true ↔ ∃ a ∈ items, key a = id := by
  simp [contains, List.any_eq_true]

theorem find?_isSome_iff {items : List α} {id : String} :
    (find? items id).isSome = true ↔ contains items id = true := by
  simp [find?, contains, List.find?_isSome]

theorem key_of_find?_eq_some {items : List α} {id : String} {a : α}
    (h : find? items id = some a) : key a = id :=
  hasKey_iff.mp (List.find?_some h)

@[simp] theorem update_nil (f : α → α) (id : String) : update f id [] = [] := rfl

theorem map_key_update {f : α → α} (hf : ∀ a, key (f a) = key a) (id : String) (items : List α) :
    (update f id items).map key = items.map key := by
  induction items with
  | nil => rfl
  | cons a rest ih =>
    simp only [update]
    split <;> simp [hf, ih]

theorem erase_sublist (items : List α) (id : String) : (erase items id).Sublist items :=
  List.eraseP_sublist

end Keyed

end EntityDiagram
