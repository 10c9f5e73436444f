/-!
# Undo and redo

A history keeps the states that edits replaced. The entries before the mark can be undone, the
newest first; those behind it can be redone. Undoing exchanges the live state with the entry before
the mark, so that the entry then holds what redoing brings back. When the history is full, the
oldest entry goes.
-/

namespace EntityDiagram

/-- The states that can be undone or redone, and how many may be kept. -/
structure History (σ : Type) where
  /-- The kept states, oldest first. -/
  entries : List σ := []
  /-- How many entries, from the oldest on, can be undone. -/
  undoable : Nat := 0
  /-- The largest number of entries. -/
  capacity : Nat
  deriving DecidableEq, Repr

namespace History

variable {σ : Type}

/-- The number of entries kept where no other limit is set. -/
def defaultLimit : Nat := 50

/-- The empty history for at most `limit` entries, and for one at least. -/
def ofLimit (limit : Nat) : History σ := { capacity := max limit 1 }

/-- Keep the state that an edit is about to replace. What could be redone is forgotten. -/
def record (history : History σ) (state : σ) : History σ :=
  let kept := history.entries.take history.undoable ++ [state]
  let entries := kept.drop (kept.length - history.capacity)
  { history with entries, undoable := entries.length }

/-- Go back one step from the live state; `none` if nothing can be undone. -/
def undo? (history : History σ) (live : σ) : Option (History σ × σ) :=
  match history.undoable with
  | 0 => none
  | mark + 1 =>
    history.entries[mark]?.map fun earlier =>
      ({ history with entries := history.entries.set mark live, undoable := mark }, earlier)

/-- Go forward one step from the live state; `none` if nothing can be redone. -/
def redo? (history : History σ) (live : σ) : Option (History σ × σ) :=
  history.entries[history.undoable]?.map fun later =>
    ({ history with
        entries := history.entries.set history.undoable live
        undoable := history.undoable + 1 }, later)

/-- Whether something can be undone. -/
def canUndo (history : History σ) : Bool := 0 < history.undoable

/-- Whether something can be redone. -/
def canRedo (history : History σ) : Bool := history.undoable < history.entries.length

/-- Forget every entry. -/
def clear (history : History σ) : History σ := { history with entries := [], undoable := 0 }

/-- The number of entries. -/
def length (history : History σ) : Nat := history.entries.length

/-- Whether there is no entry. -/
def isEmpty (history : History σ) : Bool := history.entries.isEmpty

/-- The place of the entry that undoing brings back, counted from zero; −1 if there is none. -/
def index (history : History σ) : Int := (history.undoable : Int) - 1

theorem undoable_record (history : History σ) (state : σ) :
    (history.record state).undoable = (history.record state).entries.length := rfl

theorem length_record_le (history : History σ) (state : σ) :
    (history.record state).entries.length ≤ history.capacity := by
  simp only [record, List.length_drop]
  omega

end History

end EntityDiagram
