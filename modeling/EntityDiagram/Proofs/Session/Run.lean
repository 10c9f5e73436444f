import EntityDiagram.Proofs.Session.Edit
import EntityDiagram.Session.Basic

/-!
# Properties that hold everywhere in a session

Undoing and redoing bring back states that were live before, so a property that edits keep has to be
followed through the history as well as through the live diagram. A property holds everywhere if it
holds of both; one step of a session keeps it if edits, moves and loaded diagrams do, and by
induction a whole run does.
-/

namespace EntityDiagram

namespace History

variable {σ : Type} {history next : History σ} {live state other : σ}

theorem mem_entries_record (member : state ∈ (history.record live).entries) :
    state ∈ history.entries ∨ state = live := by
  simp only [record] at member
  rcases List.mem_append.mp (List.mem_of_mem_drop member) with old | new
  · exact .inl (List.mem_of_mem_take old)
  · exact .inr (List.mem_singleton.mp new)

/-- Undoing brings back an entry, and leaves the live state in its place. -/
theorem undo?_eq_some (h : history.undo? live = some (next, other)) :
    other ∈ history.entries ∧
      ∀ state ∈ next.entries, state ∈ history.entries ∨ state = live := by
  unfold undo? at h
  split at h
  · cases h
  · obtain ⟨earlier, found, same⟩ := Option.map_eq_some_iff.mp h
    cases same
    exact ⟨List.mem_of_getElem? found, fun state => List.mem_or_eq_of_mem_set⟩

theorem redo?_eq_some (h : history.redo? live = some (next, other)) :
    other ∈ history.entries ∧
      ∀ state ∈ next.entries, state ∈ history.entries ∨ state = live := by
  obtain ⟨later, found, same⟩ := Option.map_eq_some_iff.mp h
  cases same
  exact ⟨List.mem_of_getElem? found, fun state => List.mem_or_eq_of_mem_set⟩

end History

/-- A command that leads from diagrams with a property to diagrams with the property. Going back
and forth always does: it only brings back states that were there. -/
def Command.Keeps (P : Diagram → Prop) : Command → Prop
  | .edit change =>
    ∀ diagram next shown, P diagram → change.apply diagram = .ok (next, shown) → P next
  | .move kind id position =>
    ∀ diagram next, P diagram → diagram.move kind id position = .ok next → P next
  | .undo => True
  | .redo => True
  | .load diagram => P diagram

namespace Session

/-- A property of the live diagram and of every state in the history. -/
structure Everywhere (P : Diagram → Prop) (session : Session) : Prop where
  live : P session.diagram
  kept : ∀ state ∈ session.history.entries, P state

namespace Everywhere

variable {P : Diagram → Prop} {session : Session}

theorem start {diagram : Diagram} (h : P diagram) (limit : Nat) :
    (Session.start diagram limit).Everywhere P :=
  ⟨h, by simp [Session.start, History.ofLimit]⟩

/-- An edit records the state before it, so only the state after it is to be looked at. -/
theorem edit (h : session.Everywhere P) {edit : Edit} {next : Session} {shown : Member}
    (done : session.edit edit = .ok (next, shown)) (live : P next.diagram) :
    next.Everywhere P := by
  obtain ⟨⟨diagram, member⟩, _, same⟩ := map_eq_ok_iff.mp done
  cases same
  refine ⟨live, ?_⟩
  intro state member
  rcases History.mem_entries_record member with old | rfl
  · exact h.kept state old
  · exact h.live

/-- One step keeps a property everywhere if its command keeps it. -/
theorem perform (h : session.Everywhere P) {command : Command} (keeps : command.Keeps P) :
    (session.perform command).1.Everywhere P := by
  cases command with
  | edit edit =>
      simp only [Session.perform]
      split
      · next next shown done =>
        refine h.edit done ?_
        obtain ⟨⟨diagram, member⟩, applied, same⟩ := map_eq_ok_iff.mp done
        cases same
        exact keeps _ _ _ h.live applied
      · exact h
  | move kind id position =>
      simp only [Session.perform]
      split
      · next next done =>
        obtain ⟨diagram, moved, rfl⟩ := map_eq_ok_iff.mp done
        exact ⟨keeps _ _ h.live moved, h.kept⟩
      · exact h
  | undo =>
      simp only [Session.perform]
      split
      · next next done =>
        obtain ⟨⟨history, diagram⟩, undone, rfl⟩ := Option.map_eq_some_iff.mp done
        obtain ⟨back, entries⟩ := History.undo?_eq_some undone
        refine ⟨h.kept _ back, ?_⟩
        intro state member
        rcases entries state member with old | rfl
        · exact h.kept state old
        · exact h.live
      · exact h
  | redo =>
      simp only [Session.perform]
      split
      · next next done =>
        obtain ⟨⟨history, diagram⟩, redone, rfl⟩ := Option.map_eq_some_iff.mp done
        obtain ⟨forth, entries⟩ := History.redo?_eq_some redone
        refine ⟨h.kept _ forth, ?_⟩
        intro state member
        rcases entries state member with old | rfl
        · exact h.kept state old
        · exact h.live
      · exact h
  | load diagram => exact ⟨keeps, by simp [Session.perform, Session.load, History.clear]⟩

/-- A run keeps a property everywhere if each of its commands keeps it. -/
theorem run (h : session.Everywhere P) {commands : List Command}
    (keeps : ∀ command ∈ commands, command.Keeps P) : (session.run commands).Everywhere P := by
  induction commands generalizing session with
  | nil => exact h
  | cons command rest ih =>
      rw [run_cons]
      exact ih (h.perform (keeps command List.mem_cons_self))
        fun later member => keeps later (List.mem_cons_of_mem _ member)

end Everywhere

end Session

end EntityDiagram
