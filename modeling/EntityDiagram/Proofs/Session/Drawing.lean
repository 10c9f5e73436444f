import EntityDiagram.Proofs.Session.Run
import EntityDiagram.Session.Connection
import Mathlib.Data.List.Perm.Subperm
import Mathlib.Data.Sym.Sym2

/-!
# Drawn relationships make a simple graph

A relationship is drawn in two steps, and anything may happen in between: the field where the pen
was put down may go and come back by undoing, and the two fields may get joined by another line.
The state of the pen and the session are therefore followed together. What is kept is that no field
is joined to itself and no two fields are joined twice; only relationships that are added or loaded
ready-made could break it.
-/

namespace EntityDiagram

/-- The two sides of a relationship, in no order. -/
def Relationship.line (relationship : Relationship) : Sym2 Endpoint :=
  s(relationship.start, relationship.target)

theorem Relationship.joins_iff {relationship : Relationship} {a b : Endpoint} :
    relationship.joins a b = true ↔ relationship.line = s(a, b) := by
  simp [joins, line]

namespace Diagram

/-- The lines that are drawn in the diagram. -/
def lines (diagram : Diagram) : List (Sym2 Endpoint) :=
  diagram.relationships.map Relationship.line

/-- No line leads back to where it began, and no two lines join the same two fields. -/
structure IsSimple (diagram : Diagram) : Prop where
  loopless : ∀ line ∈ diagram.lines, ¬ line.IsDiag
  single : diagram.lines.Nodup

instance (diagram : Diagram) : Decidable diagram.IsSimple :=
  decidable_of_iff ((∀ line ∈ diagram.lines, ¬ line.IsDiag) ∧ diagram.lines.Nodup)
    ⟨fun h => ⟨h.1, h.2⟩, fun h => ⟨h.loopless, h.single⟩⟩

variable {diagram next : Diagram}

/-- Two fields are not joined exactly if the line between them is not drawn. -/
theorem relationshipBetween?_eq_none_iff {a b : Endpoint} :
    diagram.relationshipBetween? a b = none ↔ s(a, b) ∉ diagram.lines := by
  simp [relationshipBetween?, lines, Relationship.joins_iff]

/-- Fewer lines, in any order. -/
theorem IsSimple.of_subperm (h : diagram.IsSimple) (fewer : next.lines.Subperm diagram.lines) :
    next.IsSimple := by
  obtain ⟨kept, same, sub⟩ := fewer
  refine ⟨fun line drawn => ?_, same.nodup_iff.mp (h.single.sublist sub)⟩
  exact h.loopless line (sub.subset (same.mem_iff.mpr drawn))

/-- One line more, between two fields that are not joined. -/
theorem IsSimple.draw (h : diagram.IsSimple) {a b : Endpoint} (apart : a ≠ b)
    (free : diagram.relationshipBetween? a b = none)
    (drawn : next.lines = diagram.lines ++ [s(a, b)]) : next.IsSimple := by
  have absent : s(a, b) ∉ diagram.lines := relationshipBetween?_eq_none_iff.mp free
  refine ⟨?_, ?_⟩ <;> rw [drawn]
  · intro line member
    rcases List.mem_append.mp member with old | new
    · exact h.loopless line old
    · rw [List.mem_singleton.mp new]
      exact apart
  · exact h.single.append (List.nodup_singleton _) (by simpa using absent)

end Diagram

/-- Whether a command brings in relationships of its own. -/
def Command.bringsRelationships : Command → Bool
  | .edit (.addRelationship _) | .load _ => true
  | _ => false

namespace Diagram

variable {diagram next : Diagram}

theorem lines_of_inTable {β : Type} {tableId : String}
    {change : Table → Except EditError (Table × β)} {b : β}
    (done : diagram.inTable tableId change = .ok (next, b)) : next.lines = diagram.lines := by
  obtain ⟨_, _, _, _, rfl⟩ := inTable_eq_ok_iff.mp done
  rfl

/-- No edit draws a line but the one that adds a relationship. -/
theorem lines_subperm_of_apply {edit : Edit} {shown : Member}
    (bare : (Command.edit edit).bringsRelationships = false)
    (done : edit.apply diagram = .ok (next, shown)) :
    next.lines.Subperm diagram.lines := by
  cases edit with
  | setTitle _ | setDialect _ =>
      cases done
      exact .refl _
  | addTable _ | addNote _ | addArea _ =>
      obtain ⟨_, rfl⟩ := Shelf.add_eq_ok_iff.mp (Edit.presenting_eq_ok_iff.mp done).1
      exact .refl _
  | updateTable _ _ | updateNote _ _ | updateArea _ _ =>
      obtain ⟨_, updated, _⟩ := Edit.showing_eq_ok_iff.mp done
      obtain ⟨_, _, rfl, _⟩ := Shelf.update_eq_ok_iff.mp updated
      exact .refl _
  | deleteNote _ | deleteArea _ =>
      obtain ⟨_, deleted, _⟩ := Edit.showing_eq_ok_iff.mp done
      obtain ⟨_, rfl⟩ := Shelf.delete_eq_ok_iff.mp deleted
      exact .refl _
  | reorderTable _ _ | reorderNote _ _ | reorderArea _ _ =>
      obtain ⟨_, rfl⟩ := Shelf.reorder_eq_ok_iff.mp (Edit.presenting_eq_ok_iff.mp done).1
      exact .refl _
  | addField _ _ | updateField _ _ _ | setFieldDefault _ _ _ | reorderField _ _ _ =>
      rw [lines_of_inTable done]
  | addIndex _ _ | updateIndex _ _ _ | deleteIndex _ _ | reorderIndex _ _ _ =>
      rw [lines_of_inTable done]
  | deleteTable id =>
      obtain ⟨_, deleted, _⟩ := Edit.showing_eq_ok_iff.mp done
      obtain ⟨_, rfl⟩ := deleteTable_eq_ok_iff.mp deleted
      exact (List.filter_sublist.map _).subperm
  | deleteField tableId id =>
      obtain ⟨_, deleted, _⟩ := Edit.showing_eq_ok_iff.mp done
      obtain ⟨rest, inside, rfl⟩ := deleteField_eq_ok_iff.mp deleted
      rw [← lines_of_inTable inside]
      exact (List.filter_sublist.map _).subperm
  | addRelationship relationship => cases bare
  | updateRelationship id patch =>
      obtain ⟨_, updated, _⟩ := Edit.showing_eq_ok_iff.mp done
      obtain ⟨_, _, rfl, _⟩ := Shelf.update_eq_ok_iff.mp updated
      have same : (Keyed.update patch.apply id diagram.relationships).map Relationship.line =
          diagram.relationships.map Relationship.line :=
        Keyed.map_update_of_find? fun _ _ => rfl
      exact (List.Perm.of_eq same).subperm
  | deleteRelationship id =>
      obtain ⟨_, deleted, _⟩ := Edit.showing_eq_ok_iff.mp done
      obtain ⟨_, rfl⟩ := Shelf.delete_eq_ok_iff.mp deleted
      exact ((Keyed.erase_sublist diagram.relationships id).map _).subperm
  | reorderRelationship id target =>
      obtain ⟨_, rfl⟩ := Shelf.reorder_eq_ok_iff.mp (Edit.presenting_eq_ok_iff.mp done).1
      exact ((Keyed.reorder_perm diagram.relationships id target).map _).subperm

theorem lines_of_move {kind : Movable} {id : String} {position : Position}
    (done : diagram.move kind id position = .ok next) : next.lines = diagram.lines := by
  cases kind <;>
  · obtain ⟨⟨_, _⟩, moved, rfl⟩ := map_eq_ok_iff.mp done
    obtain ⟨_, _, rfl, _⟩ := Shelf.update_eq_ok_iff.mp moved
    rfl

end Diagram

/-- A command keeps the graph simple unless it brings in relationships of its own. -/
theorem Command.keeps_isSimple {command : Command} (bare : command.bringsRelationships = false) :
    command.Keeps Diagram.IsSimple := by
  cases command with
  | edit edit =>
      exact fun diagram next shown h done =>
        h.of_subperm (Diagram.lines_subperm_of_apply bare done)
  | move kind id position =>
      exact fun diagram next h done =>
        h.of_subperm (List.Perm.of_eq (Diagram.lines_of_move done)).subperm
  | undo => trivial
  | redo => trivial
  | load loaded => cases bare

namespace Connection

variable {connection : Connection} {session : Session}

/-- Lifting the pen either leaves the session as it is, or it was down on another field that is not
joined to this one, and the two are joined as by an edit. -/
theorem finish_cases (connection : Connection) (session : Session) (target : Endpoint)
    (newId : String) :
    (connection.finish session target newId).2 = (session, none) ∨
      ∃ source next shown, connection = pending source ∧ source ≠ target ∧
        session.diagram.relationshipBetween? source target = none ∧
        session.edit (.addRelationship (.between newId source target)) = .ok (next, shown) ∧
        (connection.finish session target newId).2 =
          (next, some (.between newId source target)) := by
  cases connection with
  | idle => exact .inl rfl
  | pending source =>
      simp only [finish, Bool.or_eq_true, decide_eq_true_eq]
      split
      · exact .inl rfl
      · next allowed =>
        obtain ⟨apart, free⟩ := not_or.mp allowed
        split
        · next next shown done =>
          exact .inr ⟨source, next, shown, rfl, apart, by simpa using free, done, rfl⟩
        · exact .inl rfl

/-- Lifting the pen keeps the graph simple. -/
theorem isSimple_finish (h : session.Everywhere Diagram.IsSimple) (target : Endpoint)
    (newId : String) :
    (connection.finish session target newId).2.1.Everywhere Diagram.IsSimple := by
  rcases finish_cases connection session target newId with
    same | ⟨source, next, shown, _, apart, free, done, drawn⟩
  · rw [same]
    exact h
  · rw [drawn]
    refine h.edit done ?_
    obtain ⟨⟨diagram, member⟩, applied, rfl, _⟩ := map_eq_ok_iff.mp done
    obtain ⟨_, _, _, rfl⟩ :=
      Diagram.addRelationship_eq_ok_iff.mp (Edit.presenting_eq_ok_iff.mp applied).1
    exact h.live.draw apart free (by simp [Diagram.lines, Relationship.line])

end Connection

/-- A session together with the pen. -/
structure Workbench where
  connection : Connection := .idle
  session : Session := {}
  deriving DecidableEq, Repr

/-- All that can be done with the pen and to the session. -/
inductive Gesture where
  | start (source : Endpoint)
  | cancel
  | finish (target : Endpoint) (newId : String)
  | perform (command : Command)
  deriving DecidableEq, Repr

/-- Whether a gesture brings in relationships that were not drawn. -/
def Gesture.bringsRelationships : Gesture → Bool
  | .perform command => command.bringsRelationships
  | _ => false

namespace Workbench

/-- The pen and the session after a gesture. -/
def step (bench : Workbench) : Gesture → Workbench
  | .start source => { bench with connection := bench.connection.start source }
  | .cancel => { bench with connection := bench.connection.cancel }
  | .finish target newId =>
    let (connection, session, _) := bench.connection.finish bench.session target newId
    { connection, session }
  | .perform command => { bench with session := (bench.session.perform command).1 }

/-- The pen and the session after a run of gestures. -/
def run (bench : Workbench) (gestures : List Gesture) : Workbench := gestures.foldl step bench

@[simp] theorem run_nil (bench : Workbench) : bench.run [] = bench := rfl

@[simp] theorem run_cons (bench : Workbench) (gesture : Gesture) (rest : List Gesture) :
    bench.run (gesture :: rest) = (bench.step gesture).run rest := rfl

variable {bench : Workbench}

/-- Wherever the pen is, a gesture keeps the graph simple. -/
theorem isSimple_step (h : bench.session.Everywhere Diagram.IsSimple) {gesture : Gesture}
    (bare : gesture.bringsRelationships = false) :
    (bench.step gesture).session.Everywhere Diagram.IsSimple := by
  cases gesture with
  | start source => exact h
  | cancel => exact h
  | finish target newId => exact Connection.isSimple_finish h target newId
  | perform command => exact h.perform (Command.keeps_isSimple bare)

/-- Whatever is done in between, whatever is undone or redone and wherever the pen is to begin with,
the relationships that are drawn in a session join no field to itself and no two fields twice, in
the live diagram and in all that can be undone or redone, if this was so before. -/
theorem isSimple_everywhere (h : bench.session.Everywhere Diagram.IsSimple)
    (gestures : List Gesture) (bare : ∀ gesture ∈ gestures, gesture.bringsRelationships = false) :
    (bench.run gestures).session.Everywhere Diagram.IsSimple := by
  induction gestures generalizing bench with
  | nil => exact h
  | cons gesture rest ih =>
      rw [run_cons]
      exact ih (isSimple_step h (bare gesture List.mem_cons_self))
        fun later member => bare later (List.mem_cons_of_mem _ member)

/-- Two fields are joined and the line is undone. The pen is put down on the second field, the line
comes back by redoing, and it cannot be drawn again the other way round. Then the field goes while
the pen is down, and comes back; nor can it be joined to itself. -/
theorem isSimple_everywhere_back_and_forth :
    let field (id : String) : Field := { id, name := id, dataType := "INT" }
    let users : Table := { id := "t", name := "users", fields := [field "a", field "b"] }
    let bench : Workbench := { session := .start { tables := [users] } 5 }
    let gestures : List Gesture := [.start ⟨"t", "a"⟩, .finish ⟨"t", "b"⟩ "r", .perform .undo,
      .start ⟨"t", "b"⟩, .perform .redo, .finish ⟨"t", "a"⟩ "s", .start ⟨"t", "a"⟩,
      .perform (.edit (.deleteField "t" "a")), .perform .undo, .finish ⟨"t", "a"⟩ "s"]
    bench.session.Everywhere Diagram.IsSimple ∧
      (∀ gesture ∈ gestures, gesture.bringsRelationships = false) ∧
      (bench.run gestures).session.Everywhere Diagram.IsSimple ∧
      (bench.run gestures).session.diagram.relationships.map Relationship.id = ["r"] := by
  intro field users bench gestures
  have simple : bench.session.Everywhere Diagram.IsSimple := .start (by decide) 5
  have bare : ∀ gesture ∈ gestures, gesture.bringsRelationships = false := by decide
  exact ⟨simple, bare, isSimple_everywhere simple gestures bare, by decide⟩

end Workbench

end EntityDiagram
