import EntityDiagram.Proofs.Session.Drawing

/-!
# When two fields get joined

A relationship comes of lifting the pen exactly if the pen was down on another field, the two fields
are not joined in either direction, and both are there. It is then the last of the diagram, nothing
else is changed, and one step back takes it away again. Otherwise the session is as it was. Wherever
the pen was, it is up afterwards.

A step back needs a history with room for one entry. Every history is made with that room, and no
command takes it away.
-/

namespace EntityDiagram

namespace History

variable {σ : Type} {history : History σ}

/-- Where there is room, the newest entry is the state that was recorded last. -/
theorem entries_record (room : 0 < history.capacity) (state : σ) :
    ∃ earlier, (history.record state).entries = earlier ++ [state] := by
  refine List.getLast?_eq_some_iff.mp ?_
  simp only [record]
  rw [List.getLast?_drop, if_neg, List.getLast?_concat]
  simp only [List.length_append, List.length_singleton]
  omega

/-- Going back right after a state was recorded brings it back. -/
theorem undo?_record (room : 0 < history.capacity) (state live : σ) :
    ∃ next, (history.record state).undo? live = some (next, state) := by
  obtain ⟨earlier, newest⟩ := entries_record room state
  have mark : (history.record state).undoable = earlier.length + 1 := by
    rw [undoable_record, newest, List.length_append, List.length_singleton]
  simp [undo?, mark, newest]

theorem capacity_of_undo? {next : History σ} {live other : σ}
    (undone : history.undo? live = some (next, other)) : next.capacity = history.capacity := by
  unfold undo? at undone
  split at undone
  · cases undone
  · obtain ⟨_, _, same⟩ := Option.map_eq_some_iff.mp undone
    cases same
    rfl

theorem capacity_of_redo? {next : History σ} {live other : σ}
    (redone : history.redo? live = some (next, other)) : next.capacity = history.capacity := by
  obtain ⟨_, _, same⟩ := Option.map_eq_some_iff.mp redone
  cases same
  rfl

end History

namespace Session

variable {session next : Session}

/-- The history has room for a step back. -/
def HasRoom (session : Session) : Prop := 0 < session.history.capacity

theorem hasRoom_start (diagram : Diagram) (limit : Nat) : (start diagram limit).HasRoom :=
  Nat.lt_of_lt_of_le Nat.zero_lt_one (Nat.le_max_right limit 1)

theorem capacity_of_edit {edit : Edit} {shown : Member}
    (done : session.edit edit = .ok (next, shown)) :
    next.history.capacity = session.history.capacity := by
  obtain ⟨_, _, same⟩ := map_eq_ok_iff.mp done
  cases same
  rfl

/-- No command changes how much the history may hold. -/
theorem capacity_perform (session : Session) (command : Command) :
    (session.perform command).1.history.capacity = session.history.capacity := by
  cases command with
  | edit edit =>
      simp only [perform]
      split
      · next done => exact capacity_of_edit done
      · rfl
  | move kind id position =>
      simp only [perform]
      split
      · next done =>
        obtain ⟨_, _, rfl⟩ := map_eq_ok_iff.mp done
        rfl
      · rfl
  | undo =>
      simp only [perform]
      split
      · next done =>
        obtain ⟨⟨_, _⟩, undone, rfl⟩ := Option.map_eq_some_iff.mp done
        exact History.capacity_of_undo? undone
      · rfl
  | redo =>
      simp only [perform]
      split
      · next done =>
        obtain ⟨⟨_, _⟩, redone, rfl⟩ := Option.map_eq_some_iff.mp done
        exact History.capacity_of_redo? redone
      · rfl
  | load diagram => rfl

/-- The session with one relationship more, after the state without it was recorded. -/
def withRelationship (relationship : Relationship) (session : Session) : Session where
  diagram := { session.diagram with
    relationships := session.diagram.relationships ++ [relationship] }
  history := session.history.record session.diagram

/-- One step back takes the relationship away again. -/
theorem undo_withRelationship (room : session.HasRoom) (relationship : Relationship) :
    ((session.withRelationship relationship).perform .undo).1.diagram = session.diagram ∧
      ((session.withRelationship relationship).perform .undo).2 = .ok (.flag true) := by
  obtain ⟨history, undone⟩ := History.undo?_record room session.diagram
    (session.withRelationship relationship).diagram
  have back : (session.withRelationship relationship).undo? =
      some { diagram := session.diagram, history } :=
    Option.map_eq_some_iff.mpr ⟨_, undone, rfl⟩
  simp [perform, back]

theorem edit_addRelationship_eq_ok_iff {relationship : Relationship} {shown : Member} :
    session.edit (.addRelationship relationship) = .ok (next, shown) ↔
      Keyed.contains session.diagram.relationships relationship.id = false ∧
        session.diagram.resolves relationship.start = true ∧
        session.diagram.resolves relationship.target = true ∧
        next = session.withRelationship relationship ∧ shown = .relationship relationship := by
  simp only [edit, Edit.apply, map_eq_ok_iff, Prod.exists, Edit.presenting_eq_ok_iff,
    Diagram.addRelationship_eq_ok_iff]
  constructor
  · rintro ⟨_, _, ⟨⟨fresh, start, target, rfl⟩, rfl⟩, same⟩
    cases same
    exact ⟨fresh, start, target, rfl, rfl⟩
  · rintro ⟨fresh, start, target, rfl, rfl⟩
    exact ⟨_, _, ⟨⟨fresh, start, target, rfl⟩, rfl⟩, rfl⟩

end Session

theorem Diagram.relationshipBetween?_eq_none_iff_forall {diagram : Diagram}
    {source target : Endpoint} :
    diagram.relationshipBetween? source target = none ↔
      ∀ r ∈ diagram.relationships,
        ¬(r.start = source ∧ r.target = target) ∧ ¬(r.start = target ∧ r.target = source) := by
  simp [relationshipBetween?, Relationship.joins]

namespace Connection

variable {connection : Connection} {session next : Session} {source target : Endpoint}
  {newId : String} {relationship : Relationship}

/-- The pen is down on a field and may be lifted on another: the two are not joined in either
direction, and both are there. -/
structure MayJoin (connection : Connection) (diagram : Diagram) (source target : Endpoint) :
    Prop where
  down : connection = pending source
  apart : source ≠ target
  free : ∀ r ∈ diagram.relationships,
    ¬(r.start = source ∧ r.target = target) ∧ ¬(r.start = target ∧ r.target = source)
  here : diagram.resolves source = true
  there : diagram.resolves target = true

/-- A relationship comes of lifting the pen exactly if the two fields may be joined. -/
theorem finish_eq_some_iff
    (fresh : Keyed.contains session.diagram.relationships newId = false) :
    (connection.finish session target newId).2 = (next, some relationship) ↔
      ∃ source, connection.MayJoin session.diagram source target ∧
        relationship = .between newId source target ∧
        next = session.withRelationship relationship := by
  constructor
  · intro drawn
    rcases finish_cases connection session target newId with
      same | ⟨source, edited, shown, down, apart, free, done, same⟩
    · rw [same] at drawn
      cases drawn
    · rw [same] at drawn
      cases drawn
      obtain ⟨_, here, there, rfl, _⟩ := Session.edit_addRelationship_eq_ok_iff.mp done
      have unjoined := Diagram.relationshipBetween?_eq_none_iff_forall.mp free
      exact ⟨source, ⟨down, apart, unjoined, here, there⟩, rfl, rfl⟩
  · rintro ⟨source, may, rfl, rfl⟩
    have done : session.edit (.addRelationship (.between newId source target)) = .ok (_, _) :=
      Session.edit_addRelationship_eq_ok_iff.mpr ⟨fresh, may.here, may.there, rfl, rfl⟩
    have free := Diagram.relationshipBetween?_eq_none_iff_forall.mpr may.free
    simp [finish, may.down, may.apart, free, done]

/-- Without a relationship the session is as it was. -/
theorem eq_of_finish_eq_none (refused : (connection.finish session target newId).2 = (next, none)) :
    next = session := by
  rcases finish_cases connection session target newId with same | ⟨_, _, _, _, _, _, _, same⟩
  · rw [same] at refused
    cases refused
    rfl
  · rw [same] at refused
    cases refused

theorem hasRoom_finish (room : session.HasRoom) (target : Endpoint) (newId : String) :
    (connection.finish session target newId).2.1.HasRoom := by
  rcases finish_cases connection session target newId with same | ⟨_, _, _, _, _, _, done, same⟩
  · rwa [same]
  · rwa [same, Session.HasRoom, Session.capacity_of_edit done]

end Connection

/-- Whatever is done, the session keeps its room. -/
theorem Workbench.hasRoom_run {bench : Workbench} (room : bench.session.HasRoom)
    (gestures : List Gesture) : (bench.run gestures).session.HasRoom := by
  induction gestures generalizing bench with
  | nil => exact room
  | cons gesture rest ih =>
      rw [run_cons]
      apply ih
      cases gesture with
      | start source => exact room
      | cancel => exact room
      | finish target newId => exact Connection.hasRoom_finish room target newId
      | perform command => rwa [step, Session.HasRoom, Session.capacity_perform]

namespace Connection

variable {session : Session} {newId : String}

/-- Lifting the pen under a new id joins two fields exactly if they may be joined. The relationship
is then the last, from the field where the pen was put down to the other, one to many and without
actions; the rest of the diagram is as it was, the change is recorded once, and one step back undoes
it. In every other case the diagram and the history are as they were. The pen is up in all cases. -/
theorem finish_exact (connection : Connection) (room : session.HasRoom) (target : Endpoint)
    (fresh : Keyed.contains session.diagram.relationships newId = false) :
    let outcome := connection.finish session target newId
    outcome.1 = idle ∧
      (outcome.2.2.isSome = true ↔
        ∃ source, connection.MayJoin session.diagram source target) ∧
      (∀ relationship, outcome.2.2 = some relationship →
        connection = pending relationship.start ∧ relationship.target = target ∧
          relationship.id = newId ∧ relationship.name = none ∧
          relationship.cardinality = .oneToMany ∧
          relationship.updateConstraint = .noAction ∧
          relationship.deleteConstraint = .noAction ∧
          outcome.2.1.diagram = { session.diagram with
            relationships := session.diagram.relationships ++ [relationship] } ∧
          outcome.2.1.history = session.history.record session.diagram ∧
          (outcome.2.1.perform .undo).2 = .ok (.flag true) ∧
          (outcome.2.1.perform .undo).1.diagram = session.diagram) ∧
      (outcome.2.2 = none → outcome.2.1 = session) := by
  intro outcome
  refine ⟨finish_fst connection session target newId, ⟨?_, ?_⟩, ?_, ?_⟩
  · intro drawn
    obtain ⟨relationship, made⟩ := Option.isSome_iff_exists.mp drawn
    obtain ⟨source, may, _, _⟩ := (finish_eq_some_iff fresh).mp (Prod.ext rfl made)
    exact ⟨source, may⟩
  · rintro ⟨source, may⟩
    have made := (finish_eq_some_iff fresh).mpr ⟨source, may, rfl, rfl⟩
    exact Option.isSome_iff_exists.mpr ⟨_, congrArg Prod.snd made⟩
  · intro relationship made
    obtain ⟨source, may, rfl, same⟩ := (finish_eq_some_iff fresh).mp (Prod.ext rfl made)
    have joined : outcome.2.1 = session.withRelationship (.between newId source target) := same
    obtain ⟨back, done⟩ := Session.undo_withRelationship room (.between newId source target)
    rw [joined]
    exact ⟨may.down, rfl, rfl, rfl, rfl, rfl, rfl, rfl, rfl, done, back⟩
  · intro refused
    exact eq_of_finish_eq_none (Prod.ext rfl refused)

/-- Two fields are joined and the line is undone, which leaves a redo. The line is then drawn the
other way round, and it cannot be drawn from a field to itself. -/
theorem finish_exact_again :
    let field (id : String) : Field := { id, name := id, dataType := "INT" }
    let users : Table := { id := "t", name := "users", fields := [field "a", field "b"] }
    let bench : Workbench := { session := .start { tables := [users] } 0 }
    let session := (bench.run [.start ⟨"t", "a"⟩, .finish ⟨"t", "b"⟩ "r", .perform .undo]).session
    let connection := pending ⟨"t", "b"⟩
    session.HasRoom ∧ Keyed.contains session.diagram.relationships "s" = false ∧
      (connection.finish session ⟨"t", "a"⟩ "s").2.2 =
        some (.between "s" ⟨"t", "b"⟩ ⟨"t", "a"⟩) ∧
      ((connection.finish session ⟨"t", "a"⟩ "s").2.1.perform .undo).1.diagram =
        session.diagram ∧
      (connection.finish session ⟨"t", "b"⟩ "s").2.2 = none ∧
      (connection.finish session ⟨"t", "b"⟩ "s").2.1 = session := by
  intro field users bench session connection
  have room : session.HasRoom := Workbench.hasRoom_run (Session.hasRoom_start _ 0) _
  have fresh : Keyed.contains session.diagram.relationships "s" = false := by decide
  have made : (connection.finish session ⟨"t", "a"⟩ "s").2.2 =
      some (.between "s" ⟨"t", "b"⟩ ⟨"t", "a"⟩) := by decide
  have loop : (connection.finish session ⟨"t", "b"⟩ "s").2.2 = none := by decide
  obtain ⟨_, _, drawn, _⟩ := finish_exact connection room ⟨"t", "a"⟩ fresh
  obtain ⟨_, _, _, _, _, _, _, _, _, _, back⟩ := drawn _ made
  obtain ⟨_, _, _, same⟩ := finish_exact connection room ⟨"t", "b"⟩ fresh
  exact ⟨room, fresh, made, back, loop, same loop⟩

end Connection

end EntityDiagram
