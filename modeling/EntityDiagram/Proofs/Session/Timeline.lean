import EntityDiagram.Proofs.Session.Run

/-!
# A session is a timeline

A timeline is what a person expects of undo and redo: a present state between the past, newest
first, and the future, nearest first. A session keeps both in one list with a mark, and exchanges
the live diagram with the entry at the mark. The main statement says that this list is at every
moment the reversed past followed by the future, so that every command does to the session what it
does to the timeline, with the same answer, and that undoing takes back the newest edits one by one,
as many as the history has room for.
-/

namespace EntityDiagram

/-- A present state with those to go back to, newest first, and those to go forward to, nearest
first. -/
structure Timeline (σ : Type) where
  past : List σ := []
  present : σ
  future : List σ := []

namespace Timeline

section Moving

variable {σ : Type}

/-- Go on to a new state. Of the past the newest `limit` states are kept, and there is no future
any more. -/
def advance (limit : Nat) (next : σ) (timeline : Timeline σ) : Timeline σ where
  past := (timeline.present :: timeline.past).take limit
  present := next

/-- Go back one step; `none` if there is no past. -/
def back? (timeline : Timeline σ) : Option (Timeline σ) :=
  match timeline.past with
  | [] => none
  | earlier :: past => some ⟨past, earlier, timeline.present :: timeline.future⟩

/-- Go forward one step; `none` if there is no future. -/
def forward? (timeline : Timeline σ) : Option (Timeline σ) :=
  match timeline.future with
  | [] => none
  | later :: future => some ⟨timeline.present :: timeline.past, later, future⟩

/-- There is room for the past and the future together. -/
def Fits (limit : Nat) (timeline : Timeline σ) : Prop :=
  timeline.past.length + timeline.future.length ≤ limit

/-- The history that holds the past and the future of a timeline. -/
def history (limit : Nat) (timeline : Timeline σ) : History σ where
  entries := timeline.past.reverse ++ timeline.future
  undoable := timeline.past.length
  capacity := limit

theorem record_history (limit : Nat) (next : σ) (timeline : Timeline σ) :
    (timeline.history limit).record timeline.present =
      (timeline.advance limit next).history limit := by
  obtain ⟨past, present, future⟩ := timeline
  have before : (past.reverse ++ future).take past.length = past.reverse := by
    rw [← List.length_reverse, List.take_left]
  have recent : (past.reverse ++ [present]).drop ((past.reverse ++ [present]).length - limit) =
      ((present :: past).take limit).reverse := by
    rw [List.reverse_take, List.reverse_cons, List.length_append, List.length_reverse]
    rfl
  simp only [History.record, history, advance, before, recent, List.append_nil,
    List.length_reverse]

/-- Undoing finds the newest past state at the mark and leaves the present one there. -/
theorem undo?_history (limit : Nat) (timeline : Timeline σ) :
    (timeline.history limit).undo? timeline.present =
      timeline.back?.map fun earlier => (earlier.history limit, earlier.present) := by
  obtain ⟨past, present, future⟩ := timeline
  cases past with
  | nil => rfl
  | cons earlier past =>
      have left : (past.reverse ++ earlier :: future).set past.length present =
          past.reverse ++ present :: future := by
        rw [← List.length_reverse, List.set_append_right _ _ (Nat.le_refl _)]
        simp
      simp [History.undo?, history, back?, left]

/-- Redoing finds the nearest future state behind the mark and leaves the present one there. -/
theorem redo?_history (limit : Nat) (timeline : Timeline σ) :
    (timeline.history limit).redo? timeline.present =
      timeline.forward?.map fun later => (later.history limit, later.present) := by
  obtain ⟨past, present, future⟩ := timeline
  cases future with
  | nil => simp [History.redo?, history, forward?]
  | cons later future =>
      have left : (past.reverse ++ later :: future).set past.length present =
          (present :: past).reverse ++ future := by
        rw [← List.length_reverse, List.set_append_right _ _ (Nat.le_refl _)]
        simp
      simp [History.redo?, history, forward?, left]

theorem fits_advance (limit : Nat) (next : σ) (timeline : Timeline σ) :
    (timeline.advance limit next).Fits limit := by
  simp only [Fits, advance, List.length_take, List.length_nil, Nat.add_zero]
  exact Nat.min_le_left _ _

theorem Fits.back {limit : Nat} {timeline earlier : Timeline σ} (h : timeline.Fits limit)
    (there : timeline.back? = some earlier) : earlier.Fits limit := by
  obtain ⟨past, present, future⟩ := timeline
  cases past with
  | nil => cases there
  | cons state past =>
      cases there
      simp only [Fits, List.length_cons] at h ⊢
      omega

theorem Fits.forward {limit : Nat} {timeline later : Timeline σ} (h : timeline.Fits limit)
    (there : timeline.forward? = some later) : later.Fits limit := by
  obtain ⟨past, present, future⟩ := timeline
  cases future with
  | nil => cases there
  | cons state future =>
      cases there
      simp only [Fits, List.length_cons] at h ⊢
      omega

end Moving

/-- The timeline after a command, with the answer or the cause of a refusal. An edit goes on, a move
changes the present alone, and loading starts anew; nothing else changes a timeline but going back
and forth. -/
def perform (limit : Nat) (timeline : Timeline Diagram) :
    Command → Timeline Diagram × Except EditError Answer
  | .edit edit =>
    match edit.apply timeline.present with
    | .ok (next, member) => (timeline.advance limit next, .ok (.member member))
    | .error cause => (timeline, .error cause)
  | .move kind id position =>
    match timeline.present.move kind id position with
    | .ok next => ({ timeline with present := next }, .ok (.member .none))
    | .error cause => (timeline, .error cause)
  | .undo =>
    match timeline.back? with
    | some earlier => (earlier, .ok (.flag true))
    | none => (timeline, .ok (.flag false))
  | .redo =>
    match timeline.forward? with
    | some later => (later, .ok (.flag true))
    | none => (timeline, .ok (.flag false))
  | .load diagram => ({ present := diagram }, .ok (.member .none))

/-- The timeline after a run of commands, refused or not. -/
def run (limit : Nat) (timeline : Timeline Diagram) (commands : List Command) : Timeline Diagram :=
  commands.foldl (fun timeline command => (timeline.perform limit command).1) timeline

/-- The session that holds a timeline. -/
def session (limit : Nat) (timeline : Timeline Diagram) : Session where
  diagram := timeline.present
  history := timeline.history limit

/-- A command does the same to a session as to the timeline that it holds. -/
theorem perform_session (limit : Nat) (timeline : Timeline Diagram) (command : Command) :
    (timeline.session limit).perform command =
      ((timeline.perform limit command).1.session limit, (timeline.perform limit command).2) := by
  cases command with
  | edit edit =>
      simp only [Session.perform, Session.edit, session, perform]
      cases edit.apply timeline.present with
      | error cause => rfl
      | ok result =>
          simp only [Except.map, record_history limit result.1]
          rfl
  | move kind id position =>
      simp only [Session.perform, Session.move, session, perform]
      cases timeline.present.move kind id position <;> rfl
  | undo =>
      simp only [Session.perform, Session.undo?, session, perform, undo?_history]
      cases timeline.back? <;> rfl
  | redo =>
      simp only [Session.perform, Session.redo?, session, perform, redo?_history]
      cases timeline.forward? <;> rfl
  | load diagram => rfl

theorem run_session (limit : Nat) (timeline : Timeline Diagram) (commands : List Command) :
    (timeline.session limit).run commands = (timeline.run limit commands).session limit := by
  induction commands generalizing timeline with
  | nil => rfl
  | cons command rest ih =>
      rw [Session.run_cons, perform_session]
      exact ih _

/-- No command makes a timeline outgrow its room. -/
theorem Fits.perform {limit : Nat} {timeline : Timeline Diagram} (h : timeline.Fits limit)
    (command : Command) : (timeline.perform limit command).1.Fits limit := by
  cases command with
  | edit edit =>
      simp only [Timeline.perform]
      split
      · exact fits_advance limit _ timeline
      · exact h
  | move kind id position =>
      simp only [Timeline.perform]
      split <;> exact h
  | undo =>
      simp only [Timeline.perform]
      split
      · next there => exact h.back there
      · exact h
  | redo =>
      simp only [Timeline.perform]
      split
      · next there => exact h.forward there
      · exact h
  | load diagram => exact Nat.zero_le limit

theorem Fits.run {limit : Nat} {timeline : Timeline Diagram} (h : timeline.Fits limit)
    (commands : List Command) : (timeline.run limit commands).Fits limit := by
  induction commands generalizing timeline with
  | nil => exact h
  | cons command rest ih => exact ih (h.perform command)

section Undos

variable (limit : Nat) {timeline : Timeline Diagram}

theorem perform_undo_of_nil (empty : timeline.past = []) :
    timeline.perform limit .undo = (timeline, .ok (.flag false)) := by
  simp [Timeline.perform, back?, empty]

theorem perform_undo_of_cons {earlier : Diagram} {past : List Diagram}
    (there : timeline.past = earlier :: past) :
    timeline.perform limit .undo =
      (⟨past, earlier, timeline.present :: timeline.future⟩, .ok (.flag true)) := by
  simp [Timeline.perform, back?, there]

theorem run_undos_succ (k : Nat) :
    timeline.run limit (List.replicate (k + 1) .undo) =
      ((timeline.run limit (List.replicate k .undo)).perform limit .undo).1 := by
  simp [Timeline.run, List.replicate_succ', List.foldl_append]

/-- Undoing takes the past away from its new end. -/
theorem past_run_undos (k : Nat) :
    (timeline.run limit (List.replicate k .undo)).past = timeline.past.drop k := by
  induction k with
  | zero => rfl
  | succ k ih =>
      rw [run_undos_succ, ← List.tail_drop, ← ih]
      cases there : (timeline.run limit (List.replicate k .undo)).past with
      | nil => rw [perform_undo_of_nil limit there, there, List.tail_nil]
      | cons earlier past => rw [perform_undo_of_cons limit there, List.tail_cons]

/-- While there is a past, one more step back brings its next state, and a step forward undoes
it. -/
theorem run_undos_of_lt {k : Nat} (inside : k < timeline.past.length) :
    (timeline.run limit (List.replicate (k + 1) .undo)).present = timeline.past[k] ∧
      ((timeline.run limit (List.replicate k .undo)).perform limit .undo).2 = .ok (.flag true) ∧
      (timeline.run limit (List.replicate (k + 1) .undo)).perform limit .redo =
        (timeline.run limit (List.replicate k .undo), .ok (.flag true)) := by
  have there : (timeline.run limit (List.replicate k .undo)).past =
      timeline.past[k] :: timeline.past.drop (k + 1) := by
    rw [past_run_undos, List.drop_eq_getElem_cons inside]
  rw [run_undos_succ, perform_undo_of_cons limit there]
  refine ⟨rfl, rfl, ?_⟩
  simp only [Timeline.perform, forward?]
  rw [← there]

end Undos

end Timeline

namespace Session

/-- Successful edits lead from one session to another, perhaps with moves between them. The diagrams
that the edits replaced are listed, newest first. -/
inductive Edited (first : Session) : (replaced : List Diagram) → Session → Prop where
  | start : Edited first [] first
  | move {replaced : List Diagram} {session next : Session} {kind : Movable} {id : String}
      {position : Position} (before : Edited first replaced session)
      (done : session.move kind id position = .ok next) : Edited first replaced next
  | edit {replaced : List Diagram} {session next : Session} {edit : Edit} {shown : Member}
      (before : Edited first replaced session) (done : session.edit edit = .ok (next, shown)) :
      Edited first (session.diagram :: replaced) next

/-- The session after some steps back. -/
def back (session : Session) (steps : Nat) : Session := session.run (List.replicate steps .undo)

/-- Edits on an empty history leave the newest of the replaced diagrams as the past. -/
theorem Edited.eq_session {first edited : Session} {replaced : List Diagram}
    (h : Edited first replaced edited) {limit : Nat} {diagram : Diagram}
    (empty : first = ({ present := diagram } : Timeline Diagram).session limit) :
    edited = (⟨replaced.take limit, edited.diagram, []⟩ : Timeline Diagram).session limit := by
  induction h with
  | start => simp [empty, Timeline.session]
  | move before done ih =>
      obtain ⟨moved, _, rfl⟩ := map_eq_ok_iff.mp done
      simp only [Timeline.session, congrArg Session.history ih]
      rfl
  | @edit replaced session next edit shown before done ih =>
      obtain ⟨⟨changed, member⟩, applied, same⟩ := map_eq_ok_iff.mp done
      cases same
      have past : (session.diagram :: replaced.take limit).take limit =
          (session.diagram :: replaced).take limit := by
        cases limit with
        | zero => rfl
        | succ limit => simp [List.take_take]
      have history : session.history =
          (⟨replaced.take limit, session.diagram, []⟩ : Timeline Diagram).history limit :=
        congrArg Session.history ih
      have recorded := Timeline.record_history limit changed
        (⟨replaced.take limit, session.diagram, []⟩ : Timeline Diagram)
      simp only [Timeline.session, history, recorded, Timeline.advance, past]

theorem back_session (limit : Nat) (timeline : Timeline Diagram) (steps : Nat) :
    (timeline.session limit).back steps =
      (timeline.run limit (List.replicate steps .undo)).session limit :=
  Timeline.run_session limit timeline _

/-- As many of the replaced diagrams as there is room for come back, the newest first, and each step
back can be taken forward again. Then there is nothing left to undo. -/
theorem Edited.undo {first edited : Session} {replaced : List Diagram}
    (h : Edited first replaced edited) {limit : Nat} {diagram : Diagram}
    (empty : first = ({ present := diagram } : Timeline Diagram).session limit) :
    (∀ k < min replaced.length limit,
      ((edited.back k).perform .undo).2 = .ok (.flag true) ∧
        replaced[k]? = some (edited.back (k + 1)).diagram ∧
        (edited.back (k + 1)).perform .redo = (edited.back k, .ok (.flag true))) ∧
      (edited.back (min replaced.length limit)).perform .undo =
        (edited.back (min replaced.length limit), .ok (.flag false)) := by
  have past : (replaced.take limit).length = min replaced.length limit := by
    rw [List.length_take, Nat.min_comm]
  rw [h.eq_session empty]
  constructor
  · intro k inside
    let timeline : Timeline Diagram := ⟨replaced.take limit, edited.diagram, []⟩
    have here : k < timeline.past.length := past ▸ inside
    obtain ⟨present, undone, redone⟩ := Timeline.run_undos_of_lt limit here
    simp only [back_session, Timeline.perform_session]
    refine ⟨undone, ?_, by rw [redone]⟩
    simp only [Timeline.session, timeline, present, List.getElem_take]
    exact List.getElem?_eq_getElem _
  · simp only [back_session, Timeline.perform_session]
    rw [Timeline.perform_undo_of_nil]
    rw [Timeline.past_run_undos, List.drop_eq_nil_iff]
    exact Nat.le_of_eq past

/-- A session behaves as a timeline with room for `max limit 1` states. After any run of commands it
holds the timeline after the same run; the next command does the same to both, with the same answer;
the numbers that a session shows are those of the timeline, and the mark is never beyond the
entries. Hence, on an empty history, exactly as many of the replaced diagrams come back as there is
room for, the newest first, and each can be left again by a redo. -/
theorem run_eq_timeline (diagram : Diagram) (limit : Nat) (commands : List Command) :
    let capacity := max limit 1
    let timeline := ({ present := diagram } : Timeline Diagram).run capacity commands
    let session := (start diagram limit).run commands
    session = timeline.session capacity ∧
      (∀ command, session.perform command =
        ((timeline.perform capacity command).1.session capacity,
          (timeline.perform capacity command).2)) ∧
      session.history.length = timeline.past.length + timeline.future.length ∧
      session.history.length ≤ capacity ∧
      session.history.index = (timeline.past.length : Int) - 1 ∧
      session.history.undoable ≤ session.history.length ∧
      session.history.canUndo = !timeline.past.isEmpty ∧
      session.history.canRedo = !timeline.future.isEmpty ∧
      ∀ replaced edited, session.history.isEmpty = true → Edited session replaced edited →
        let undos := min replaced.length capacity
        (∀ k < undos,
          ((edited.back k).perform .undo).2 = .ok (.flag true) ∧
            replaced[k]? = some (edited.back (k + 1)).diagram ∧
            (edited.back (k + 1)).perform .redo = (edited.back k, .ok (.flag true))) ∧
          (edited.back undos).perform .undo = (edited.back undos, .ok (.flag false)) := by
  intro capacity timeline session
  have holds : session = timeline.session capacity :=
    Timeline.run_session capacity { present := diagram } commands
  have fits : timeline.Fits capacity := by
    apply Timeline.Fits.run
    exact Nat.zero_le capacity
  have length : session.history.length = timeline.past.length + timeline.future.length := by
    simp [holds, Timeline.session, Timeline.history, History.length]
  refine ⟨holds, ?_, length, length ▸ fits, ?_, ?_, ?_, ?_, ?_⟩
  · intro command
    rw [holds, Timeline.perform_session]
  · rw [holds]
    rfl
  · rw [length, holds]
    exact Nat.le_add_right _ _
  · rw [holds]
    cases h : timeline.past <;> simp [Timeline.session, Timeline.history, History.canUndo, h]
  · rw [holds]
    cases h : timeline.future <;> simp [Timeline.session, Timeline.history, History.canRedo, h]
  · intro replaced edited empty edits
    have none : timeline.past = [] ∧ timeline.future = [] := by
      simpa [holds, Timeline.session, Timeline.history, History.isEmpty] using empty
    have anew : session =
        ({ present := timeline.present } : Timeline Diagram).session capacity := by
      rw [holds]
      simp [Timeline.session, Timeline.history, none.1, none.2]
    exact edits.undo anew

/-- With room for one diagram, of two edits after loading only the second is undone. -/
theorem run_eq_timeline_two_titles :
    let session := (start {} 1).run [.edit (.setTitle "first"), .load {}]
    let edited := session.run [.edit (.setTitle "second"), .edit (.setTitle "third")]
    session.history.isEmpty = true ∧ Edited session [{ title := "second" }, {}] edited ∧
      (edited.back 1).diagram = { title := "second" } ∧
      (edited.back 1).perform .undo = (edited.back 1, .ok (.flag false)) := by
  intro session edited
  have second : session.edit (.setTitle "second") = .ok (_, .none) := rfl
  have third : (session.run [.edit (.setTitle "second")]).edit (.setTitle "third") =
      .ok (edited, .none) := rfl
  have edits : Edited session [{ title := "second" }, {}] edited :=
    .edit (.edit .start second) third
  obtain ⟨_, _, _, _, _, _, _, _, undo⟩ :=
    run_eq_timeline {} 1 [.edit (.setTitle "first"), .load {}]
  obtain ⟨steps, last⟩ := undo _ edited rfl edits
  obtain ⟨_, present, _⟩ := steps 0 (by decide)
  exact ⟨rfl, edits, (Option.some.inj present).symm, last⟩

end Session

end EntityDiagram
