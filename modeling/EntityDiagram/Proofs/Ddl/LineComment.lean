import EntityDiagram.Proofs.Ddl.Caveats
import EntityDiagram.Proofs.Ddl.DefaultProbe
import EntityDiagram.Proofs.Text.Lines

/-!
# Line comments and carriage returns

A line comment has its mark in front of every line of its text, where a line feed ends a line and a
carriage return does not. An engine that ends a comment at a carriage return too reads a further
line behind every carriage return within a line of the text, which is a comment only if the text has
the mark there itself. That is the only way out of a comment: caveats and the comments of tables
that hold no carriage return are nothing but comments for every engine, and so are all of them for
an engine that does not count carriage returns.
-/

namespace EntityDiagram.Ddl

open Text

/-- What a line comment begins with. -/
def commentMark : List Char := ['-', '-', ' ']

/-- Whether every line of a text, as an engine reads it, is a comment. -/
def IsCommented (returns : Bool) (text : String) : Prop :=
  ∀ line ∈ readLines returns text.toList, commentMark <+: line

instance (returns : Bool) (text : String) : Decidable (IsCommented returns text) :=
  inferInstanceAs (Decidable (∀ line ∈ readLines returns text.toList, commentMark <+: line))

/-- Whether carriage returns do not matter in a text: within its lines, whatever stands behind one
begins with the mark of a comment. -/
def IsContained (text : String) : Prop :=
  ∀ line ∈ lines text, ∀ behind, '\r' :: behind <:+ line.toList →
    behind = [] ∨ commentMark <+: behind

theorem isMark_commentMark : IsMark commentMark := ⟨by decide, by decide, by decide⟩

variable {returns : Bool} {text : String}

/-- A text without carriage returns is contained. -/
theorem isContained_of_not_mem (clear : '\r' ∉ text.toList) : IsContained text := by
  intro line member behind inner
  have inside : '\r' ∈ line.toList := inner.subset List.mem_cons_self
  exact absurd (mem_of_mem_lines member inside).1 clear

/-! ### The lines of a comment -/

/-- A line with the mark in front of it. -/
def marked (line : String) : List Char := commentMark ++ line.toList

/-- The lines of a text are left open when they are marked. -/
theorem isUnended_map_marked (text : String) :
    ∀ part ∈ (lines text).map marked, IsUnended part := by
  refine List.forall_mem_map.mpr fun line listed => ?_
  refine isUnended_of_not_mem (by simp [marked, commentMark]) ?_
  intro feed
  rcases List.mem_append.mp feed with inMark | inLine
  · exact isMark_commentMark.feed inMark
  · exact feed_not_mem_lines listed inLine

/-- A comment is its marked lines with a feed between neighbours. -/
theorem toList_lineComment {first : String} {rest : List String}
    (split : lines text = first :: rest) :
    (lineComment text).toList = marked first ++ (rest.map marked).flatMap ('\n' :: ·) := by
  rw [lineComment, split, List.map_cons, join_cons]
  simp [marked, commentMark, String.toList_join, List.flatMap_map]

/-- The last line of a comment is left open. -/
theorem isUnended_lineComment (something : text ≠ "") :
    IsUnended (lineComment text).toList := by
  obtain ⟨first, rest, split⟩ := List.exists_cons_of_ne_nil (lines_ne_nil something)
  have unended : ∀ part ∈ (first :: rest).map marked, IsUnended part :=
    split ▸ isUnended_map_marked text
  rw [toList_lineComment split]
  exact IsUnended.append_flatMap (unended _ List.mem_cons_self)
    (List.forall_mem_of_forall_mem_cons unended)

/-- The lines of a comment are those of the marked lines. -/
theorem readLines_lineComment (returns : Bool) (text : String) :
    readLines returns (lineComment text).toList =
      (lines text).flatMap fun line => readLines returns (marked line) := by
  rcases split : lines text with _ | ⟨first, rest⟩
  · simp [lineComment, split]
  · have unended : ∀ part ∈ (first :: rest).map marked, IsUnended part :=
      split ▸ isUnended_map_marked text
    rw [toList_lineComment split, readLines_append_flatMap (unended _ List.mem_cons_self)
      (List.forall_mem_of_forall_mem_cons unended), List.flatMap_cons, List.flatMap_map]

/-- A marked line is a comment if what an engine reads as further lines has the mark itself. -/
theorem forall_readLines_marked_iff {line : String} :
    (∀ part ∈ readLines returns (marked line), commentMark <+: part) ↔
      ∀ part ∈ (readLines returns line.toList).tail, commentMark <+: part := by
  obtain ⟨first, split⟩ := isMark_commentMark.readLines_append returns line.toList
  rw [marked, split, List.forall_mem_cons]
  exact and_iff_right (List.prefix_append commentMark first)

/-- A line comment is nothing but comments unless the engine counts carriage returns and one stands
in the text without the mark behind it. -/
theorem isCommented_lineComment_iff :
    IsCommented returns (lineComment text) ↔ returns = false ∨ IsContained text := by
  have further : ∀ line ∈ lines text,
      (∀ part ∈ (readLines returns line.toList).tail, commentMark <+: part) ↔
        returns = false ∨ ∀ behind, '\r' :: behind <:+ line.toList →
          behind = [] ∨ commentMark <+: behind := by
    intro line listed
    have clear : '\n' ∉ line.toList := feed_not_mem_lines listed
    cases returns with
    | false => simp [tail_readLines_false clear]
    | true =>
        rw [isMark_commentMark.forall_tail_readLines_true_iff clear]
        exact (or_iff_right Bool.true_eq_false.mp).symm
  calc IsCommented returns (lineComment text)
      ↔ ∀ line ∈ lines text, ∀ part ∈ readLines returns (marked line), commentMark <+: part := by
        rw [IsCommented, readLines_lineComment]
        exact List.forall_mem_flatMap
    _ ↔ ∀ line ∈ lines text, returns = false ∨ ∀ behind, '\r' :: behind <:+ line.toList →
          behind = [] ∨ commentMark <+: behind :=
        forall₂_congr fun line listed => forall_readLines_marked_iff.trans (further line listed)
    _ ↔ returns = false ∨ IsContained text := by
        cases returns <;> simp [IsContained]

/-! ### Comments in statements -/

/-- The texts of a diagram that the caveat for a request repeats. -/
def Request.quoted : Request → List String
  | array table field => [table.name, field.name]
  | unsigned table field => [table.name, field.name, field.dataType]
  | increment table field => [table.name, field.name]
  | check table field condition => [table.name, field.name, field.dataType, condition]
  | method index name => [index.name, index.table.name, name]
  | action key _ => [key.name]

theorem Request.caveat_ne_empty (config : DialectConfig) (request : Request) :
    request.caveat config ≠ "" := by
  cases request <;> simp [caveat]

/-- A built-in engine adds no carriage return to what its caveats repeat. -/
theorem Request.isContained_caveat (dialect : Dialect) {request : Request}
    (clear : ∀ text ∈ request.quoted, '\r' ∉ text.toList) :
    IsContained (request.caveat dialect.config) := by
  have engine : '\r' ∉ dialect.config.name.toList := by cases dialect <;> decide
  have strategy : '\r' ∉ dialect.config.increment.sql.toList := by cases dialect <;> decide
  apply isContained_of_not_mem
  cases request with
  | array table field | unsigned table field | check table field condition | method index name =>
      simp only [quoted, List.forall_mem_cons] at clear
      simp [caveat, clear, engine]
  | increment table field =>
      have clause : (increment table field).clause dialect.config =
          dialect.config.increment.sql := by
        cases dialect <;> rfl
      simp only [quoted, List.forall_mem_cons] at clear
      simp [caveat, clear, clause, strategy]
  | action key event =>
      have word : '\r' ∉ event.word.toList := by cases event <;> decide
      have sql : '\r' ∉ (event.action key).sql.toList := by cases event.action key <;> decide
      simp only [quoted, List.forall_mem_cons] at clear
      simp [caveat, clear, engine, word, sql]

/-- A statement as it is written is read up to its end, and then its caveats, one after the
other. -/
theorem Target.readLines_render (target : Target) {statement : Statement}
    (ended : IsUnended target.terminator.toList) (noted : ∀ note ∈ statement.notes, note ≠ "") :
    readLines returns (statement.render target.config).toList =
      readLines returns (statement.sql ++ target.terminator).toList ++
        statement.notes.flatMap fun note => readLines returns (lineComment note).toList := by
  have render : (statement.render target.config).toList =
      (statement.sql ++ target.terminator).toList ++
        (statement.notes.map fun note => (lineComment note).toList).flatMap ('\n' :: ·) := by
    rw [Statement.render, terminator]
    cases target.config.batchSeparator <;>
      simp [String.toList_join, List.flatMap_map]
  have comments : ∀ part ∈ statement.notes.map fun note => (lineComment note).toList,
      IsUnended part :=
    List.forall_mem_map.mpr fun note member => isUnended_lineComment (noted note member)
  have front : IsUnended (statement.sql ++ target.terminator).toList := by
    rw [String.toList_append]
    exact ended.append_left _
  rw [render, readLines_append_flatMap front comments, List.flatMap_map]

/-- Where the comment of a table is written as lines in front of it, these are read before the
table. -/
theorem Target.readLines_withTableComment {target : Target} (style : target.comments = .sqlText)
    (table : Table) (sql : String) :
    readLines returns (target.withTableComment table sql).toList =
      (if target.options.includeComments && table.hasComment then
        readLines returns (lineComment table.comment).toList else []) ++
        readLines returns sql.toList := by
  simp only [withTableComment, style]
  split
  · next written =>
    have something : table.comment ≠ "" := by
      intro empty
      rw [Table.hasComment, empty, Bool.and_eq_true] at written
      exact absurd written.2 (by decide)
    rw [String.toList_append, String.toList_append, List.append_assoc,
      readLines_append (isUnended_lineComment something) (by simp)]
    rfl
  · rfl

/-- The caveats in the statements of a diagram are for requests of the diagram that the engine
cannot express. -/
theorem exists_request_of_mem_notes {diagram : Diagram} {target : Target} {statement : Statement}
    (written : statement ∈ diagram.statementsFor target) :
    ∀ note ∈ statement.notes, ∃ request ∈ diagram.requests,
      request.isExpressed target.config = false ∧ note = request.caveat target.config := by
  obtain ⟨definition, defined, rfl⟩ := List.mem_map.mp written
  rw [target.notes_statement definition, Request.caveats]
  refine List.forall_mem_map.mpr fun request asked => ?_
  obtain ⟨member, unexpressed⟩ := List.mem_filter.mp asked
  refine ⟨request, ?_, by simpa using unexpressed, rfl⟩
  rw [← diagram.mem_requests_iff target.config target.options]
  exact List.mem_flatMap.mpr ⟨definition, defined, member⟩

end EntityDiagram.Ddl

namespace EntityDiagram.Dialect

open Ddl Text

/-- Nothing that a built-in engine writes at the end of a statement ends a line. -/
theorem isUnended_terminator (dialect : Dialect) (options : Options) :
    IsUnended (dialect.target options).terminator.toList := by
  -- The options do not matter, and without them the text is a closed term.
  change IsUnended (dialect.target {}).terminator.toList
  cases dialect with
  | mssql => exact ⟨'O', by decide, by decide⟩
  | mysql | postgresql | sqlite | oracle => exact ⟨';', by decide, by decide⟩

/-- A line comment is nothing but comments for an engine exactly if the engine does not count
carriage returns or they do not matter in the text, which is so if there is none. In the statements
of a diagram for a built-in engine, what stands behind the end of a statement is read as such
comments, one for each caveat; each of them is for a request of the diagram that the engine cannot
express, and is nothing but comments if the engine does not count carriage returns or if there is
none in the texts that the caveat repeats. In SQLite's statements the comment of a table is read as
such a comment in front of it. -/
theorem line_comments_hold (returns : Bool) (dialect : Dialect) (diagram : Diagram)
    (options : Options) :
    (∀ text, IsCommented returns (lineComment text) ↔ returns = false ∨ IsContained text) ∧
    (∀ text : String, '\r' ∉ text.toList → IsContained text) ∧
    (∀ statement ∈ diagram.statementsFor (dialect.target options),
      readLines returns (statement.render dialect.config).toList =
          readLines returns (statement.sql ++ (dialect.target options).terminator).toList ++
            statement.notes.flatMap (fun note => readLines returns (lineComment note).toList) ∧
        ∀ note ∈ statement.notes, ∃ request ∈ diagram.requests,
          request.isExpressed dialect.config = false ∧ note = request.caveat dialect.config ∧
            ((returns = false ∨ ∀ text ∈ request.quoted, '\r' ∉ text.toList) →
              IsCommented returns (lineComment note))) ∧
    ∀ (table : Table) (sql : String),
      readLines returns ((sqlite.target options).withTableComment table sql).toList =
        (if options.includeComments && table.hasComment then
          readLines returns (lineComment table.comment).toList else []) ++
          readLines returns sql.toList := by
  refine ⟨fun text => isCommented_lineComment_iff, fun text => isContained_of_not_mem, ?_,
    Target.readLines_withTableComment rfl⟩
  intro statement written
  have caveats := exists_request_of_mem_notes written
  refine ⟨(dialect.target options).readLines_render (isUnended_terminator dialect options) ?_,
    ?_⟩
  · intro note noted
    obtain ⟨request, -, -, rfl⟩ := caveats note noted
    exact request.caveat_ne_empty _
  · intro note noted
    obtain ⟨request, asked, unexpressed, rfl⟩ := caveats note noted
    refine ⟨request, asked, unexpressed, rfl, fun clear => ?_⟩
    exact isCommented_lineComment_iff.mpr (clear.imp_right (Request.isContained_caveat dialect))

/-- A column that PostgreSQL has no word for, and a text of two lines. -/
theorem line_comments_hold_unsigned :
    let total : Field := { id := "f", name := "total", dataType := "INT", unsigned := true }
    let orders : Table := { id := "t", name := "orders", fields := [total] }
    let diagram : Diagram := { tables := [orders] }
    let statements := diagram.statementsFor (postgresql.target {})
    statements.map Statement.notes =
        [["orders.total: PostgreSQL has no UNSIGNED INT; clause omitted"]] ∧
      (∀ statement ∈ statements, ∀ note ∈ statement.notes,
        IsCommented true (lineComment note)) ∧
      '\r' ∉ "two\nlines".toList ∧ IsCommented true (lineComment "two\nlines") := by
  intro total orders diagram statements
  have clear : ∀ request ∈ diagram.requests, ∀ text ∈ request.quoted, '\r' ∉ text.toList := by
    decide
  obtain ⟨commented_iff, contained, held, -⟩ := line_comments_hold true postgresql diagram {}
  refine ⟨by decide, ?_, by decide, (commented_iff _).mpr (.inr (contained _ (by decide)))⟩
  intro statement written note noted
  obtain ⟨request, asked, -, -, commented⟩ := (held statement written).2 note noted
  exact commented (.inr (clear request asked))

/-- A carriage return ends a comment, and a table with one in its name drops another table. -/
theorem line_comments_end_at_returns :
    let total : Field := { id := "f", name := "total", dataType := "INT", unsigned := true }
    let orders : Table := { id := "t", name := "a\rDROP TABLE users; --", fields := [total] }
    let diagram : Diagram := { tables := [orders] }
    readLines true (lineComment "a\rb").toList = ["-- a".toList, "b".toList] ∧
      ¬ IsCommented true (lineComment "a\rb") ∧
      (diagram.statementsFor (postgresql.target {})).map (fun statement =>
          statement.notes.flatMap fun note => readLines true (lineComment note).toList) =
        [["-- a".toList,
          "DROP TABLE users; --.total: PostgreSQL has no UNSIGNED INT; clause omitted".toList]] := by
  decide

end EntityDiagram.Dialect
