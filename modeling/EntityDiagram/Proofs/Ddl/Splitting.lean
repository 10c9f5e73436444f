import EntityDiagram.Proofs.Ddl.Clauses
import EntityDiagram.Proofs.Dialect.BuiltinNames

/-!
# The written SQL splits into its statements

A program that runs the SQL of a diagram takes it apart at its semicolons. It finds as many as
there are statements, each right behind the text of its statement: no name, comment or default of
the diagram opens a string or comment that it does not close, and none ends a statement early.
-/

namespace EntityDiagram

namespace Ddl

variable {target : Target} {config : DialectConfig}

/-- The places where some statements end, if they are written from a place on with an empty line
between neighbours: right behind the text of each. -/
def Statement.ends (config : DialectConfig) : (place : Nat) → List Statement → List Nat
  | _, [] => []
  | place, statement :: rest =>
    (place + statement.sql.length) ::
      Statement.ends config (place + (statement.render config).length + 2) rest

/-! ### The text of a statement -/

namespace Target

theorem clean_withTableComment (regular : target.config.IsRegular) (table : Table) {sql : String}
    (neat : target.config.lexer.Neat sql) :
    target.config.lexer.Clean (target.withTableComment table sql) := by
  have described : target.config.lexer.Clean
      (sql ++ " COMMENT=" ++ target.config.quoteString table.comment) :=
    (neat.append (Lexer.neat_of_isWordy regular.usual (by decide))).append_clean
      (Lexer.clean_quoteString target.config table.comment)
  rw [withTableComment]
  split
  · split
    · exact ((Lexer.neat_lineComment regular.usual table.comment).append neat).clean
    · exact neat.clean
  · split
    · exact described
    · exact neat.clean

/-- The text of a table is clean, if each line of it ends well. -/
theorem clean_tableStatement (regular : target.config.IsRegular) (table : Table)
    {elements : List Element}
    (ends : ∀ element ∈ elements,
      target.config.lexer.Ends (Piece.text (target.elementPieces table element))) :
    target.config.lexer.Clean (target.tableStatement table elements).sql := by
  have lines : ∀ line ∈ (elements.map (target.elementPieces table)).map
      (fun line => "\t" ++ Piece.text line), target.config.lexer.Ends line := by
    intro line member
    rw [List.map_map] at member
    obtain ⟨element, listed, rfl⟩ := List.mem_map.mp member
    exact (Lexer.neat_of_isWordy (s := "\t") regular.usual (by decide)).append_ends
      (ends element listed)
  have front := (Lexer.neat_of_isWordy (s := "CREATE TABLE ") regular.usual (by decide)).append
    (Lexer.neat_of_isWordy regular.usual (isWordy_ifNotExists target))
  have named := front.append_clean (Lexer.clean_quoteIdentifier regular.usual table.name)
  have opened := named.append_word (t := " (\n") regular.usual (by decide) (by decide)
  have body := opened.append_ends
    (Lexer.Ends.join regular.usual ",\n" (by decide) (by decide) lines)
  exact clean_withTableComment regular table
    (body.append_break (t := "\n)") regular.usual (by decide) (by decide))

/-- A comment kept as an extended property is a call with string literals as its arguments. -/
private theorem sql_commentStatement (kept : target.comments = .extendedProperty) (table : Table)
    (column : Option String) (comment : String) :
    (target.commentStatement table column comment).sql = "EXEC sp_addextendedproperty " ++
      Text.join ", " ((["MS_Description", comment, "SCHEMA", "dbo", "TABLE", table.name] ++
        (column.map fun name => ["COLUMN", name]).getD []).map target.config.quoteString) := by
  have fixed : target.config.quoteString "MS_Description" = "'MS_Description'" ∧
      target.config.quoteString "SCHEMA" = "'SCHEMA'" ∧
      target.config.quoteString "dbo" = "'dbo'" ∧
      target.config.quoteString "TABLE" = "'TABLE'" ∧
      target.config.quoteString "COLUMN" = "'COLUMN'" := ⟨rfl, rfl, rfl, rfl, rfl⟩
  rw [commentStatement.eq_def]
  apply String.toList_injective
  cases column <;>
    simp only [kept, Option.map_none, Option.map_some, Option.getD_none, Option.getD_some,
      List.append_nil, List.cons_append, List.nil_append, List.map_cons, List.map_nil, Text.join,
      String.intercalate_cons_cons, String.intercalate_singleton, fixed] <;>
    simp

theorem clean_commentStatement (regular : target.config.IsRegular) (table : Table)
    (column : Option String) (comment : String) :
    target.config.lexer.Clean (target.commentStatement table column comment).sql := by
  by_cases kept : target.comments = .extendedProperty
  · rw [sql_commentStatement kept]
    refine (Lexer.neat_of_isWordy regular.usual (by decide)).append_clean ?_
    refine Lexer.Clean.join regular.usual ", " (by decide) (by decide) ?_
    intro part member
    obtain ⟨text, -, rfl⟩ := List.mem_map.mp member
    exact Lexer.clean_quoteString target.config text
  have quoted := Lexer.clean_quoteIdentifier regular.usual
  have text : target.config.lexer.Clean (target.config.quoteString comment) :=
    Lexer.clean_quoteString target.config comment
  rw [commentStatement.eq_def]
  split
  · contradiction
  · cases column with
    | none =>
        have described := (Lexer.neat_of_isWordy (s := "COMMENT ON TABLE ") regular.usual
          (by decide)).append_clean (quoted table.name)
        exact (described.append_word regular.usual (by decide) (by decide)).append_clean text
    | some name =>
        have owner := (Lexer.neat_of_isWordy (s := "COMMENT ON COLUMN ") regular.usual
          (by decide)).append_clean (quoted table.name)
        have described := (owner.append_word (t := ".") regular.usual (by decide)
          (by decide)).append_clean (quoted name)
        exact (described.append_word regular.usual (by decide) (by decide)).append_clean text

/-- The text of every statement is clean, if the columns in it end well. -/
theorem clean_statement (regular : target.config.IsRegular) {definition : Definition}
    (ends : ∀ table elements, definition = .table table elements →
      ∀ field, Element.column field ∈ elements →
        target.config.lexer.Ends (Piece.text (target.columnPieces table field))) :
    target.config.lexer.Clean (target.statement definition).sql := by
  cases definition with
  | table table elements =>
      refine clean_tableStatement regular table fun element listed => ?_
      by_cases column : ∃ field, element = .column field
      · obtain ⟨field, rfl⟩ := column
        exact ends table elements rfl field listed
      · have clean : target.config.lexer.AllClean (target.elementPieces table element) :=
          allClean_elementPieces regular table fun field same => absurd ⟨field, same⟩ column
        exact (clean.text regular.usual).ends
  | tableComment table => exact clean_commentStatement regular table none table.comment
  | columnComment table field =>
      exact clean_commentStatement regular table (some field.name) field.comment
  | index definition => exact (allClean_indexPieces regular definition).text regular.usual
  | foreignKey key =>
      have altered := (Lexer.neat_of_isWordy (s := "ALTER TABLE ") regular.usual
        (by decide)).append_clean (Lexer.clean_quoteIdentifier regular.usual key.table.name)
      have added := altered.append_word (t := " ADD ") regular.usual (by decide) (by decide)
      exact added.append_clean ((allClean_foreignKeyPieces regular key).text regular.usual)

end Target

/-! ### The statements one after the other -/

/-- The notes behind a statement are passed over line by line. -/
private theorem passes_notes (regular : config.IsRegular) (notes : List String)
    {start : Lexer.Mode} (ends : start.IsLineEnd) :
    ∃ final : Lexer.Mode, final.IsLineEnd ∧ config.lexer.Passes start
      (String.join (notes.map fun note => "\n" ++ lineComment note)).toList final := by
  induction notes generalizing start with
  | nil =>
      refine ⟨start, ends, ?_⟩
      rw [List.map_nil, String.join_nil]
      exact Lexer.Passes.nil start
  | cons note rest ih =>
      obtain ⟨middle, between, first⟩ := Lexer.passes_lineComment regular.usual note
      obtain ⟨final, after, later⟩ := ih between
      refine ⟨final, after, ?_⟩
      rw [List.map_cons, String.join_cons, String.toList_append, String.toList_append]
      exact ((ends.passes regular.usual).append first).append later

/-- What stands behind the semicolon of a statement is passed over. -/
private theorem render_eq (regular : config.IsRegular) (statement : Statement) :
    ∃ trailer, statement.render config = statement.sql ++ (";" ++ trailer) ∧
      ∃ final : Lexer.Mode, final.IsLineEnd ∧
        config.lexer.Passes .code trailer.toList final := by
  obtain ⟨final, after, later⟩ := passes_notes regular statement.notes .code
  rw [Statement.render, String.append_assoc, String.append_assoc]
  refine ⟨_, rfl, final, after, ?_⟩
  rw [String.toList_append]
  refine Lexer.Passes.append ?_ later
  cases separated : config.batchSeparator with
  | none => exact Lexer.Passes.nil _
  | some separator =>
      have feed := Lexer.neat_of_isWordy (s := "\n") regular.usual (by decide)
      exact feed.append (Lexer.neat_of_isWordy regular.usual
        (regular.batchSeparator separator separated))

/-- Of a statement as it is written only the semicolon behind its text counts. -/
theorem Statement.scan_render (regular : config.IsRegular) {statement : Statement}
    (clean : config.lexer.Clean statement.sql) :
    (config.lexer.run .code (statement.render config).toList).IsLineEnd ∧
      ∀ place, config.lexer.semicolons .code place (statement.render config).toList =
        [place + statement.sql.length] := by
  obtain ⟨mode, rest, text⟩ := clean
  obtain ⟨trailer, rendered, final, after, passes⟩ := render_eq regular statement
  have begins : config.lexer.step mode ';' = .code := by
    have closing := regular.usual.closeQuote_ne (c := ';') (by decide)
    have opening := regular.usual.openQuote_ne (c := ';') (by decide)
    rw [rest.step_eq closing.symm (by decide)]
    simp [Lexer.begin, opening.symm]
  have ended : config.lexer.run mode [';'] = .code := begins
  have counted : ∀ place, config.lexer.semicolons mode place [';'] = [place] := by
    simp [Lexer.semicolons, rest.isOutside]
  rw [rendered, String.toList_append, String.toList_append, show ";".toList = [';'] from rfl]
  constructor
  · rwa [Lexer.run_append, Lexer.run_append, text.run_eq, ended, passes.run_eq]
  · intro place
    rw [Lexer.semicolons_append, text.semicolons_eq, text.run_eq, Lexer.semicolons_append, ended,
      passes.semicolons_eq, counted, String.length_toList]
    rfl

/-- Clean statements are found at their ends, and the scan is back in code or in a last line of
notes. -/
theorem Statement.scan_join (regular : config.IsRegular) {statements : List Statement}
    (clean : ∀ statement ∈ statements, config.lexer.Clean statement.sql) :
    (config.lexer.run .code
        (Text.join "\n\n" (statements.map (Statement.render · config))).toList).IsLineEnd ∧
      ∀ place, config.lexer.semicolons .code place
        (Text.join "\n\n" (statements.map (Statement.render · config))).toList =
          Statement.ends config place statements := by
  induction statements with
  | nil =>
      rw [List.map_nil, Text.join_nil]
      exact ⟨.code, fun place => rfl⟩
  | cons statement rest ih =>
      obtain ⟨ended, found⟩ := scan_render regular (clean statement List.mem_cons_self)
      cases rest with
      | nil =>
          rw [List.map_singleton, Text.join, String.intercalate_singleton]
          exact ⟨ended, found⟩
      | cons next others =>
          obtain ⟨after, later⟩ := ih fun other member =>
            clean other (List.mem_cons_of_mem statement member)
          have emptyLine : config.lexer.Passes
              (config.lexer.run .code (statement.render config).toList) "\n\n".toList .code :=
            (ended.passes regular.usual).append
              (Lexer.neat_of_isWordy (s := "\n") regular.usual (by decide))
          rw [List.map_cons, List.map_cons, Text.join, String.intercalate_cons_cons,
            String.toList_append, String.toList_append]
          constructor
          · rw [Lexer.run_append, Lexer.run_append, emptyLine.run_eq]
            exact after
          · intro place
            rw [Lexer.semicolons_append, Lexer.semicolons_append, Lexer.run_append, found,
              emptyLine.semicolons_eq, emptyLine.run_eq, Statement.ends, List.append_nil,
              List.singleton_append, List.length_append, String.length_toList,
              String.length_toList]
            exact congrArg _ (later _)

end Ddl

/-! ### The whole document -/

namespace Diagram

open Ddl

/-- Every statement of a diagram is clean, if the columns end well. -/
theorem clean_of_ends {diagram : Diagram} {target : Target} (regular : target.config.IsRegular)
    (ends : ∀ table ∈ diagram.tables, ∀ field ∈ table.fields,
      target.config.lexer.Ends (Piece.text (target.columnPieces table field))) :
    ∀ statement ∈ diagram.statementsFor target, target.config.lexer.Clean statement.sql := by
  intro statement member
  obtain ⟨definition, defined, rfl⟩ := List.mem_map.mp member
  refine Target.clean_statement regular ?_
  intro table elements eq field column
  obtain ⟨listed, rfl⟩ := mem_tables_of_mem_definitions (eq ▸ defined)
  exact ends table listed field (mem_fields_of_mem_tableElements column)

/-- Every statement of a diagram with plain fields is clean. -/
theorem clean_of_mem_statementsFor {diagram : Diagram} {target : Target}
    (regular : target.config.IsRegular)
    (plain : ∀ table ∈ diagram.tables, ∀ field ∈ table.fields, field.IsPlain target.config) :
    ∀ statement ∈ diagram.statementsFor target, target.config.lexer.Clean statement.sql := by
  refine clean_of_ends regular fun table listed field member => ?_
  have clean := Target.allClean_columnPieces regular table (plain table listed field member)
  exact (clean.text regular.usual).ends

end Diagram

/-- Every name leads to a built-in engine. -/
theorem exists_engineNamed_eq (name : String) :
    ∃ dialect : Dialect, engineNamed name = dialect.engine :=
  ⟨_, engineNamed_eq name⟩

namespace Diagram

open Ddl

/-- The SQL of a diagram whose fields are plain splits into its statements: the scan ends outside
of every identifier, string and block comment, and the semicolons that it meets outside of these
and of line comments are those behind the texts of the statements, one for each in order. -/
theorem ddl_splits (diagram : Diagram) (name : String) (options : Options)
    (plain : ∀ table ∈ diagram.tables, ∀ field ∈ table.fields,
      field.IsPlain (engineNamed name).config) :
    let engine := engineNamed name
    let text := (diagram.ddl engine options).toList
    (engine.config.lexer.run .code text).isOpen = false ∧
      engine.config.lexer.semicolons .code 0 text = Statement.ends engine.config 0
        (diagram.statementsFor ⟨engine.config, engine.comments, options⟩) := by
  obtain ⟨dialect, same⟩ := exists_engineNamed_eq name
  rw [same] at plain ⊢
  intro engine text
  have clean : ∀ statement ∈ diagram.statementsFor ⟨engine.config, engine.comments, options⟩,
      engine.config.lexer.Clean statement.sql :=
    clean_of_mem_statementsFor dialect.isRegular plain
  obtain ⟨ended, found⟩ := Statement.scan_join dialect.isRegular clean
  exact ⟨ended.isOpen, found 0⟩

/-- A table, a column and an index in whose texts quotes, semicolons and the marks of comments
occur: two statements are written, and two are found. -/
theorem ddl_splits_marks :
    let field : Field := {
      id := "f", name := "a\";b", dataType := "varchar", default := some (.literal "\x27; --")
      comment := "*/ ; /*" }
    let table : Table := {
      id := "t", name := "x;\"", comment := "one;\ntwo \x27", fields := [field]
      indexes := [{ id := "i", name := some "\x27--", fields := [field.name] }] }
    let diagram : Diagram := { tables := [table] }
    let engine := engineNamed "sqlite"
    (∀ table ∈ diagram.tables, ∀ field ∈ table.fields, field.IsPlain engine.config) ∧
      (engine.config.lexer.run .code (diagram.ddl engine {}).toList).isOpen = false ∧
      engine.config.lexer.semicolons .code 0 (diagram.ddl engine {}).toList = [94, 135] := by
  intro field table diagram engine
  have plain : ∀ table ∈ diagram.tables, ∀ field ∈ table.fields, field.IsPlain engine.config := by
    intro other listed column member
    obtain rfl : other = table := List.mem_singleton.mp listed
    obtain rfl : column = field := List.mem_singleton.mp member
    exact ⟨by decide, by decide, fun value stored => by cases stored; trivial⟩
  obtain ⟨ended, found⟩ := ddl_splits diagram "sqlite" {} plain
  refine ⟨plain, ended, ?_⟩
  rw [found]
  decide +kernel

end Diagram

end EntityDiagram
