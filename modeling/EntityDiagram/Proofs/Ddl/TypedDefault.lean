import EntityDiagram.Proofs.Ddl.Caveats
import EntityDiagram.Proofs.Ddl.Splitting
import EntityDiagram.Proofs.Session.FieldRemoval

/-!
# Defaults as a person types them

A typed default is written as a plain value, as a known word, or, if it has the shape of a call, as
it stands. The shape says nothing about what is between the first parenthesis and the last, so that
a call may end the statement of its table, or leave a string open. Which calls do not is decided by
reading the call alone, and the SQL of every diagram with such a call splits into its statements.
-/

namespace EntityDiagram

/-- A call that stays in its column: read on its own it ends no statement and leaves all that it
opens. Only a line comment may go on up to the end of the line, provided that no comment of the
column, in which a line feed may stand, comes before that. -/
structure DialectConfig.Contains (config : DialectConfig) (call : String) : Prop where
  no_end : config.lexer.semicolons .code 0 call.toList = []
  closed : (config.lexer.run .code call.toList).isOpen = false
  line : config.lexer.run .code call.toList = .line → config.commentStyle = .statement

/-- A field that the engine can write without any SQL of a person: its type is listed, it has no
check, and its default, if any, is a plain value. -/
structure Field.IsLiteral (config : DialectConfig) (field : Field) : Prop where
  type_listed : (config.typeInfo? field.dataType).isSome = true
  no_check : ∀ check ∈ field.check, Text.isAllBlank check = true
  default_literal : ∀ value ∈ field.default, ∃ text, value = .literal text

theorem Field.IsLiteral.isPlain {config : DialectConfig} {field : Field}
    (literal : field.IsLiteral config) : field.IsPlain config where
  type_listed := literal.type_listed
  no_check := literal.no_check
  default_plain := by
    intro value stored
    obtain ⟨text, rfl⟩ := literal.default_literal value stored
    trivial

namespace DefaultValue

/-- The default that a typed text stands for; a blank one stands for none. -/
def typed? (config : DialectConfig) (raw : String) : Option DefaultValue :=
  ((some raw).filter (!Text.isAllBlank ·)).map (infer config)

/-- A typed text is a known word in capitals, a call without the blanks around it, or a plain value
as it stands. -/
theorem infer_cases (config : DialectConfig) (raw : String) :
    (∃ word ∈ keywords, infer config raw = .keyword word) ∨
      infer config raw = .expression (Text.trim raw) ∨ infer config raw = .literal raw := by
  unfold infer
  dsimp only
  split
  · next known => exact .inl ⟨_, List.contains_iff_mem.mp known, rfl⟩
  · split
    · exact .inr (.inl rfl)
    · exact .inr (.inr rfl)

/-- The known words are in capitals. -/
theorem upper_of_mem_keywords {word : String} (known : word ∈ keywords) :
    Text.upper word = word := by
  have capitals : ∀ word ∈ keywords,
      word.toList.all (fun c => c.toNat < 128 && c.toUpper == c) = true := by decide
  exact Text.upper_eq_self (capitals word known)

theorem isPlain_keyword {word : String} (known : word ∈ keywords) : (keyword word).IsPlain := by
  show Text.upper word ∈ keywords
  rwa [upper_of_mem_keywords known]

/-- What is not taken for a call is plain. -/
theorem isPlain_of_infer {config : DialectConfig} {raw : String} {value : DefaultValue}
    (sorted : infer config raw = value) (other : ∀ call, value ≠ .expression call) :
    value.IsPlain := by
  rcases infer_cases config raw with ⟨word, known, same⟩ | called | same
  · rw [← sorted, same]
    exact isPlain_keyword known
  · exact absurd (sorted.symm.trans called) (other _)
  · rw [← sorted, same]
    exact True.intro

/-- A call is kept without the blanks around it. -/
theorem eq_trim_of_infer {config : DialectConfig} {raw call : String}
    (called : infer config raw = .expression call) : call = Text.trim raw := by
  rcases infer_cases config raw with ⟨word, -, same⟩ | same | same <;> rw [same] at called
  · cases called
  · exact (expression.inj called).symm
  · cases called

theorem infer_of_typed? {config : DialectConfig} {raw : String} {value : DefaultValue}
    (typed : typed? config raw = some value) : infer config raw = value := by
  obtain ⟨text, kept, sorted⟩ := Option.map_eq_some_iff.mp typed
  obtain rfl : raw = text := Option.some.inj (Option.eq_some_of_filter_eq_some kept)
  exact sorted

end DefaultValue

namespace Ddl

namespace Lexer

variable {lexer : Lexer} {mode : Mode}

theorem Mode.isOpen_of_isOutside (outside : mode.isOutside = true) : mode.isOpen = false := by
  cases mode <;> first | rfl | contradiction

/-- Clean clauses are passed over with a space in front of each. -/
theorem passes_spaced (usual : lexer.IsUsual) (outside : mode.isOutside = true)
    {pieces : List Piece} (clean : lexer.AllClean pieces) :
    ∃ final : Mode, final.isOutside = true ∧
      lexer.Passes mode (Piece.spaced pieces).toList final := by
  unfold AllClean at clean
  unfold Piece.spaced
  generalize Piece.clauses pieces = clauses at clean
  induction clauses generalizing mode with
  | nil => exact ⟨mode, outside, Passes.nil mode⟩
  | cons sql rest ih =>
      obtain ⟨middle, atRest, first⟩ := clean sql List.mem_cons_self
      obtain ⟨final, after, later⟩ := ih atRest.isOutside
        (fun other member => clean other (List.mem_cons_of_mem sql member))
      have space := Mode.passes_word (s := " ") usual outside (by decide) (by decide)
      refine ⟨final, after, ?_⟩
      rw [List.map_cons, String.join_cons, String.toList_append, String.toList_append]
      exact (space.append first).append later

end Lexer

namespace Target

variable {target : Target}

/-- What stands in front of the default of a column. -/
def beforeDefault (target : Target) (table : Table) (field : Field) : List Piece :=
  Piece.clause (target.config.quoteIdentifier field.name) ::
    Piece.clause (field.sqlType target.config) ::
    (target.arrayPieces table field ++ target.unsignedPieces table field ++
      target.identityPieces table field)

/-- What stands behind the default of a column that has no check. -/
def afterDefault (target : Target) (field : Field) : List Piece :=
  Piece.clauseIf field.isRequired "NOT NULL" ++ Piece.clauseIf field.unique "UNIQUE" ++
    target.columnCommentPieces field

/-- A column without a check is its default between the pieces around it. -/
theorem text_columnPieces_default (table : Table) {field : Field} {operand : String}
    (noCheck : ∀ check ∈ field.check, Text.isAllBlank check = true)
    (given : field.defaultOperand? target.config = some operand) :
    Piece.text (target.columnPieces table field) =
      Piece.text (target.beforeDefault table field) ++ " DEFAULT " ++ operand ++
        Piece.spaced (target.afterDefault field) := by
  have counts : field.increment = false := by
    cases counts : field.increment with
    | false => rfl
    | true => simp [Field.defaultOperand?, counts] at given
  have late : target.incrementPieces field = [] := by
    unfold incrementPieces
    split <;> simp [Piece.clauseIf, counts]
  have unchecked := Text.nonBlank?_eq_none_iff.mpr noCheck
  have split : " DEFAULT " = " " ++ "DEFAULT " := rfl
  simp only [columnPieces, beforeDefault, afterDefault, defaultPieces, given, late, checkPieces,
    unchecked, List.cons_append, List.nil_append, List.append_assoc, List.append_nil,
    Piece.text_clause_cons, Piece.spaced_clause_cons, Piece.spaced_append, split,
    String.append_assoc]

theorem allClean_beforeDefault (regular : target.config.IsRegular) (table : Table) {field : Field}
    (listed : (target.config.typeInfo? field.dataType).isSome = true) :
    target.config.lexer.AllClean (target.beforeDefault table field) := by
  have plain : ({ field with default := none, check := none } : Field).IsPlain target.config :=
    ⟨listed, by simp, by simp⟩
  have name := Lexer.clean_quoteIdentifier regular.usual field.name
  have type : target.config.lexer.Clean (field.sqlType target.config) :=
    (Lexer.neat_sqlType regular plain).clean
  simp [beforeDefault, name, type, allClean_arrayPieces, allClean_unsignedPieces regular,
    allClean_identityPieces regular]

theorem allClean_afterDefault (regular : target.config.IsRegular) (field : Field) :
    target.config.lexer.AllClean (target.afterDefault field) := by
  have required := Lexer.clean_of_isWordy (s := "NOT NULL") regular.usual (by decide)
  have unique := Lexer.clean_of_isWordy (s := "UNIQUE") regular.usual (by decide)
  have comment := clean_columnCommentText regular field.comment
  simp [afterDefault, Lexer.allClean_clauseIf required, Lexer.allClean_clauseIf unique,
    columnCommentPieces, Lexer.allClean_clauseIf comment]

/-- The part of a column up to its default leads from code to code. -/
theorem neat_beforeDefault (regular : target.config.IsRegular) (table : Table) {field : Field}
    (listed : (target.config.typeInfo? field.dataType).isSome = true) :
    target.config.lexer.Neat (Piece.text (target.beforeDefault table field) ++ " DEFAULT ") :=
  ((allClean_beforeDefault regular table listed).text regular.usual).append_word regular.usual
    (by decide) (by decide)

/-- Without a comment a line goes on behind the default as it was. -/
theorem passes_line_afterDefault (placed : target.config.commentStyle = .statement)
    (field : Field) :
    target.config.lexer.Passes .line (Piece.spaced (target.afterDefault field)).toList .line := by
  have silent : target.columnCommentPieces field = [] := by
    simp [columnCommentPieces, writesComments, placed, Piece.clauseIf]
  have clear : '\n' ∉ (Piece.spaced (target.afterDefault field)).toList := by
    simp only [afterDefault, silent, List.append_nil, Piece.spaced_append, Piece.spaced_clauseIf]
    cases field.isRequired <;> cases field.unique <;> decide
  exact Lexer.Passes.of_forall
    (fun c member => if_neg fun (feed : c = '\n') => clear (feed ▸ member)) (.inl rfl)

/-- A column whose default stays in it ends well. -/
theorem ends_columnPieces (regular : target.config.IsRegular) (table : Table) {field : Field}
    (listed : (target.config.typeInfo? field.dataType).isSome = true)
    (noCheck : ∀ check ∈ field.check, Text.isAllBlank check = true) {operand : String}
    (given : field.defaultOperand? target.config = some operand)
    (contained : target.config.Contains operand) :
    target.config.lexer.Ends (Piece.text (target.columnPieces table field)) := by
  have front := neat_beforeDefault regular table listed
  have call := Lexer.Passes.of_semicolons contained.no_end
  suffices rest : ∃ final : Lexer.Mode, final.isOpen = false ∧ target.config.lexer.Passes
      (target.config.lexer.run .code operand.toList)
      (Piece.spaced (target.afterDefault field)).toList final by
    obtain ⟨final, closed, behind⟩ := rest
    refine ⟨final, closed, ?_⟩
    rw [text_columnPieces_default table noCheck given, String.toList_append, String.toList_append]
    exact (Lexer.Passes.append front call).append behind
  cases outside : (target.config.lexer.run .code operand.toList).isOutside with
  | true =>
      obtain ⟨final, after, behind⟩ := Lexer.passes_spaced regular.usual outside
        (allClean_afterDefault regular field)
      exact ⟨final, Lexer.Mode.isOpen_of_isOutside after, behind⟩
  | false =>
      have comment := Lexer.Mode.eq_line_of_not_isOutside contained.closed outside
      rw [comment]
      exact ⟨.line, rfl, passes_line_afterDefault (contained.line comment) field⟩

end Target

end Ddl

/-! ### Typing a default -/

/-- A typed default is given to a field that does not count up. -/
theorem Diagram.apply_defaultPatch (diagram : Diagram) (raw : Option String) (field : Field) :
    (diagram.defaultPatch raw).apply field =
      if field.increment then field.asIncrement
      else { field with default := raw.bind (DefaultValue.typed? diagram.config) } := by
  have given : (diagram.defaultPatch raw).assign field =
      { field with default := raw.bind (DefaultValue.typed? diagram.config) } := by
    cases raw <;> rfl
  rw [FieldPatch.apply, given]
  rfl

/-- The ids of the first field and of its table, the first one, lead there. -/
theorem FieldPlace.isIn_first {diagram : Diagram} {table : Table} {after : List Table}
    {field : Field} {right : List Field} (tables : diagram.tables = table :: after)
    (fields : table.fields = field :: right) :
    IsIn ⟨[], table, after, [], field, right⟩ diagram table.id field.id where
  tables := tables
  first_table := fun _ member => (List.not_mem_nil member).elim
  table_id := rfl
  fields := fields
  first_field := fun _ member => (List.not_mem_nil member).elim
  field_id := rfl

/-- All tables in order, with another field at the place. -/
def FieldPlace.exchange (place : FieldPlace) (field : Field) : List Table :=
  place.before ++ { place.table with fields := place.left ++ field :: place.right } :: place.after

/-- Apart from the exchanged field the tables hold the same fields. -/
theorem FieldPlace.mem_exchange {place : FieldPlace} {field : Field} (instead : Field)
    {table : Table} (listed : table ∈ place.exchange field) {other : Field}
    (member : other ∈ table.fields) :
    other = field ∨ ∃ table ∈ place.exchange instead, other ∈ table.fields := by
  have same : ∀ {table}, table ∈ place.before ++ place.after → table ∈ place.exchange instead := by
    intro table apart
    rcases List.mem_append.mp apart with before | after
    · exact List.mem_append_left _ before
    · exact List.mem_append_right _ (List.mem_cons_of_mem _ after)
  rcases List.mem_append.mp listed with before | here
  · exact .inr ⟨table, same (List.mem_append_left _ before), member⟩
  · rcases List.mem_cons.mp here with rfl | after
    · rcases List.mem_append.mp member with left | there
      · exact .inr ⟨_, List.mem_append_right _ List.mem_cons_self, List.mem_append_left _ left⟩
      · rcases List.mem_cons.mp there with rfl | right
        · exact .inl rfl
        · exact .inr ⟨_, List.mem_append_right _ List.mem_cons_self,
            List.mem_append_right _ (List.mem_cons_of_mem _ right)⟩
    · exact .inr ⟨table, same (List.mem_append_right _ after), member⟩

theorem FieldPlace.exists_mem_exchange (place : FieldPlace) (field : Field) :
    ∃ table ∈ place.exchange field, field ∈ table.fields :=
  ⟨_, List.mem_append_right _ List.mem_cons_self, List.mem_append_right _ List.mem_cons_self⟩

/-- Where a default may be typed: the place of a field that does not count up, in the diagram of a
session, if its type and those of all fields are listed by the engine to be written for, no field
has a check, and the other fields have plain values for defaults or none. -/
structure Session.Suits (session : Session) (config : DialectConfig) (tableId fieldId : String)
    (place : FieldPlace) : Prop where
  there : place.IsIn session.diagram tableId fieldId
  counts : place.field.increment = false
  literal : ∀ table ∈ place.exchange { place.field with default := none },
    ∀ field ∈ table.fields, field.IsLiteral config

/-- The number of statements that a program finds in the SQL of a diagram: that of the semicolons
outside of identifiers, strings and comments. -/
def Diagram.foundStatements (diagram : Diagram) (dialect : Dialect) (options : Ddl.Options) : Nat :=
  (dialect.config.lexer.semicolons .code 0 (diagram.ddl dialect.engine options).toList).length

namespace Session

open Ddl

variable {session : Session} {tableId fieldId : String} {place : FieldPlace}

/-- Typing a default for a field that does not count up exchanges the default and nothing else. -/
theorem edit_setFieldDefault (there : place.IsIn session.diagram tableId fieldId)
    (counts : place.field.increment = false) (raw : String) :
    ∃ next shown, session.edit (.setFieldDefault tableId fieldId (some raw)) = .ok (next, shown) ∧
      next.diagram = { session.diagram with
        tables := place.exchange { place.field with
          default := DefaultValue.typed? session.diagram.config raw } } := by
  let patch := session.diagram.defaultPatch (some raw)
  have applied : patch.apply place.field = { place.field with
      default := DefaultValue.typed? session.diagram.config raw } :=
    (session.diagram.apply_defaultPatch (some raw) place.field).trans (if_neg (by simp [counts]))
  have found : session.diagram.table? tableId = some place.table := by
    rw [Diagram.table?, there.tables]
    exact Keyed.find?_append_cons there.first_table there.table_id
  have inside : place.table.field? fieldId = some place.field := by
    rw [Table.field?, there.fields]
    exact Keyed.find?_append_cons there.first_field there.field_id
  have updated : place.table.updateField fieldId patch =
      .ok ({ place.table with fields := place.left ++ patch.apply place.field :: place.right },
        patch.apply place.field) := by
    refine Table.updateField_eq_ok_iff.mpr ⟨place.field, inside, rfl, ?_⟩
    rw [there.fields, Keyed.update_append_cons there.first_field there.field_id,
      Table.renameColumn, applied]
    exact (if_pos (by simp)).symm
  have edited : (Edit.setFieldDefault tableId fieldId (some raw)).apply session.diagram = .ok
      ({ session.diagram with tables := place.exchange (patch.apply place.field) },
        .field (patch.apply place.field)) := by
    refine Diagram.inTable_eq_ok_iff.mpr ⟨place.table, _, found,
      Edit.showing_eq_ok_iff.mpr ⟨_, updated, rfl⟩, ?_⟩
    rw [there.tables, Keyed.update_append_cons there.first_table there.table_id]
    rfl
  refine ⟨_, _, map_eq_ok_iff.mpr ⟨_, edited, rfl⟩, ?_⟩
  rw [applied]

/-- With a default that stays in its column all columns end well. -/
theorem Suits.ends {own dialect : Dialect}
    (suits : session.Suits dialect.config tableId fieldId place) {raw : String} (options : Options)
    (contained : ∀ call, DefaultValue.infer own.config raw = .expression call →
      dialect.config.Contains call) :
    ∀ table ∈ place.exchange { place.field with default := DefaultValue.typed? own.config raw },
      ∀ field ∈ table.fields, dialect.config.lexer.Ends
        (Piece.text ((dialect.target options).columnPieces table field)) := by
  have ofPlain : ∀ table field, field.IsPlain dialect.config → dialect.config.lexer.Ends
      (Piece.text ((dialect.target options).columnPieces table field)) := by
    intro table field plain
    have clean :
        dialect.config.lexer.AllClean ((dialect.target options).columnPieces table field) :=
      Target.allClean_columnPieces dialect.isRegular table plain
    exact (clean.text dialect.isRegular.usual).ends
  have bare : ({ place.field with default := none } : Field).IsLiteral dialect.config := by
    obtain ⟨table, listed, member⟩ := place.exists_mem_exchange { place.field with default := none }
    exact suits.literal table listed _ member
  intro table listed field member
  rcases FieldPlace.mem_exchange { place.field with default := none } listed member with
    rfl | ⟨other, elsewhere, there⟩
  · cases typed : DefaultValue.typed? own.config raw with
    | none => exact ofPlain table _ bare.isPlain
    | some value =>
        have sorted := DefaultValue.infer_of_typed? typed
        by_cases called : ∃ call, value = .expression call
        · obtain ⟨call, rfl⟩ := called
          have trimmed : Text.trim call = call := by
            rw [DefaultValue.eq_trim_of_infer sorted, Text.trim_trim]
          have inside : (dialect.target options).config.Contains call := contained call sorted
          have regular : (dialect.target options).config.IsRegular := dialect.isRegular
          refine Target.ends_columnPieces regular table bare.type_listed bare.no_check ?_ inside
          simp [Field.defaultOperand?, suits.counts, Field.defaultText, trimmed]
        · refine ofPlain table _ ⟨bare.type_listed, bare.no_check, fun stored same => ?_⟩
          obtain rfl : value = stored := Option.some.inj same
          exact DefaultValue.isPlain_of_infer sorted fun call same => called ⟨call, same⟩
  · exact ofPlain table field (suits.literal other elsewhere field there).isPlain

end Session

namespace Ddl

theorem Statement.length_ends (config : DialectConfig) (place : Nat) (statements : List Statement) :
    (Statement.ends config place statements).length = statements.length := by
  induction statements generalizing place with
  | nil => rfl
  | cons statement rest ih => exact congrArg (· + 1) (ih _)

end Ddl

/-- Of a diagram whose columns end well as many statements are found as there are. -/
theorem Diagram.foundStatements_of_ends {diagram : Diagram} {dialect : Dialect}
    {options : Ddl.Options}
    (ends : ∀ table ∈ diagram.tables, ∀ field ∈ table.fields, dialect.config.lexer.Ends
      (Ddl.Piece.text ((dialect.target options).columnPieces table field))) :
    diagram.foundStatements dialect options =
      (diagram.statements dialect.engine options).length := by
  have regular : (dialect.target options).config.IsRegular := dialect.isRegular
  have clean := clean_of_ends regular ends
  have found := (Ddl.Statement.scan_join regular clean).2 0
  refine (congrArg List.length found).trans ?_
  rw [Ddl.Statement.length_ends]
  exact (List.length_map _).symm

namespace Session

variable {session : Session} {tableId fieldId : String} {place : FieldPlace}

/-- A default that stays in its column leaves the SQL of every diagram in its statements. -/
theorem Suits.foundStatements {own dialect : Dialect}
    (suits : session.Suits dialect.config tableId fieldId place)
    (engine : session.diagram.dialect = own) {raw : String}
    (contained : ∀ call, DefaultValue.infer own.config raw = .expression call →
      dialect.config.Contains call) (options : Ddl.Options) :
    ∃ next shown, session.edit (.setFieldDefault tableId fieldId (some raw)) = .ok (next, shown) ∧
      next.diagram.foundStatements dialect options =
        (next.diagram.statements dialect.engine options).length := by
  obtain ⟨next, shown, done, left⟩ := edit_setFieldDefault suits.there suits.counts raw
  refine ⟨next, shown, done, Diagram.foundStatements_of_ends ?_⟩
  rw [left, Diagram.config, engine]
  exact suits.ends options contained

end Session

end EntityDiagram
