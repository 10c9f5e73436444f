import EntityDiagram.Proofs.Ddl.Clean
import EntityDiagram.Proofs.Text.Lowering

/-!
# Every clause is clean

The texts that an engine is described by are words, and so are numbers and the names of access
methods. From these and from quoted texts every clause of a column, an index or a foreign key is
put together, so that every clause is clean. What a person writes as SQL is the exception: checks
and calls stand as they are, and a type that the engine does not list is copied.
-/

namespace EntityDiagram

/-- The text by which a column counts up, wherever it stands. -/
def IncrementStrategy.sql : IncrementStrategy → String
  | keyword sql => sql
  | identity sql => sql
  | inlinePrimaryKey sql => sql

/-- The description of an engine whose quotes are usual and whose own texts are words. -/
structure DialectConfig.IsRegular (config : DialectConfig) : Prop where
  usual : config.lexer.IsUsual
  types : ∀ info ∈ config.types, Ddl.isWordy info.sql = true
  increment : Ddl.isWordy config.increment.sql = true
  indexTypes : ∀ known ∈ config.indexTypes, known.toList.all Char.isAlpha = true
  batchSeparator : ∀ separator ∈ config.batchSeparator, Ddl.isWordy separator = true
  trueLiteral : Ddl.isWordy config.trueLiteral = true
  falseLiteral : Ddl.isWordy config.falseLiteral = true
  /-- Arrays are marked with brackets, so that brackets must not be quotes. -/
  arrays : config.supportsArrays = true → config.openQuote ≠ '[' ∧ config.closeQuote ≠ ']'

theorem Dialect.isRegular (dialect : Dialect) : dialect.config.IsRegular := by
  cases dialect <;> exact ⟨⟨by decide, by decide⟩, by decide, by decide, by decide, by decide,
    by decide, by decide, by decide⟩

/-- A default that no one wrote as SQL: a plain value, or one of the known words. -/
def DefaultValue.IsPlain : DefaultValue → Prop
  | literal _ => True
  | expression _ => False
  | keyword word => Text.upper word ∈ keywords

/-- A field of which no part is copied into the SQL: the engine lists its type, it has no check,
and its default, if any, is plain. -/
structure Field.IsPlain (config : DialectConfig) (field : Field) : Prop where
  type_listed : (config.typeInfo? field.dataType).isSome = true
  no_check : ∀ check ∈ field.check, Text.isAllBlank check = true
  default_plain : ∀ value ∈ field.default, value.IsPlain

namespace Ddl

/-! ### Numbers, words and names of access methods -/

private theorem isWordChar_of_isDigit {c : Char} (digit : c.isDigit = true) :
    isWordChar c = true := by
  simp [isWordChar, Char.isAlphanum, digit]

theorem isWordy_numeral (n : UInt32) : isWordy (numeral n) = true := by
  rw [isWordy, List.all_eq_true]
  intro c member
  rw [numeral, Nat.toString_eq_repr, Nat.toList_repr] at member
  exact isWordChar_of_isDigit (Nat.isDigit_of_mem_toDigits (by decide) (by decide) member)

theorem isWordy_typeSuffix (field : Field) (info : TypeInfo) :
    isWordy (field.typeSuffix info) = true := by
  have parenthesized : ∀ n, isWordy s!"({numeral n})" = true := by
    intro n
    simp only [isWordy_append, isWordy_numeral, toString]
    decide
  rw [Field.typeSuffix]
  split
  · cases field.size.or info.defaultSize with
    | none => decide
    | some size => exact parenthesized size
  · split
    · split
      · decide
      · exact parenthesized _
      · split
        · exact parenthesized _
        · simp only [isWordy_append, isWordy_numeral, toString]
          decide
    · decide

private theorem isAlpha_toLower (c : Char) : c.toLower.isAlpha = c.isAlpha :=
  Text.apply_toLower (f := Char.isAlpha) (by decide) c

private theorem isWordChar_toUpper {c : Char} (letter : c.isAlpha = true) :
    c.toNat < 128 ∧ isWordChar c.toUpper = true := by
  have ascii := Text.ascii_of_isAlpha letter
  exact ⟨ascii, Text.forall_ascii
    (p := fun c => c.isAlpha = true → isWordChar c.toUpper = true) (by decide) ascii letter⟩

private theorem isWordy_upper {text : String} (letters : text.toList.all Char.isAlpha = true) :
    isWordy (Text.upper text) = true := by
  rw [List.all_eq_true] at letters
  rw [isWordy, List.all_eq_true]
  intro c member
  rw [Text.upper, String.toList_ofList, List.mem_flatMap] at member
  obtain ⟨d, found, mapped⟩ := member
  obtain ⟨ascii, word⟩ := isWordChar_toUpper (letters d found)
  rw [Text.upperChar_of_ascii ascii, List.mem_singleton] at mapped
  exact mapped ▸ word

/-- The name of a listed access method is a word, and so is the same name in capitals. -/
theorem isWordy_upper_of_supportsIndexType {config : DialectConfig} (regular : config.IsRegular)
    {method : Option String} {name : String} (given : Text.nonBlank? method = some name)
    (supported : config.supportsIndexType name = true) : isWordy (Text.upper name) = true := by
  obtain ⟨known, listed, same⟩ := List.any_eq_true.mp supported
  have trimmed : Text.trim name = name := by
    obtain ⟨raw, -, -, rfl⟩ := Text.nonBlank?_eq_some_iff.mp given
    exact Text.trim_trim raw
  have lowered : name.toList.map Char.toLower = known.toList.map Char.toLower := by
    rw [trimmed, Text.eqIgnoringCase, beq_iff_eq] at same
    exact (String.ofList_injective same).symm
  have letters := regular.indexTypes known listed
  refine isWordy_upper ?_
  rw [List.all_eq_true] at letters ⊢
  intro c member
  have found : c.toLower ∈ known.toList.map Char.toLower :=
    lowered ▸ List.mem_map_of_mem member
  obtain ⟨d, place, eq⟩ := List.mem_map.mp found
  rw [← isAlpha_toLower, ← eq, isAlpha_toLower]
  exact letters d place

/-! ### Columns -/

namespace Lexer

variable {config : DialectConfig} {lexer : Lexer}

/-- A decimal number is neat, blanks around it aside. -/
theorem neat_of_isNumericLiteral (usual : lexer.IsUsual) {value : String}
    (numeric : isNumericLiteral value = true) : lexer.Neat (Text.trim value) := by
  have digits : ∀ rest : List Char, (rest.all fun c => c.isDigit || c == '.') = true →
      isWordy (String.ofList rest) = true := by
    intro rest all
    rw [isWordy, String.toList_ofList, List.all_eq_true]
    intro c member
    rcases Bool.or_eq_true_iff.mp (List.all_eq_true.mp all c member) with digit | dot
    · exact isWordChar_of_isDigit digit
    · rw [beq_iff_eq.mp dot]
      decide
  rw [isNumericLiteral] at numeric
  rw [Text.trim]
  generalize Text.trimChars value.toList = trimmed at numeric
  simp only [Bool.and_eq_true] at numeric
  obtain ⟨⟨-, all⟩, some⟩ := numeric
  split at all
  · rename_i rest
    have nonempty : String.ofList rest ≠ "" := by
      rintro empty
      rw [String.ofList_eq_empty_iff] at empty
      subst empty
      simp at some
    rw [show String.ofList ('-' :: rest) = "-" ++ String.ofList rest by
      simp [String.ofList_cons]]
    exact neat_minus usual (digits rest all) nonempty
  · rename_i rest
    rw [show String.ofList ('+' :: rest) = "+" ++ String.ofList rest by
      simp [String.ofList_cons]]
    exact neat_of_isWordy usual (by rw [isWordy_append, digits rest all]; decide)
  · exact neat_of_isWordy usual (digits _ all)

/-- A plain default is clean, quoted or not. -/
theorem clean_defaultText (regular : config.IsRegular) (dataType : String) {value : DefaultValue}
    (plain : value.IsPlain) : config.lexer.Clean (Field.defaultText config dataType value) := by
  cases value with
  | literal text =>
      rw [Field.defaultText]
      split
      · rename_i unquoted
        exact (neat_of_isNumericLiteral regular.usual (Bool.and_eq_true_iff.mp unquoted).2).clean
      · exact clean_quoteString config text
  | expression call => exact plain.elim
  | keyword word =>
      have listed : ∀ known ∈ DefaultValue.keywords, isWordy known = true := by decide
      rw [Field.defaultText]
      refine (neat_of_isWordy regular.usual ?_).clean
      split
      · exact regular.trueLiteral
      · exact regular.falseLiteral
      · exact listed _ plain

/-- The type of a column is neat where the engine lists it. -/
theorem neat_sqlType (regular : config.IsRegular) {field : Field} (plain : field.IsPlain config) :
    config.lexer.Neat (field.sqlType config) := by
  obtain ⟨info, found⟩ := Option.isSome_iff_exists.mp plain.type_listed
  have name : isWordy (config.sqlTypeName field.dataType) = true := by
    rw [DialectConfig.sqlTypeName, found]
    exact regular.types info (List.mem_of_find?_eq_some found)
  have suffix := isWordy_typeSuffix field (config.typeInfo field.dataType)
  rw [Field.sqlType]
  refine ((neat_of_isWordy regular.usual name).append
    (neat_of_isWordy regular.usual suffix)).append ?_
  split
  · rename_i array
    obtain ⟨opening, closing⟩ := regular.arrays (Bool.and_eq_true_iff.mp array).2
    have other : config.lexer.openQuote ≠ ']' := regular.usual.openQuote_ne (by decide)
    have first : config.lexer.step .code '[' = .code := by
      simp [step, begin, DialectConfig.lexer, opening.symm]
    have second : config.lexer.step .code ']' = .code := by simp [step, begin, other.symm]
    have stays : ∀ c ∈ ['[', ']'], config.lexer.step .code c = .code := by
      intro c member
      rcases List.mem_pair.mp member with rfl | rfl
      · exact first
      · exact second
    exact Passes.of_forall stays (.inr (by decide))
  · exact Passes.nil _

/-- Pieces all of whose clauses are clean. -/
def AllClean (lexer : Lexer) (pieces : List Piece) : Prop :=
  ∀ sql ∈ Piece.clauses pieces, lexer.Clean sql

@[simp] theorem allClean_nil : lexer.AllClean [] := by simp [AllClean]

@[simp] theorem allClean_clause_cons {sql : String} {rest : List Piece} :
    lexer.AllClean (.clause sql :: rest) ↔ lexer.Clean sql ∧ lexer.AllClean rest := by
  simp [AllClean]

@[simp] theorem allClean_caveat_cons {note : String} {rest : List Piece} :
    lexer.AllClean (.caveat note :: rest) ↔ lexer.AllClean rest := by
  simp [AllClean]

@[simp] theorem allClean_append {a b : List Piece} :
    lexer.AllClean (a ++ b) ↔ lexer.AllClean a ∧ lexer.AllClean b := by
  simp [AllClean, or_imp, forall_and]

theorem allClean_clauseIf {condition : Bool} {sql : String} (clean : lexer.Clean sql) :
    lexer.AllClean (Piece.clauseIf condition sql) := by
  cases condition <;> simp [AllClean, clean]

/-- Clean clauses with a space between neighbours are clean together. -/
theorem AllClean.text (usual : lexer.IsUsual) {pieces : List Piece}
    (clean : lexer.AllClean pieces) : lexer.Clean (Piece.text pieces) :=
  Clean.join usual " " (by decide) (by decide) clean

/-- Words are clean. -/
theorem clean_of_isWordy (usual : lexer.IsUsual) {s : String} (wordy : isWordy s = true) :
    lexer.Clean s :=
  (neat_of_isWordy usual wordy).clean

end Lexer

namespace Target

variable {target : Target}

theorem allClean_arrayPieces (table : Table) (field : Field) :
    target.config.lexer.AllClean (target.arrayPieces table field) := by
  rw [arrayPieces]
  split <;> simp

theorem allClean_unsignedPieces (regular : target.config.IsRegular) (table : Table)
    (field : Field) : target.config.lexer.AllClean (target.unsignedPieces table field) := by
  have word : target.config.lexer.Clean "UNSIGNED" :=
    Lexer.clean_of_isWordy regular.usual (by decide)
  rw [unsignedPieces]
  split
  · split <;> simp [word]
  · simp

theorem allClean_identityPieces (regular : target.config.IsRegular) (table : Table)
    (field : Field) : target.config.lexer.AllClean (target.identityPieces table field) := by
  have clean := Lexer.clean_of_isWordy regular.usual regular.increment
  rw [identityPieces]
  cases strategy : target.config.increment with
  | keyword sql => simp
  | identity sql =>
      rw [strategy] at clean
      split <;> simp [show target.config.lexer.Clean sql from clean]
  | inlinePrimaryKey sql =>
      rw [strategy] at clean
      split
      · dsimp only
        split <;> simp [show target.config.lexer.Clean sql from clean]
      · simp

theorem allClean_incrementPieces (regular : target.config.IsRegular) (field : Field) :
    target.config.lexer.AllClean (target.incrementPieces field) := by
  have clean := Lexer.clean_of_isWordy regular.usual regular.increment
  rw [incrementPieces]
  cases strategy : target.config.increment with
  | keyword sql =>
      rw [strategy] at clean
      exact Lexer.allClean_clauseIf clean
  | identity sql => simp
  | inlinePrimaryKey sql => simp

theorem allClean_defaultPieces (regular : target.config.IsRegular) {field : Field}
    (plain : field.IsPlain target.config) :
    target.config.lexer.AllClean (target.defaultPieces field) := by
  rw [defaultPieces, Field.defaultOperand?]
  split
  · rename_i operand given
    split at given
    · contradiction
    · obtain ⟨value, stored, rfl⟩ := Option.map_eq_some_iff.mp given
      have clean :=
        Lexer.clean_defaultText regular field.dataType (plain.default_plain value stored)
      have word := Lexer.neat_of_isWordy (s := "DEFAULT ") regular.usual (by decide)
      simpa using word.append_clean clean
  · simp

theorem allClean_checkPieces {table : Table} {field : Field}
    (plain : field.IsPlain target.config) :
    target.config.lexer.AllClean (target.checkPieces table field) := by
  rw [checkPieces, Text.nonBlank?_eq_none_iff.mpr plain.no_check]
  exact fun _ member => nomatch member

theorem clean_columnCommentText (regular : target.config.IsRegular) (comment : String) :
    target.config.lexer.Clean (target.columnCommentText comment) := by
  have described : target.config.lexer.Clean ("COMMENT " ++ target.config.quoteString comment) :=
    (Lexer.neat_of_isWordy regular.usual (by decide)).append_clean
      (Lexer.clean_quoteString target.config comment)
  rw [columnCommentText]
  cases target.comments with
  | standard => exact described
  | extendedProperty => exact described
  | sqlText => exact (Lexer.neat_blockComment regular.usual comment).clean

/-- Every clause of a column is clean. -/
theorem allClean_columnPieces (regular : target.config.IsRegular) (table : Table) {field : Field}
    (plain : field.IsPlain target.config) :
    target.config.lexer.AllClean (target.columnPieces table field) := by
  have name := Lexer.clean_quoteIdentifier regular.usual field.name
  have type := (Lexer.neat_sqlType regular plain).clean
  have required := Lexer.clean_of_isWordy (s := "NOT NULL") regular.usual (by decide)
  have unique := Lexer.clean_of_isWordy (s := "UNIQUE") regular.usual (by decide)
  have comment := clean_columnCommentText regular field.comment
  simp [columnPieces, name, type, allClean_arrayPieces, allClean_unsignedPieces regular,
    allClean_identityPieces regular, allClean_defaultPieces regular plain,
    Lexer.allClean_clauseIf required, Lexer.allClean_clauseIf unique,
    allClean_incrementPieces regular, allClean_checkPieces plain, columnCommentPieces,
    Lexer.allClean_clauseIf comment]

/-! ### Indexes and foreign keys -/

theorem isWordy_ifNotExists (target : Target) : isWordy target.ifNotExists = true := by
  rw [ifNotExists]
  split <;> decide

theorem isWordy_methodPieces (regular : target.config.IsRegular) (definition : IndexDefinition) :
    ∀ sql ∈ Piece.clauses (target.methodPieces definition), isWordy sql = true := by
  rw [methodPieces]
  split
  · simp
  · rename_i method given
    split
    · rename_i supported
      simpa using isWordy_upper_of_supportsIndexType regular given supported
    · simp

theorem clauses_behindWord (word : String) (pieces : List Piece) :
    Piece.clauses (behindWord word pieces) = (Piece.clauses pieces).map (word ++ ·) := by
  induction pieces with
  | nil => rfl
  | cons piece rest ih =>
      cases piece with
      | clause sql => simpa [behindWord] using ih
      | caveat note => simpa [behindWord] using ih

theorem allClean_methodPieces (regular : target.config.IsRegular) (definition : IndexDefinition) :
    target.config.lexer.AllClean (target.methodPieces definition) :=
  fun sql member =>
    Lexer.clean_of_isWordy regular.usual (isWordy_methodPieces regular definition sql member)

theorem allClean_usingPieces (regular : target.config.IsRegular) (definition : IndexDefinition) :
    target.config.lexer.AllClean (behindWord "USING " (target.methodPieces definition)) := by
  intro sql member
  rw [clauses_behindWord] at member
  obtain ⟨method, found, rfl⟩ := List.mem_map.mp member
  have wordy := isWordy_methodPieces regular definition method found
  refine Lexer.clean_of_isWordy regular.usual ?_
  rw [isWordy_append, wordy]
  decide

/-- Every clause of an index in its table is clean. -/
theorem allClean_inlineIndexPieces (regular : target.config.IsRegular)
    (definition : IndexDefinition) :
    target.config.lexer.AllClean (target.inlineIndexPieces definition) := by
  have unique := Lexer.clean_of_isWordy (s := "UNIQUE") regular.usual (by decide)
  have name := (Lexer.neat_of_isWordy (s := "INDEX ") regular.usual (by decide)).append_clean
    (Lexer.clean_quoteIdentifier regular.usual definition.name)
  have opened := name.append_word (t := " (") regular.usual (by decide) (by decide)
  have columns := opened.append_clean (Lexer.clean_quotedList regular.usual definition.columns)
  have index := (columns.append_word (t := ")") regular.usual (by decide) (by decide)).clean
  simp [inlineIndexPieces, Lexer.allClean_clauseIf unique, index, allClean_usingPieces regular]

/-- Every clause of an index outside its table is clean. -/
theorem allClean_indexPieces (regular : target.config.IsRegular) (definition : IndexDefinition) :
    target.config.lexer.AllClean (target.indexPieces definition) := by
  have create := Lexer.clean_of_isWordy (s := "CREATE") regular.usual (by decide)
  have unique := Lexer.clean_of_isWordy (s := "UNIQUE") regular.usual (by decide)
  have front := (Lexer.neat_of_isWordy (s := "INDEX ") regular.usual (by decide)).append
    (Lexer.neat_of_isWordy regular.usual (isWordy_ifNotExists target))
  have named := front.append_clean (Lexer.clean_quoteIdentifier regular.usual definition.name)
  have joined := named.append_word (t := " ON ") regular.usual (by decide) (by decide)
  have index := joined.append_clean
    (Lexer.clean_quoteIdentifier regular.usual definition.table.name)
  have opened := (Lexer.neat_of_isWordy (s := "(") regular.usual (by decide)).append_clean
    (Lexer.clean_quotedList regular.usual definition.columns)
  have columns := (opened.append_word (t := ")") regular.usual (by decide) (by decide)).clean
  have method := allClean_methodPieces regular definition
  have choice := allClean_usingPieces regular definition
  rw [indexPieces]
  cases target.config.indexTypePlacement <;>
    simp [create, Lexer.allClean_clauseIf unique, index, columns, method, choice]

theorem allClean_actionPieces (regular : target.config.IsRegular) (key : ForeignKey)
    (event : String) (wordy : isWordy event = true) (action : ForeignKeyAction)
    (supported : Bool) :
    target.config.lexer.AllClean (target.actionPieces key event action supported) := by
  have actionWords : isWordy action.sql = true := by
    cases action <;> decide
  have clause : target.config.lexer.Clean ("ON " ++ event ++ " " ++ action.sql) := by
    refine Lexer.clean_of_isWordy regular.usual ?_
    rw [isWordy_append, isWordy_append, isWordy_append, wordy, actionWords]
    decide
  rw [actionPieces]
  split
  · simpa using clause
  · split <;> simp

/-- Every clause of a foreign key is clean. -/
theorem allClean_foreignKeyPieces (regular : target.config.IsRegular) (key : ForeignKey) :
    target.config.lexer.AllClean (target.foreignKeyPieces key) := by
  have quoted := Lexer.clean_quoteIdentifier regular.usual
  have name := (Lexer.neat_of_isWordy (s := "CONSTRAINT ") regular.usual (by decide)).append_clean
    (quoted key.name)
  have field := (name.append_word (t := " FOREIGN KEY(") regular.usual (by decide)
    (by decide)).append_clean (quoted key.field.name)
  have refTable := (field.append_word (t := ") REFERENCES ") regular.usual (by decide)
    (by decide)).append_clean (quoted key.refTable.name)
  have refField := (refTable.append_word (t := "(") regular.usual (by decide)
    (by decide)).append_clean (quoted key.refField.name)
  have clause := (refField.append_word (t := ")") regular.usual (by decide) (by decide)).clean
  simp [foreignKeyPieces, clause, allClean_actionPieces regular key "UPDATE" (by decide),
    allClean_actionPieces regular key "DELETE" (by decide)]

/-- Every clause of an element of a table is clean, if it is no column or a plain one. -/
theorem allClean_elementPieces (regular : target.config.IsRegular) (table : Table)
    {element : Element} (plain : ∀ field, element = .column field → field.IsPlain target.config) :
    target.config.lexer.AllClean (target.elementPieces table element) := by
  cases element with
  | column field => exact allClean_columnPieces regular table (plain field rfl)
  | primaryKey columns =>
      have opened := (Lexer.neat_of_isWordy (s := "PRIMARY KEY(") regular.usual
        (by decide)).append_clean (Lexer.clean_quotedList regular.usual columns)
      have clause := (opened.append_word (t := ")") regular.usual (by decide) (by decide)).clean
      simpa [elementPieces] using clause
  | index definition => exact allClean_inlineIndexPieces regular definition
  | foreignKey key => exact allClean_foreignKeyPieces regular key

end Target

end Ddl

end EntityDiagram
