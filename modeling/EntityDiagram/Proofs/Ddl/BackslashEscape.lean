import EntityDiagram.Ddl.Statement
import EntityDiagram.Proofs.Ddl.LiteralDefault
import Mathlib.Algebra.Group.Nat.Even

/-!
# Backslashes in string literals

MySQL reads a backslash in a string literal, unless told otherwise, as an escape of the character
behind it. Quoting doubles quotes and leaves backslashes as they are. So a literal ends at its last
character exactly if backslashes come in pairs in front of every quote of the text and at its end.
-/

namespace EntityDiagram

namespace Backslash

/-- What is left behind the string literal inside of which a text starts: a backslash takes the
character behind it, of two quotes one is meant, and a single one ends the literal. -/
def leaveString : List Char → Option (List Char)
  | [] => none
  | [c] => if c = '\x27' then some [] else none
  | c :: d :: behind =>
    if c = '\\' then leaveString behind
    else if c = '\x27' then if d = '\x27' then leaveString behind else some (d :: behind)
    else leaveString (d :: behind)

/-- What is left behind the string literal with which a text starts. -/
def skipString : List Char → Option (List Char)
  | [] => none
  | c :: behind => if c = '\x27' then leaveString behind else none

/-- The places where backslashes have to come in pairs: in front of a quote, and at the end. -/
def IsBoundary (after : List Char) : Prop := after = [] ∨ after.head? = some '\x27'

/-- A text in which an even number of backslashes stands in front of every quote and at the end. -/
def IsPaired (text : List Char) : Prop :=
  ∀ before after, text = before ++ after → IsBoundary after →
    Even (before.rtakeWhile (· == '\\')).length

/-- Whether a character escapes the one behind it, by whether it is escaped itself. -/
def escapesNext (escaped : Bool) (c : Char) : Bool := c == '\\' && !escaped

/-- No quote of a text, nor one behind it, is escaped. The flag says whether the first character
is. -/
def Spares (escaped : Bool) (text : List Char) : Prop :=
  ∀ before after, text = before ++ after → IsBoundary after →
    before.foldl escapesNext escaped = false

variable {c : Char} {text rest following : List Char}

/-- An odd number of backslashes escapes what stands behind them. -/
theorem foldl_escapesNext (before : List Char) :
    before.foldl escapesNext false = false ↔ Even (before.rtakeWhile (· == '\\')).length := by
  induction before using List.reverseRecOn with
  | nil => simp
  | append_singleton before c ih =>
      rw [List.foldl_append, List.rtakeWhile_concat]
      by_cases slash : c = '\\'
      · subst slash
        simp [escapesNext, Nat.even_add_one, ← ih]
      · simp [escapesNext, slash]

theorem isPaired_iff : IsPaired text ↔ Spares false text := by
  simp only [IsPaired, Spares, foldl_escapesNext]

theorem spares_nil {escaped : Bool} : Spares escaped [] ↔ escaped = false := by
  constructor
  · intro spared
    exact spared [] [] rfl (.inl rfl)
  · rintro plain before after split -
    obtain ⟨rfl, -⟩ := List.append_eq_nil_iff.mp split.symm
    exact plain

theorem spares_cons {escaped : Bool} :
    Spares escaped (c :: rest) ↔
      (c = '\x27' → escaped = false) ∧ Spares (escapesNext escaped c) rest := by
  constructor
  · intro spared
    refine ⟨fun quote => spared [] (c :: rest) rfl (.inr (congrArg some quote)), ?_⟩
    intro before after split boundary
    exact spared (c :: before) after (congrArg (c :: ·) split) boundary
  · rintro ⟨quote, spared⟩ before after split boundary
    cases before with
    | nil =>
        obtain rfl : c :: rest = after := split
        exact quote (by simpa [IsBoundary] using boundary)
    | cons d before =>
        obtain ⟨rfl, behind⟩ := List.cons.inj split
        exact spared before after behind boundary

/-- Whether a text spares its quotes is found out character by character. -/
instance decidableSpares : (escaped : Bool) → (text : List Char) → Decidable (Spares escaped text)
  | _, [] => decidable_of_iff _ spares_nil.symm
  | escaped, c :: rest =>
    have := decidableSpares (escapesNext escaped c) rest
    decidable_of_iff _ spares_cons.symm

instance : DecidablePred IsPaired := fun _ => decidable_of_iff _ isPaired_iff.symm

theorem leaveString_escape (c : Char) (rest : List Char) :
    leaveString ('\\' :: c :: rest) = leaveString rest := by
  simp [leaveString]

theorem leaveString_doubled (rest : List Char) :
    leaveString ('\x27' :: '\x27' :: rest) = leaveString rest := by
  simp [leaveString]

theorem leaveString_end (apart : rest.head? ≠ some '\x27') :
    leaveString ('\x27' :: rest) = some rest := by
  cases rest with
  | nil => simp [leaveString]
  | cons d behind =>
      have other : d ≠ '\x27' := fun same => apart (congrArg some same)
      simp [leaveString, other]

theorem leaveString_plain (plain : c ≠ '\\') (other : c ≠ '\x27') (rest : List Char) :
    leaveString (c :: rest) = leaveString rest := by
  cases rest <;> simp [leaveString, plain, other]

/-- To leave a literal something of it has to be read. -/
theorem length_lt_of_leaveString (found : leaveString text = some rest) :
    rest.length < text.length := by
  fun_induction leaveString text <;> grind

theorem leaveString_ne_self (following : List Char) :
    leaveString following ≠ some following :=
  fun found => Nat.lt_irrefl _ (length_lt_of_leaveString found)

/-- A text in a literal, from behind the opening quote, and what follows the literal. -/
def inString (text following : List Char) : List Char :=
  Quotation.doubled '\x27' text ++ '\x27' :: following

theorem inString_nil (following : List Char) : inString [] following = '\x27' :: following := rfl

theorem inString_quote (rest following : List Char) :
    inString ('\x27' :: rest) following = '\x27' :: '\x27' :: inString rest following := rfl

theorem inString_cons (other : c ≠ '\x27') (rest following : List Char) :
    inString (c :: rest) following = c :: inString rest following := by
  simp [inString, Quotation.doubled_of_ne other]

/-- Whatever is left over of a literal is longer than what follows it. -/
theorem length_lt_inString (text following : List Char) :
    following.length < (inString text following).length := by
  rw [inString, List.length_append, List.length_cons]
  omega

/-- After one quote too many the literal is not left at its end: a single quote among the others
ends it too early, and where there is none its own quote is taken for the second of two. -/
theorem leaveString_quote_ne (text following : List Char) :
    leaveString ('\x27' :: inString text following) ≠ some following := by
  induction text with
  | nil =>
      rw [inString_nil, leaveString_doubled]
      exact leaveString_ne_self following
  | cons c rest ih =>
      by_cases quote : c = '\x27'
      · rw [quote, inString_quote, leaveString_doubled]
        exact ih
      · have apart : (inString (c :: rest) following).head? ≠ some '\x27' := by
          rw [inString_cons quote]
          exact fun same => quote (Option.some.inj same)
        rw [leaveString_end apart]
        intro same
        exact (length_lt_inString (c :: rest) following).ne'
          (congrArg List.length (Option.some.inj same))

/-- A literal is left at its end exactly if its text spares its quotes; and so is what stands behind
a backslash, of which the first character is escaped. -/
theorem leaveString_inString_iff (apart : following.head? ≠ some '\x27') (text : List Char) :
    (leaveString (inString text following) = some following ↔ Spares false text) ∧
      (leaveString ('\\' :: inString text following) = some following ↔ Spares true text) := by
  -- The two go together: a backslash leads from the first to the second, and the character behind
  -- it leads back, unless it is a quote. Then one quote is missing, and the end is not found again.
  induction text with
  | nil =>
      rw [inString_nil, leaveString_escape, leaveString_end apart, spares_nil, spares_nil]
      exact ⟨by simp, by simp [leaveString_ne_self]⟩
  | cons c rest ih =>
      obtain ⟨plain, escaped⟩ := ih
      rw [spares_cons, spares_cons]
      by_cases quote : c = '\x27'
      · subst quote
        have misread := leaveString_quote_ne rest following
        rw [inString_quote, leaveString_doubled, leaveString_escape, plain]
        exact ⟨by simp [escapesNext], by simp [misread]⟩
      · rw [inString_cons quote, leaveString_escape, plain]
        refine ⟨?_, by simp [quote, escapesNext]⟩
        by_cases slash : c = '\\'
        · subst slash
          simpa [escapesNext] using escaped
        · have still : escapesNext false c = false := by simp [escapesNext, slash]
          rw [leaveString_plain slash quote, plain, still]
          simp [quote]

/-- A literal in front of anything but a quote is left where that starts exactly if the backslashes
in it come in pairs in front of its quotes and at its end. -/
theorem skipString_quoteString_iff (config : DialectConfig)
    (apart : following.head? ≠ some '\x27') (text : String) :
    skipString ((config.quoteString text).toList ++ following) = some following ↔
      IsPaired text.toList := by
  have literal : (config.quoteString text).toList ++ following =
      '\x27' :: inString text.toList following := by
    simp [Quotation.enquote_eq_doubled, inString]
  rw [literal, skipString, if_pos rfl, isPaired_iff]
  exact (leaveString_inString_iff apart text.toList).1

end Backslash

/-- A text stands in another one, and no quote right behind it. -/
def Text.StandsIn (part whole : String) : Prop :=
  ∃ front behind, whole = front ++ part ++ behind ∧ behind.toList.head? ≠ some '\x27'

namespace Text.StandsIn

variable {part middle whole : String}

theorem trans (inner : StandsIn part middle) (outer : StandsIn middle whole) :
    StandsIn part whole := by
  obtain ⟨front, behind, rfl, apart⟩ := inner
  obtain ⟨before, after, rfl, further⟩ := outer
  refine ⟨before ++ front, behind ++ after, by simp only [String.append_assoc], ?_⟩
  rw [String.toList_append, List.head?_append]
  cases next : behind.toList.head? with
  | none => exact further
  | some c =>
      rw [next] at apart
      exact apart

theorem suffix (front part : String) : StandsIn part (front ++ part) :=
  ⟨front, "", by rw [String.append_empty], nofun⟩

theorem refl (part : String) : StandsIn part part :=
  ⟨"", "", by rw [String.empty_append, String.append_empty], nofun⟩

theorem before (part : String) {behind : String} (apart : behind.toList.head? ≠ some '\x27') :
    StandsIn part (part ++ behind) :=
  ⟨"", behind, by rw [String.empty_append], apart⟩

/-- Every part of a list stands in it if the separator does not start with a quote. -/
theorem join (separator : String) {c : Char} (starts : separator.toList.head? = some c)
    (apart : c ≠ '\x27') {parts : List String} (member : part ∈ parts) :
    StandsIn part (Text.join separator parts) := by
  induction parts with
  | nil => cases member
  | cons first rest ih =>
      rcases List.mem_cons.mp member with rfl | later
      · rw [Text.join_cons]
        refine before part ?_
        cases rest with
        | nil => exact nofun
        | cons second others =>
            rw [List.map_cons, String.join_cons, String.append_assoc, String.toList_append,
              List.head?_append, starts]
            exact fun same => apart (Option.some.inj same)
      · obtain ⟨second, others, rfl⟩ := List.exists_cons_of_ne_nil (List.ne_nil_of_mem later)
        rw [Text.join_cons_cons]
        exact (ih later).trans (suffix _ _)

end Text.StandsIn

open Ddl Text

namespace Ddl

variable {part : String}

theorem Piece.standsIn_text {pieces : List Piece} (member : part ∈ Piece.clauses pieces) :
    StandsIn part (Piece.text pieces) :=
  StandsIn.join " " rfl (by decide) member

namespace Target

variable {target : Target} {table : Table} {field : Field}

theorem standsIn_columnPieces_default {operand : String}
    (given : field.defaultOperand? target.config = some operand) :
    StandsIn operand (Piece.text (target.columnPieces table field)) := by
  refine (StandsIn.suffix "DEFAULT " operand).trans (Piece.standsIn_text ?_)
  simp [columnPieces, defaultPieces, given]

theorem standsIn_columnPieces_comment (inline : target.writesComments .inline = true)
    (comment : field.hasComment = true) :
    StandsIn (target.columnCommentText field.comment)
      (Piece.text (target.columnPieces table field)) := by
  refine Piece.standsIn_text ?_
  simp [columnPieces, columnCommentPieces, inline, comment]

/-- The text of a table stands in it with its comment. -/
theorem standsIn_withTableComment (sql : String) :
    StandsIn sql (target.withTableComment table sql) := by
  unfold withTableComment
  split
  · split
    · exact StandsIn.suffix _ sql
    · exact StandsIn.refl sql
  · split
    · rw [String.append_assoc]
      exact StandsIn.before sql (by simp)
    · exact StandsIn.refl sql

theorem standsIn_withTableComment_comment (standard : target.comments = .standard)
    (inline : target.writesComments .inline = true) (comment : table.hasComment = true)
    (sql : String) :
    StandsIn (target.config.quoteString table.comment) (target.withTableComment table sql) := by
  have behind : target.withTableComment table sql =
      sql ++ " COMMENT=" ++ target.config.quoteString table.comment := by
    simp [withTableComment, standard, inline, comment]
  rw [behind]
  exact StandsIn.suffix _ _

/-- What stands in a column stands in the statement of its table. -/
theorem standsIn_tableStatement {elements : List Element} (listed : .column field ∈ elements)
    (column : StandsIn part (Piece.text (target.columnPieces table field))) :
    StandsIn part (target.tableStatement table elements).sql := by
  have line : "\t" ++ Piece.text (target.columnPieces table field) ∈
      (elements.map (target.elementPieces table)).map fun line => "\t" ++ Piece.text line :=
    List.mem_map_of_mem (List.mem_map_of_mem (f := target.elementPieces table) listed)
  refine .trans ?_ (standsIn_withTableComment _)
  have lines := StandsIn.join ",\n" rfl (by decide) line
  refine ((column.trans (StandsIn.suffix "\t" _)).trans lines).trans ?_
  exact (StandsIn.suffix _ _).trans (StandsIn.before _ (by decide))

end Target

theorem standsIn_render (statement : Statement) (config : DialectConfig) :
    StandsIn statement.sql (statement.render config) := by
  rw [Statement.render, String.append_assoc, String.append_assoc]
  exact StandsIn.before statement.sql (by simp)

end Ddl

namespace Diagram

variable {diagram : Diagram} {engine : Engine} {options : Options} {table : Table} {part : String}

/-- What stands in the statement of a table stands in the SQL of its diagram. -/
theorem standsIn_ddl (listed : table ∈ diagram.tables)
    (statement : StandsIn part ((Target.tableStatement ⟨engine.config, engine.comments, options⟩
      table (diagram.tableElements engine.config table)).sql)) :
    StandsIn part (diagram.ddl engine options) := by
  refine (statement.trans (standsIn_render _ engine.config)).trans
    (StandsIn.join "\n\n" rfl (by decide) ?_)
  refine List.mem_map_of_mem (f := (Statement.render · engine.config)) ?_
  refine List.mem_map.mpr ⟨.table table (diagram.tableElements engine.config table), ?_, rfl⟩
  simp only [definitions, List.append_assoc]
  exact List.mem_append_left _ (List.mem_map_of_mem listed)

/-- The texts that the SQL of a diagram has in string literals where comments stand inside of their
tables: the comments of tables and columns, if they are written, and the plain values that are
defaults and do not stand bare. -/
inductive HasLiteral (diagram : Diagram) (config : DialectConfig) (options : Options) :
    String → Prop where
  | tableComment {table : Table} (listed : table ∈ diagram.tables)
    (written : options.includeComments = true) (comment : table.hasComment = true) :
    HasLiteral diagram config options table.comment
  | columnComment {table : Table} {field : Field} (listed : table ∈ diagram.tables)
    (inside : field ∈ table.fields) (written : options.includeComments = true)
    (comment : field.hasComment = true) : HasLiteral diagram config options field.comment
  | plainDefault {table : Table} {field : Field} {value : String}
    (listed : table ∈ diagram.tables) (inside : field ∈ table.fields)
    (counts : field.increment = false) (stored : field.default = some (.literal value))
    (quoted : ¬ Field.IsBare config field.dataType value) : HasLiteral diagram config options value

/-- What stands in a column stands in the SQL of its diagram. -/
theorem standsIn_ddl_of_column {field : Field} (listed : table ∈ diagram.tables)
    (inside : field ∈ table.fields)
    (column : StandsIn part
      (Piece.text (Target.columnPieces ⟨engine.config, engine.comments, options⟩ table field))) :
    StandsIn part (diagram.ddl engine options) := by
  refine standsIn_ddl listed (Target.standsIn_tableStatement ?_ column)
  simp only [tableElements, List.append_assoc]
  exact List.mem_append_left _ (List.mem_map_of_mem inside)

/-- In the SQL for MySQL the literals stand in front of something else than a quote. -/
theorem HasLiteral.standsIn_ddl {text : String}
    (literal : diagram.HasLiteral Dialect.mysql.config options text) :
    StandsIn (Dialect.mysql.config.quoteString text)
      (diagram.ddl Dialect.mysql.engine options) := by
  have inline : options.includeComments = true →
      Target.writesComments ⟨Dialect.mysql.config, .standard, options⟩ .inline = true := by
    intro written
    rw [Target.writesComments, written]
    rfl
  cases literal with
  | tableComment listed written comment =>
      refine Diagram.standsIn_ddl listed ?_
      exact Target.standsIn_withTableComment_comment rfl (inline written) comment _
  | columnComment listed inside written comment =>
      refine standsIn_ddl_of_column listed inside ?_
      exact (StandsIn.suffix "COMMENT " _).trans
        (Target.standsIn_columnPieces_comment (inline written) comment)
  | plainDefault listed inside counts stored quoted =>
      refine standsIn_ddl_of_column listed inside (Target.standsIn_columnPieces_default ?_)
      rw [Field.defaultOperand?, counts, stored]
      exact congrArg some (Field.defaultText_of_not_isBare quoted)

end Diagram

namespace Dialect

open Backslash

/-- The string literal of MySQL for a text is left where it ends exactly if the backslashes of the
text come in pairs in front of quotes and at the end, and so is the one that stands in the SQL of a
diagram with the text for a comment or a default. -/
theorem mysql_string_ends_iff (text : String) :
    (∀ following : List Char, following.head? ≠ some '\x27' →
      (skipString ((mysql.config.quoteString text).toList ++ following) = some following ↔
        IsPaired text.toList)) ∧
    ∀ (diagram : Diagram) (options : Options), diagram.HasLiteral mysql.config options text →
      ∃ front behind, (diagram.ddl mysql.engine options).toList =
          front ++ (mysql.config.quoteString text).toList ++ behind ∧
        (skipString ((mysql.config.quoteString text).toList ++ behind) = some behind ↔
          IsPaired text.toList) := by
  constructor
  · intro following apart
    exact skipString_quoteString_iff mysql.config apart text
  · intro diagram options literal
    obtain ⟨front, behind, split, apart⟩ := literal.standsIn_ddl
    refine ⟨front.toList, behind.toList, ?_, skipString_quoteString_iff mysql.config apart text⟩
    rw [split, String.toList_append, String.toList_append]

/-- Backslashes inside of a text, in the comment of a table, and at the end of one. -/
theorem mysql_string_ends_iff_paths :
    let comment := "it's in C:\\temp"
    let orders : Table := { id := "t", name := "orders", comment }
    let diagram : Diagram := { dialect := .mysql, tables := [orders] }
    diagram.HasLiteral mysql.config {} comment ∧ [';'].head? ≠ some '\x27' ∧
      (∃ front behind, (diagram.ddl mysql.engine {}).toList =
          front ++ (mysql.config.quoteString comment).toList ++ behind ∧
        skipString ((mysql.config.quoteString comment).toList ++ behind) = some behind) ∧
      skipString ((mysql.config.quoteString "C:\\temp\\").toList ++ [';']) ≠ some [';'] := by
  intro comment orders diagram
  have listed : orders ∈ diagram.tables := List.mem_cons_self
  have commented : orders.hasComment = true := by decide
  have literal : diagram.HasLiteral mysql.config {} comment := .tableComment listed rfl commented
  obtain ⟨front, behind, split, ends⟩ := (mysql_string_ends_iff comment).2 diagram {} literal
  refine ⟨literal, by decide, ⟨front, behind, split, ends.mpr (by decide)⟩, ?_⟩
  exact mt ((mysql_string_ends_iff "C:\\temp\\").1 [';'] (by decide)).mp (by decide)

/-- A literal of one backslash does not end, and the comment of a table ends it and its statement
to drop another table. -/
theorem mysql_string_escapes :
    let comment := "\\'; DROP TABLE users; -- "
    let orders : Table := { id := "t", name := "orders", comment }
    let diagram : Diagram := { dialect := .mysql, tables := [orders] }
    skipString (mysql.config.quoteString "\\").toList = none ∧
      diagram.ddl mysql.engine {} =
        "CREATE TABLE \x60orders\x60 (\n\n) COMMENT=" ++ mysql.config.quoteString comment ++ ";" ∧
      skipString ((mysql.config.quoteString comment).toList ++ [';']) =
        some "; DROP TABLE users; -- ';".toList := by
  decide

end Dialect

end EntityDiagram
