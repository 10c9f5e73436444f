import EntityDiagram.Ddl.Statement
import EntityDiagram.Proofs.Ddl.Placement

/-!
# Caveats are exact

Some of what a diagram asks for is not understood by every engine: array columns, unsigned columns,
columns that count up, checks, access methods of indexes, and actions of foreign keys. A `Request`
is one such wish, whatever the engine. The SQL of a statement is spelled out as a template in which
every request has its place: if the engine can express it, its clause stands there, and otherwise
the place is left empty and the statement has one caveat for it. Nothing else becomes a caveat.
-/

namespace EntityDiagram

namespace Ddl

/-- What a foreign key may act on. -/
inductive Event where
  | update
  | delete
  deriving DecidableEq, Repr

namespace Event

/-- The word for the event. -/
def word : Event → String
  | update => "UPDATE"
  | delete => "DELETE"

/-- What a foreign key does on the event. -/
def action (key : ForeignKey) : Event → ForeignKeyAction
  | update => key.onUpdate
  | delete => key.onDelete

/-- Whether an engine knows an action on the event. -/
def supports (config : DialectConfig) : Event → ForeignKeyAction → Bool
  | update => config.supportsUpdateAction
  | delete => config.supportsDeleteAction

end Event

/-- Something asked of an engine that not every engine can express. -/
inductive Request where
  /-- A column that holds arrays. -/
  | array (table : Table) (field : Field)
  /-- A column without negative numbers. -/
  | unsigned (table : Table) (field : Field)
  /-- A column that counts up. -/
  | increment (table : Table) (field : Field)
  /-- A condition on a column. -/
  | check (table : Table) (field : Field) (condition : String)
  /-- The access method of an index. -/
  | method (index : IndexDefinition) (name : String)
  /-- What a foreign key does on an event. -/
  | action (key : ForeignKey) (event : Event)
  deriving DecidableEq, Repr

namespace Request

/-- Whether an engine has a clause for the request. -/
def isExpressed (config : DialectConfig) : Request → Bool
  | array _ _ => config.supportsArrays
  | unsigned _ field => config.supportsUnsigned && (config.typeInfo field.dataType).signed
  | increment table field =>
    match config.increment with
    | .keyword _ | .identity _ => true
    | .inlinePrimaryKey _ => (table.inlinePrimaryKey? config).any (·.id == field.id)
  | check _ field _ => (config.typeInfo field.dataType).hasCheck
  | method _ name => config.supportsIndexType name
  | action key event => event.supports config (event.action key)

/-- The clause for the request. -/
def clause (config : DialectConfig) : Request → String
  | array _ _ => "[]"
  | unsigned _ _ => "UNSIGNED"
  | increment _ _ =>
    match config.increment with
    | .keyword sql | .identity sql | .inlinePrimaryKey sql => sql
  | check _ _ condition => "CHECK(" ++ condition ++ ")"
  | method _ name => Text.upper name
  | action key event => "ON " ++ event.word ++ " " ++ (event.action key).sql

/-- The caveat for the request. -/
def caveat (config : DialectConfig) : Request → String
  | array table field =>
    table.name ++ "." ++ field.name ++ " is an array column; " ++ config.name ++
      " has no array types, element type used"
  | unsigned table field =>
    table.name ++ "." ++ field.name ++ ": " ++ config.name ++ " has no UNSIGNED " ++
      field.dataType ++ "; clause omitted"
  | increment table field =>
    table.name ++ "." ++ field.name ++ ": " ++ (increment table field).clause config ++
      " requires a single-column primary key; auto-increment omitted"
  | check table field condition =>
    table.name ++ "." ++ field.name ++ ": " ++ config.name ++ " does not support CHECK on " ++
      field.dataType ++ "; CHECK(" ++ condition ++ ") omitted"
  | method index name =>
    "index " ++ index.name ++ " on " ++ index.table.name ++ ": " ++ config.name ++
      " does not support index type " ++ name ++ "; default used"
  | action key event =>
    key.name ++ ": " ++ config.name ++ " does not support ON " ++ event.word ++ " " ++
      (event.action key).sql ++ "; clause omitted"

/-- The answer to the request: its clause if there is one, else its caveat. -/
def answer (config : DialectConfig) (request : Request) : Piece :=
  if request.isExpressed config then .clause (request.clause config)
  else .caveat (request.caveat config)

theorem answer_singleton (config : DialectConfig) (request : Request) :
    [request.answer config] =
      if request.isExpressed config then [.clause (request.clause config)]
      else [.caveat (request.caveat config)] := by
  unfold answer
  split <;> rfl

/-- The caveats for those of some requests that have no clause. -/
def caveats (config : DialectConfig) (requests : List Request) : List String :=
  (requests.filter fun request => !request.isExpressed config).map (caveat config)

@[simp] theorem caveats_nil (config : DialectConfig) : caveats config [] = [] := rfl

theorem caveats_singleton (config : DialectConfig) (request : Request) :
    caveats config [request] =
      if request.isExpressed config then [] else [request.caveat config] := by
  cases expressed : request.isExpressed config <;> simp [caveats, expressed]

theorem caveats_append (config : DialectConfig) (a b : List Request) :
    caveats config (a ++ b) = caveats config a ++ caveats config b := by
  simp [caveats]

/-- No caveat is left exactly if every request is expressed. -/
theorem caveats_eq_nil_iff {config : DialectConfig} {requests : List Request} :
    caveats config requests = [] ↔
      ∀ request ∈ requests, request.isExpressed config = true := by
  simp [caveats]

/-- A request, if it is made. -/
def ifAsked (asked : Bool) (request : Request) : List Request := if asked then [request] else []

/-- A request made with an optional text, the blanks around it aside; a blank one is none. -/
def ifGiven (given : Option String) (request : String → Request) : List Request :=
  match given with
  | some text => ifAsked (!Text.isAllBlank text) (request (Text.trim text))
  | none => []

theorem ifGiven_eq (given : Option String) (request : String → Request) :
    ifGiven given request = ((Text.nonBlank? given).map request).toList := by
  cases given with
  | none => rfl
  | some text =>
      rw [Text.nonBlank?_some, ifGiven, ifAsked]
      cases Text.isAllBlank text <;> rfl

/-- The condition on a column. -/
def checks (table : Table) (field : Field) : List Request := ifGiven field.check (check table field)

/-- What a column asks for. -/
def ofField (table : Table) (field : Field) : List Request :=
  ifAsked field.isArray (array table field) ++ ifAsked field.unsigned (unsigned table field) ++
    ifAsked field.increment (increment table field) ++ checks table field

/-- What an index asks for. -/
def ofIndex (index : IndexDefinition) : List Request := ifGiven index.index.indexType (method index)

/-- What a foreign key asks for on an event; taking no action is nothing to ask for. -/
def actions (key : ForeignKey) (event : Event) : List Request :=
  ifAsked (event.action key != .noAction) (action key event)

/-- What a foreign key asks for. -/
def ofKey (key : ForeignKey) : List Request := actions key .update ++ actions key .delete

/-- What an element of a table asks for. -/
def ofElement (table : Table) : Element → List Request
  | .column field => ofField table field
  | .primaryKey _ => []
  | .index index => ofIndex index
  | .foreignKey key => ofKey key

/-- What a definition asks for. -/
def ofDefinition : Definition → List Request
  | .table table elements => elements.flatMap (ofElement table)
  | .tableComment _ | .columnComment _ _ => []
  | .index index => ofIndex index
  | .foreignKey key => ofKey key

end Request

/-- A part of a statement: a text that stands there in any case, or the place of a request, with
the word in front of its clause. -/
inductive Segment where
  | text (sql : String)
  | place (word : String) (request : Request)
  deriving DecidableEq, Repr

namespace Segment

/-- What stands in a statement at a segment. The place of a request that the engine cannot express
is empty. -/
def sql (config : DialectConfig) : Segment → String
  | text sql => sql
  | place word request =>
    if request.isExpressed config then word ++ request.clause config else ""

/-- The request whose place it is. -/
def request? : Segment → Option Request
  | text _ => none
  | place _ request => some request

/-- The text of a template. -/
def fill (config : DialectConfig) (template : List Segment) : String :=
  String.join (template.map (sql config))

/-- The requests that have a place in a template, in order. -/
def requests (template : List Segment) : List Request := template.filterMap request?

/-- The places of some requests. -/
def places (word : String) (requests : List Request) : List Segment := requests.map (place word)

@[simp] theorem fill_nil (config : DialectConfig) : fill config [] = "" := rfl

@[simp] theorem fill_cons (config : DialectConfig) (segment : Segment) (rest : List Segment) :
    fill config (segment :: rest) = segment.sql config ++ fill config rest := by
  simp [fill]

@[simp] theorem fill_append (config : DialectConfig) (a b : List Segment) :
    fill config (a ++ b) = fill config a ++ fill config b := by
  simp [fill]

@[simp] theorem requests_append (a b : List Segment) :
    requests (a ++ b) = requests a ++ requests b := by
  simp [requests]

@[simp] theorem requests_text_cons (sql : String) (rest : List Segment) :
    requests (text sql :: rest) = requests rest := rfl

@[simp] theorem requests_place_cons (word : String) (request : Request) (rest : List Segment) :
    requests (place word request :: rest) = request :: requests rest := rfl

@[simp] theorem requests_places (word : String) (asked : List Request) :
    requests (places word asked) = asked := by
  simp [requests, places, List.filterMap_map, Function.comp_def, request?]

@[simp] theorem requests_nil : requests [] = [] := rfl

/-- Templates with a text between neighbours. -/
theorem fill_intercalate (config : DialectConfig) (separator : String)
    (templates : List (List Segment)) :
    fill config ([text separator].intercalate templates) =
      Text.join separator (templates.map (fill config)) := by
  induction templates with
  | nil => simp
  | cons first rest ih =>
      cases rest with
      | nil => simp [Text.join_singleton]
      | cons second rest =>
          rw [List.map_cons, List.map_cons, Text.join_cons_cons, ← List.map_cons, ← ih]
          simp [List.intercalate_cons_cons, sql, String.append_assoc]

theorem requests_intercalate (separator : String) (templates : List (List Segment)) :
    requests ([text separator].intercalate templates) = templates.flatMap requests := by
  induction templates with
  | nil => rfl
  | cons first rest ih =>
      cases rest with
      | nil => simp
      | cons second rest =>
          rw [List.flatMap_cons, ← ih]
          simp [List.intercalate_cons_cons]

end Segment

namespace Target

variable (target : Target)

/-! ### The template of a statement -/

/-- What is said about a column between its type and its check, requests aside. -/
def constraintText (field : Field) : String :=
  (match field.defaultOperand? target.config with
    | some operand => " DEFAULT " ++ operand
    | none => "") ++
    (if field.isRequired then " NOT NULL" else "") ++ if field.unique then " UNIQUE" else ""

/-- Whether a column that counts up says so behind its constraints, not behind its type. -/
def incrementsLate : Bool :=
  match target.config.increment with
  | .keyword _ => true
  | _ => false

/-- A column. -/
def columnTemplate (table : Table) (field : Field) : List Segment :=
  let increment := Segment.places " " (Request.ifAsked field.increment (.increment table field))
  [.text (target.config.quoteIdentifier field.name),
      .text (" " ++ target.config.sqlTypeName field.dataType ++
        field.typeSuffix (target.config.typeInfo field.dataType))] ++
    Segment.places "" (Request.ifAsked field.isArray (.array table field)) ++
    Segment.places " " (Request.ifAsked field.unsigned (.unsigned table field)) ++
    (if target.incrementsLate then [] else increment) ++
    [.text (target.constraintText field)] ++
    (if target.incrementsLate then increment else []) ++
    Segment.places " " (Request.checks table field) ++
    [.text (if target.writesComments .inline && field.hasComment then
      " " ++ target.columnCommentText field.comment else "")]

/-- An index among the elements of its table. -/
def inlineIndexTemplate (index : IndexDefinition) : List Segment :=
  [.text (uniqueWord index ++ "INDEX " ++ target.config.quoteIdentifier index.name ++ " (" ++
      target.config.quotedList index.columns ++ ")")] ++
    Segment.places " USING " (Request.ofIndex index)

/-- An index as a statement of its own. -/
def indexTemplate (index : IndexDefinition) : List Segment :=
  let create := [Segment.text "CREATE", .text (if index.index.unique then " UNIQUE" else "")]
  let name := Segment.text (" INDEX " ++ target.ifNotExists ++
    target.config.quoteIdentifier index.name ++ " ON " ++
    target.config.quoteIdentifier index.table.name)
  let columns := Segment.text (" (" ++ target.config.quotedList index.columns ++ ")")
  match target.config.indexTypePlacement with
  | .modifier => create ++ Segment.places " " (Request.ofIndex index) ++ [name, columns]
  | .usingBeforeColumns =>
    create ++ [name] ++ Segment.places " USING " (Request.ofIndex index) ++ [columns]
  | .usingSuffix => create ++ [name, columns] ++ Segment.places " USING " (Request.ofIndex index)

/-- The action of a foreign key on an event. Taking no action is not a request: it is said where
the engine knows how, and goes without saying elsewhere. -/
def actionTemplate (key : ForeignKey) (event : Event) : List Segment :=
  .text (if event.action key = .noAction then
      actionClause event.word .noAction (event.supports target.config .noAction) else "") ::
    Segment.places " " (Request.actions key event)

/-- A foreign key. -/
def foreignKeyTemplate (key : ForeignKey) : List Segment :=
  let quote := target.config.quoteIdentifier
  [.text ("CONSTRAINT " ++ quote key.name ++ " FOREIGN KEY(" ++ quote key.field.name ++
      ") REFERENCES " ++ quote key.refTable.name ++ "(" ++ quote key.refField.name ++ ")")] ++
    target.actionTemplate key .update ++ target.actionTemplate key .delete

/-- One element of a table. -/
def elementTemplate (table : Table) : Element → List Segment
  | .column field => target.columnTemplate table field
  | .primaryKey columns => [.text ("PRIMARY KEY(" ++ target.config.quotedList columns ++ ")")]
  | .index index => target.inlineIndexTemplate index
  | .foreignKey key => target.foreignKeyTemplate key

/-- The statement of a definition. -/
def template : Definition → List Segment
  | .table table elements =>
    [.text (target.commentBefore table ++ "CREATE TABLE " ++ target.ifNotExists ++
        target.config.quoteIdentifier table.name ++ " (\n")] ++
      [Segment.text ",\n"].intercalate
        (elements.map fun element => .text "\t" :: target.elementTemplate table element) ++
      [.text ("\n)" ++ target.commentBehind table)]
  | .tableComment table => [.text (target.commentStatement table none table.comment).sql]
  | .columnComment table field =>
    [.text (target.commentStatement table (some field.name) field.comment).sql]
  | .index index => target.indexTemplate index
  | .foreignKey key =>
    .text ("ALTER TABLE " ++ target.config.quoteIdentifier key.table.name ++ " ADD ") ::
      target.foreignKeyTemplate key

end Target

/-! ### Pieces fill a template -/

namespace Piece

/-- The clauses among some pieces, with a space in front of each. -/
def spaced (pieces : List Piece) : String := String.join ((clauses pieces).map (" " ++ ·))

@[simp] theorem spaced_nil : spaced [] = "" := rfl

@[simp] theorem spaced_append (a b : List Piece) : spaced (a ++ b) = spaced a ++ spaced b := by
  simp [spaced]

@[simp] theorem spaced_clause_cons (sql : String) (rest : List Piece) :
    spaced (clause sql :: rest) = " " ++ sql ++ spaced rest := by
  simp [spaced]

@[simp] theorem spaced_caveat_cons (note : String) (rest : List Piece) :
    spaced (caveat note :: rest) = spaced rest := rfl

@[simp] theorem spaced_clauseIf (condition : Bool) (sql : String) :
    spaced (clauseIf condition sql) = if condition then " " ++ sql else "" := by
  cases condition <;> simp [clauseIf]

theorem text_clause_cons (sql : String) (rest : List Piece) :
    text (clause sql :: rest) = sql ++ spaced rest := by
  rw [text, spaced, clauses_cons_clause, Text.join_cons]

/-- The pieces fill the template: their clauses stand in its places, and their caveats are those of
its requests that have no clause. -/
structure Fills (config : DialectConfig) (pieces : List Piece) (template : List Segment) :
    Prop where
  sql : spaced pieces = Segment.fill config template
  notes : caveats pieces = Request.caveats config (Segment.requests template)

namespace Fills

variable {config : DialectConfig}

theorem append {a b : List Piece} {first second : List Segment} (ha : Fills config a first)
    (hb : Fills config b second) : Fills config (a ++ b) (first ++ second) where
  sql := by rw [spaced_append, Segment.fill_append, ha.sql, hb.sql]
  notes := by
    rw [caveats_append, Segment.requests_append, Request.caveats_append, ha.notes, hb.notes]

theorem nil : Fills config [] [] := ⟨rfl, rfl⟩

/-- Pieces without caveats are a text. -/
theorem text {pieces : List Piece} {sql : String} (same : spaced pieces = sql)
    (none : caveats pieces = []) : Fills config pieces [.text sql] where
  sql := by simp [same, Segment.sql]
  notes := none

/-- The answers to some requests stand in their places, behind a word that each clause gets. -/
theorem behindWord (config : DialectConfig) (word : String) (requests : List Request) :
    Fills config (Target.behindWord word (requests.map (Request.answer config)))
      (Segment.places (" " ++ word) requests) := by
  induction requests with
  | nil => exact nil
  | cons request rest ih =>
      have first : Fills config (Target.behindWord word [request.answer config])
          [.place (" " ++ word) request] := by
        cases expressed : request.isExpressed config <;> constructor <;>
          simp [Target.behindWord, Request.answer, Request.caveats_singleton, Segment.sql,
            expressed, String.append_assoc]
      exact first.append ih

theorem answers (config : DialectConfig) (requests : List Request) :
    Fills config (requests.map (Request.answer config)) (Segment.places " " requests) := by
  have same : Target.behindWord "" (requests.map (Request.answer config)) =
      requests.map (Request.answer config) := by
    rw [Target.behindWord, List.map_map]
    refine List.map_congr_left fun request _ => ?_
    simp only [Function.comp_apply, Request.answer]
    split <;> simp_all
  have filled := behindWord config "" requests
  rwa [same] at filled

end Fills

end Piece

namespace Piece

/-- The pieces are the whole of what the template says, their first clause at its beginning. -/
structure Spells (config : DialectConfig) (pieces : List Piece) (template : List Segment) :
    Prop where
  sql : text pieces = Segment.fill config template
  notes : caveats pieces = Request.caveats config (Segment.requests template)

theorem Fills.behind {config : DialectConfig} {pieces : List Piece} {template : List Segment}
    (filled : Fills config pieces template) (first : String) :
    Spells config (clause first :: pieces) (.text first :: template) where
  sql := by rw [text_clause_cons, filled.sql, Segment.fill_cons, Segment.sql]
  notes := filled.notes

end Piece

namespace Target

open Piece (Fills Spells)

variable (target : Target) {table : Table} {field : Field}

/-! ### Requests are answered in their places -/

theorem fills_array (table : Table) (field : Field) :
    Fills target.config ([.clause (field.sqlType target.config)] ++ target.arrayPieces table field)
      ([.text (" " ++ target.config.sqlTypeName field.dataType ++
          field.typeSuffix (target.config.typeInfo field.dataType))] ++
        Segment.places "" (Request.ifAsked field.isArray (.array table field))) := by
  have expressed : (Request.array table field).isExpressed target.config =
      target.config.supportsArrays := rfl
  constructor <;> cases asked : field.isArray <;> cases known : target.config.supportsArrays <;>
    simp [arrayPieces, Field.sqlType, Request.ifAsked, Segment.places, Segment.sql, expressed,
      Request.clause, Request.caveats_singleton, Request.caveat, asked, known,
      String.append_assoc]

theorem unsignedPieces_eq (table : Table) (field : Field) :
    target.unsignedPieces table field =
      (Request.ifAsked field.unsigned (.unsigned table field)).map
        (Request.answer target.config) := by
  unfold unsignedPieces Request.ifAsked
  split
  · rw [List.map_singleton, Request.answer_singleton]
    rfl
  · rfl

theorem identityPieces_eq (table : Table) (field : Field) :
    target.identityPieces table field =
      if target.incrementsLate then []
      else (Request.ifAsked field.increment (.increment table field)).map
        (Request.answer target.config) := by
  unfold identityPieces incrementsLate Request.ifAsked
  cases field.increment with
  | false => cases target.config.increment <;> rfl
  | true =>
      cases strategy : target.config.increment with
      | keyword sql => rfl
      | identity sql => simp [Request.answer, Request.isExpressed, Request.clause, strategy]
      | inlinePrimaryKey sql =>
          simp only [if_true, Bool.false_eq_true, if_false, List.map_singleton, Request.answer,
            Request.isExpressed, Request.clause, Request.caveat, strategy]
          split <;> rfl

theorem incrementPieces_eq (table : Table) (field : Field) :
    target.incrementPieces field =
      if target.incrementsLate then
        (Request.ifAsked field.increment (.increment table field)).map
          (Request.answer target.config)
      else [] := by
  unfold incrementPieces incrementsLate Request.ifAsked Piece.clauseIf
  cases strategy : target.config.increment <;> cases field.increment <;>
    simp [Request.answer, Request.isExpressed, Request.clause, strategy]

theorem checkPieces_eq (table : Table) (field : Field) :
    target.checkPieces table field =
      (Request.checks table field).map (Request.answer target.config) := by
  rw [checkPieces, Request.checks, Request.ifGiven_eq]
  cases Text.nonBlank? field.check with
  | none => rfl
  | some condition =>
      rw [Option.map_some, Option.toList_some, List.map_singleton, Request.answer_singleton]
      rfl

theorem methodPieces_eq (index : IndexDefinition) :
    target.methodPieces index =
      (Request.ofIndex index).map (Request.answer target.config) := by
  rw [methodPieces, Request.ofIndex, Request.ifGiven_eq]
  cases Text.nonBlank? index.index.indexType with
  | none => rfl
  | some name =>
      rw [Option.map_some, Option.toList_some, List.map_singleton, Request.answer_singleton]
      rfl

theorem fills_constraints (field : Field) :
    Fills target.config
      (target.defaultPieces field ++ Piece.clauseIf field.isRequired "NOT NULL" ++
        Piece.clauseIf field.unique "UNIQUE") [.text (target.constraintText field)] := by
  have default : " DEFAULT " = " " ++ "DEFAULT " := rfl
  have notNull : " NOT NULL" = " " ++ "NOT NULL" := rfl
  have unique : " UNIQUE" = " " ++ "UNIQUE" := rfl
  refine Fills.text ?_ ?_
  · unfold defaultPieces constraintText
    cases field.defaultOperand? target.config <;>
      simp only [Piece.spaced_append, Piece.spaced_clause_cons, Piece.spaced_clauseIf,
        Piece.spaced_nil, default, notNull, unique, String.append_assoc, String.append_empty,
        String.empty_append]
  · unfold defaultPieces
    cases field.defaultOperand? target.config <;> simp

theorem fills_columnComment (field : Field) :
    Fills target.config (target.columnCommentPieces field)
      [.text (if target.writesComments .inline && field.hasComment then
        " " ++ target.columnCommentText field.comment else "")] :=
  Fills.text (by simp [columnCommentPieces]) (by simp [columnCommentPieces])

theorem spells_column (table : Table) (field : Field) :
    Spells target.config (target.columnPieces table field)
      (target.columnTemplate table field) := by
  have unsigned := Fills.answers target.config
    (Request.ifAsked field.unsigned (.unsigned table field))
  have check := Fills.answers target.config (Request.checks table field)
  have increment := Fills.answers target.config
    (Request.ifAsked field.increment (.increment table field))
  rw [← unsignedPieces_eq] at unsigned
  rw [← checkPieces_eq] at check
  have identity : Fills target.config (target.identityPieces table field)
      (if target.incrementsLate then [] else
        Segment.places " " (Request.ifAsked field.increment (.increment table field))) := by
    rw [identityPieces_eq]
    cases target.incrementsLate
    · exact increment
    · exact .nil
  have late : Fills target.config (target.incrementPieces field)
      (if target.incrementsLate then
        Segment.places " " (Request.ifAsked field.increment (.increment table field))
      else []) := by
    rw [incrementPieces_eq target table]
    cases target.incrementsLate
    · exact .nil
    · exact increment
  have all := (((((target.fills_array table field).append unsigned).append identity).append
    (target.fills_constraints field)).append late).append check |>.append
    (target.fills_columnComment field) |>.behind (target.config.quoteIdentifier field.name)
  simpa [columnPieces, columnTemplate, List.append_assoc] using all

theorem fills_using (index : IndexDefinition) :
    Fills target.config (behindWord "USING " (target.methodPieces index))
      (Segment.places " USING " (Request.ofIndex index)) := by
  rw [methodPieces_eq]
  exact Fills.behindWord target.config "USING " _

theorem spells_inlineIndex (index : IndexDefinition) :
    Spells target.config (target.inlineIndexPieces index) (target.inlineIndexTemplate index) := by
  have word : "UNIQUE " = "UNIQUE" ++ " " := rfl
  have method := target.fills_using index
  unfold inlineIndexPieces inlineIndexTemplate uniqueWord
  generalize target.config.quoteIdentifier index.name = name
  generalize target.config.quotedList index.columns = columns
  cases index.index.unique with
  | false => exact method.behind _
  | true =>
      have named : Fills target.config [.clause ("INDEX " ++ name ++ " (" ++ columns ++ ")")] _ :=
        .text rfl rfl
      have both := (named.append method).behind "UNIQUE"
      refine ⟨both.sql.trans ?_, both.notes⟩
      simp only [List.cons_append, List.nil_append, Segment.fill_cons, Segment.sql, if_true,
        Piece.spaced_clause_cons, Piece.spaced_nil, word, String.append_assoc,
        String.append_empty]

theorem spells_index (index : IndexDefinition) :
    Spells target.config (target.indexPieces index) (target.indexTemplate index) := by
  have before : " INDEX " = " " ++ "INDEX " := rfl
  have parenthesis : " (" = " " ++ "(" := rfl
  have method := Fills.answers target.config (Request.ofIndex index)
  have using' := target.fills_using index
  rw [← methodPieces_eq] at method
  unfold indexPieces indexTemplate
  generalize target.config.quoteIdentifier index.name = name
  generalize target.config.quoteIdentifier index.table.name = table
  generalize target.config.quotedList index.columns = columns
  have unique : Fills target.config (Piece.clauseIf index.index.unique "UNIQUE")
      [.text (if index.index.unique then " UNIQUE" else "")] := .text (by simp) (by simp)
  have named : Fills target.config
      [.clause ("INDEX " ++ target.ifNotExists ++ name ++ " ON " ++ table)]
      [.text (" INDEX " ++ target.ifNotExists ++ name ++ " ON " ++ table)] := by
    refine .text ?_ rfl
    simp only [Piece.spaced_clause_cons, Piece.spaced_nil, before, String.append_assoc,
      String.append_empty]
  have listed : Fills target.config [.clause ("(" ++ columns ++ ")")]
      [.text (" (" ++ columns ++ ")")] := by
    refine .text ?_ rfl
    simp only [Piece.spaced_clause_cons, Piece.spaced_nil, parenthesis, String.append_assoc,
      String.append_empty]
  cases target.config.indexTypePlacement with
  | modifier =>
      exact (unique.append (method.append (named.append listed))).behind "CREATE"
  | usingBeforeColumns =>
      exact (unique.append (named.append (using'.append listed))).behind "CREATE"
  | usingSuffix =>
      exact (unique.append (named.append (listed.append using'))).behind "CREATE"

theorem fills_action (key : ForeignKey) (event : Event) :
    Fills target.config
      (target.actionPieces key event.word (event.action key)
        (event.supports target.config (event.action key)))
      (target.actionTemplate key event) := by
  have on : " ON " = " " ++ "ON " := rfl
  unfold actionTemplate Request.actions
  by_cases none : event.action key = .noAction
  · simp only [none, bne_self_eq_false, Request.ifAsked, Bool.false_eq_true, if_false, if_true]
    refine Fills.text ?_ ?_
    · rw [Piece.spaced, clauses_actionPieces, actionClause]
      cases event.supports target.config .noAction with
      | false => rfl
      | true =>
          simp only [if_true, List.map_singleton, String.join_cons, String.join_nil, on,
            String.append_assoc, String.append_empty]
    · rw [actionPieces]
      split <;> rfl
  · have answered : target.actionPieces key event.word (event.action key)
        (event.supports target.config (event.action key)) =
          [Request.answer target.config (.action key event)] := by
      rw [actionPieces, if_neg none, Request.answer_singleton]
      rfl
    have asked : (event.action key != .noAction) = true := by simpa using none
    have empty : Fills target.config [] [.text ""] := .text rfl rfl
    rw [answered, if_neg none, Request.ifAsked, if_pos asked]
    exact empty.append (Fills.answers target.config [.action key event])

theorem spells_foreignKey (key : ForeignKey) :
    Spells target.config (target.foreignKeyPieces key) (target.foreignKeyTemplate key) :=
  ((target.fills_action key .update).append (target.fills_action key .delete)).behind _

/-- The pieces of an element spell out its template. -/
theorem spells_element (table : Table) (element : Element) :
    Spells target.config (target.elementPieces table element)
      (target.elementTemplate table element) := by
  cases element with
  | column field => exact target.spells_column table field
  | primaryKey columns => exact Fills.nil.behind _
  | index index => exact target.spells_inlineIndex index
  | foreignKey key => exact target.spells_foreignKey key

/-! ### Every request has its place -/

theorem requests_columnTemplate (table : Table) (field : Field) :
    Segment.requests (target.columnTemplate table field) = Request.ofField table field := by
  unfold columnTemplate Request.ofField
  cases target.incrementsLate <;> simp

theorem requests_indexTemplate (index : IndexDefinition) :
    Segment.requests (target.indexTemplate index) = Request.ofIndex index := by
  unfold indexTemplate
  cases target.config.indexTypePlacement <;> simp

theorem requests_foreignKeyTemplate (key : ForeignKey) :
    Segment.requests (target.foreignKeyTemplate key) = Request.ofKey key := by
  simp [foreignKeyTemplate, actionTemplate, Request.ofKey]

theorem requests_elementTemplate (table : Table) (element : Element) :
    Segment.requests (target.elementTemplate table element) =
      Request.ofElement table element := by
  cases element with
  | column field => exact target.requests_columnTemplate table field
  | primaryKey columns => rfl
  | index index => simp [elementTemplate, inlineIndexTemplate, Request.ofElement]
  | foreignKey key => exact target.requests_foreignKeyTemplate key

/-- The requests that have a place in a statement are those of its definition. -/
theorem requests_template (definition : Definition) :
    Segment.requests (target.template definition) = Request.ofDefinition definition := by
  cases definition with
  | table table elements =>
      simp [template, Request.ofDefinition, Segment.requests_intercalate, List.flatMap_map,
        requests_elementTemplate]
  | tableComment table => rfl
  | columnComment table field => rfl
  | index index => exact target.requests_indexTemplate index
  | foreignKey key => exact target.requests_foreignKeyTemplate key

/-! ### Statements -/

/-- The SQL of a statement is what its template says. -/
theorem sql_statement (definition : Definition) :
    (target.statement definition).sql =
      Segment.fill target.config (target.template definition) := by
  cases definition with
  | table table elements =>
      have lines : (elements.map (target.elementPieces table)).map
            (fun line => "\t" ++ Piece.text line) =
          (elements.map fun element => .text "\t" :: target.elementTemplate table element).map
            (Segment.fill target.config) := by
        rw [List.map_map, List.map_map]
        refine List.map_congr_left fun element _ => ?_
        rw [Function.comp_apply, Function.comp_apply, (target.spells_element table element).sql,
          Segment.fill_cons, Segment.sql]
      simp only [statement, tableStatement, template, withTableComment_eq, lines,
        Segment.fill_append, Segment.fill_intercalate, Segment.fill_cons, Segment.fill_nil,
        Segment.sql, String.append_assoc, String.append_empty]
  | tableComment table => simp [statement, template, Segment.sql]
  | columnComment table field => simp [statement, template, Segment.sql]
  | index index => exact (target.spells_index index).sql
  | foreignKey key =>
      rw [statement, template, Segment.fill_cons, Segment.sql, (target.spells_foreignKey key).sql]

theorem notes_commentStatement (table : Table) (column : Option String) (comment : String) :
    (target.commentStatement table column comment).notes = [] := by
  unfold commentStatement
  cases target.comments <;> rfl

/-- The notes of a statement are the caveats for those of its requests that have no clause. -/
theorem notes_statement (definition : Definition) :
    (target.statement definition).notes =
      Request.caveats target.config (Request.ofDefinition definition) := by
  cases definition with
  | table table elements =>
      rw [statement, tableStatement, Request.ofDefinition, List.flatMap_map]
      dsimp only
      induction elements with
      | nil => rfl
      | cons element rest ih =>
          rw [List.flatMap_cons, List.flatMap_cons, Request.caveats_append, ih,
            (target.spells_element table element).notes, requests_elementTemplate]
  | tableComment table => exact target.notes_commentStatement table none table.comment
  | columnComment table field =>
      exact target.notes_commentStatement table (some field.name) field.comment
  | index index =>
      rw [← requests_template]
      exact (target.spells_index index).notes
  | foreignKey key =>
      rw [← requests_template]
      exact (target.spells_foreignKey key).notes

end Target

end Ddl

open Ddl

namespace Diagram

/-- What a diagram asks for: what its columns do, its indexes that have a column, and its
relationships that have both sides. -/
def requests (diagram : Diagram) : List Request :=
  (diagram.tables.flatMap fun table => table.fields.flatMap (Request.ofField table)) ++
    (diagram.tables.flatMap Table.indexDefinitions).flatMap Request.ofIndex ++
    (diagram.relationships.filterMap diagram.foreignKey?).flatMap Request.ofKey

variable {diagram : Diagram}

/-- Every foreign key has a place, and none is made up, also where tables share an id. -/
theorem mem_allKeys_iff {config : DialectConfig} {key : ForeignKey} :
    key ∈ (diagram.placement config).allKeys diagram.tables ↔
      key ∈ diagram.relationships.filterMap diagram.foreignKey? := by
  simp only [Placement.allKeys, placement]
  cases config.foreignKeys with
  | alterTable => simp
  | inline =>
      simp only [List.append_nil, List.mem_flatMap, foreignKeysFrom, List.mem_filterMap,
        List.mem_filter]
      constructor
      · rintro ⟨table, _, relationship, ⟨member, _⟩, defined⟩
        exact ⟨relationship, member, defined⟩
      · rintro ⟨relationship, member, defined⟩
        obtain ⟨found, id⟩ := id_of_foreignKey? defined
        exact ⟨key.table, Keyed.mem_of_find?_eq_some found, relationship,
          ⟨member, by simp [id]⟩, defined⟩

theorem requests_tableElements (diagram : Diagram) (config : DialectConfig) (table : Table) :
    (diagram.tableElements config table).flatMap (Request.ofElement table) =
      table.fields.flatMap (Request.ofField table) ++
        ((diagram.placement config).indexesIn table).flatMap Request.ofIndex ++
        ((diagram.placement config).keysIn table).flatMap Request.ofKey := by
  have key : (table.primaryKeyElements config).flatMap (Request.ofElement table) = [] := by
    unfold Table.primaryKeyElements
    split <;> rfl
  simp only [tableElements, placement, List.flatMap_append, key]
  cases config.inlineIndexes <;> cases config.foreignKeys <;>
    simp [List.flatMap_map, Request.ofElement]

/-- Whatever the engine puts in which statement, the requests of the statements are those of the
diagram. -/
theorem mem_requests_iff (diagram : Diagram) (config : DialectConfig) (options : Options)
    (request : Request) :
    request ∈ (diagram.definitions config options).flatMap Request.ofDefinition ↔
      request ∈ diagram.requests := by
  have laidOut : (diagram.definitions config options).flatMap Request.ofDefinition =
      diagram.tables.flatMap (fun table =>
        (diagram.tableElements config table).flatMap (Request.ofElement table)) ++
        (diagram.placement config).indexes.flatMap Request.ofIndex ++
        (diagram.placement config).keys.flatMap Request.ofKey := by
    have comments : ∀ commented : Bool,
        (if commented then diagram.tables.flatMap Table.commentDefinitions
          else []).flatMap Request.ofDefinition = [] := by
      intro commented
      cases commented with
      | false => rfl
      | true =>
          rw [if_pos rfl, List.flatMap_eq_nil_iff]
          intro definition member
          obtain ⟨table, _, member⟩ := List.mem_flatMap.mp member
          rcases List.mem_append.mp member with ofTable | ofColumn
          · split at ofTable
            · rw [List.mem_singleton.mp ofTable, Request.ofDefinition]
            · cases ofTable
          · obtain ⟨field, _, rfl⟩ := List.mem_map.mp ofColumn
            rfl
    simp only [definitions, List.flatMap_append, comments, placement]
    cases config.inlineIndexes <;> cases config.foreignKeys <;>
      simp [List.flatMap_map, Request.ofDefinition]
  have elements : (diagram.tables.flatMap fun table =>
        (diagram.tableElements config table).flatMap (Request.ofElement table)).Perm
      ((diagram.tables.flatMap fun table => table.fields.flatMap (Request.ofField table)) ++
        (diagram.tables.flatMap (diagram.placement config).indexesIn).flatMap Request.ofIndex ++
        (diagram.tables.flatMap (diagram.placement config).keysIn).flatMap Request.ofKey) := by
    simp only [requests_tableElements, List.flatMap_assoc]
    refine .trans (List.flatMap_append_perm _ _ _).symm (.append_right _ ?_)
    exact (List.flatMap_append_perm _ _ _).symm
  have indexes : (diagram.tables.flatMap Table.indexDefinitions).flatMap Request.ofIndex =
      (diagram.tables.flatMap (diagram.placement config).indexesIn).flatMap Request.ofIndex ++
        (diagram.placement config).indexes.flatMap Request.ofIndex := by
    rw [← diagram.allIndexes_placement config, Placement.allIndexes, List.flatMap_append]
  have keys :
      request ∈ (diagram.relationships.filterMap diagram.foreignKey?).flatMap Request.ofKey ↔
      request ∈ (diagram.tables.flatMap (diagram.placement config).keysIn).flatMap Request.ofKey ++
        (diagram.placement config).keys.flatMap Request.ofKey := by
    rw [← List.flatMap_append, ← Placement.allKeys]
    simp only [List.mem_flatMap, mem_allKeys_iff]
  rw [laidOut, requests, indexes]
  simp only [List.mem_append] at keys ⊢
  rw [elements.mem_iff, keys]
  simp only [List.mem_append]
  tauto

/-- Every statement of a diagram, for whichever engine it is written, says exactly what its template
says: in the place of each request of its definition stands its clause if the engine has one, and
nothing if it has none; the notes are the caveats for the latter, one for each, and there are no
other notes, so there is none if and only if the engine has a clause for every request. The requests
of all statements together are those of the columns, of the indexes that have a column and of the
relationships that have both sides. -/
theorem caveats_exact (diagram : Diagram) (target : Target) :
    List.Forall₂
      (fun definition statement =>
        statement.sql = Segment.fill target.config (target.template definition) ∧
        Segment.requests (target.template definition) = Request.ofDefinition definition ∧
        statement.notes = Request.caveats target.config (Request.ofDefinition definition) ∧
        (statement.notes = [] ↔
          ∀ request ∈ Request.ofDefinition definition,
            request.isExpressed target.config = true))
      (diagram.definitions target.config target.options) (diagram.statementsFor target) ∧
    ∀ request,
      request ∈ (diagram.definitions target.config target.options).flatMap Request.ofDefinition ↔
        request ∈ diagram.requests := by
  refine ⟨?_, diagram.mem_requests_iff target.config target.options⟩
  rw [statementsFor, List.forall₂_map_right_iff, List.forall₂_same]
  intro definition _
  refine ⟨target.sql_statement definition, target.requests_template definition,
    target.notes_statement definition, ?_⟩
  rw [target.notes_statement definition]
  exact Request.caveats_eq_nil_iff

/-- Six requests on one column, its index and its foreign key: Oracle counts up, has the check and
the action on deletions, and says in three statements that it has none of the others. -/
example :
    let tags : Field := {
      id := "f", name := "tags", dataType := "INT", isArray := true, unsigned := true
      increment := true, check := some " tags > 0 " }
    let posts : Table := {
      id := "t", name := "posts", fields := [tags]
      indexes := [{ id := "i", name := some "by", fields := ["tags"], indexType := some "gin" }] }
    let key := { Relationship.between "r" ⟨"t", "f"⟩ ⟨"t", "f"⟩ with
      updateConstraint := .cascade, deleteConstraint := .setNull }
    let diagram : Diagram := { tables := [posts], relationships := [key] }
    (diagram.statementsFor (Dialect.oracle.target {})).map (fun s => (s.sql, s.notes)) =
      [("CREATE TABLE \"posts\" (\n\t\"tags\" NUMBER(10) GENERATED BY DEFAULT AS IDENTITY " ++
          "NOT NULL CHECK(tags > 0)\n)",
        ["posts.tags is an array column; Oracle has no array types, element type used",
          "posts.tags: Oracle has no UNSIGNED INT; clause omitted"]),
        ("CREATE INDEX \"by\" ON \"posts\" (\"tags\")",
          ["index by on posts: Oracle does not support index type gin; default used"]),
        ("ALTER TABLE \"posts\" ADD CONSTRAINT \"fk_posts_tags_posts\" FOREIGN KEY(\"tags\") " ++
            "REFERENCES \"posts\"(\"tags\") ON DELETE SET NULL",
          ["fk_posts_tags_posts: Oracle does not support ON UPDATE CASCADE; clause omitted"])] := by
  decide +kernel

end Diagram

end EntityDiagram
