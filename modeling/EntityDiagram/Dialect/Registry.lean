import EntityDiagram.Dialect.Builtin

/-!
# The registry of engines

A registry holds engines in the order of their registration and finds them by id or alias. A name
that nobody registered leads to the fallback engine, so that looking up succeeds in every registry
that holds an engine at all.
-/

namespace EntityDiagram

/-- How an engine keeps the comments that its description alone does not place. -/
inductive CommentSyntax where
  /-- `COMMENT` clauses and `COMMENT ON` statements. -/
  | standard
  /-- Comments of the SQL text itself: lines before a table, blocks behind a column. -/
  | sqlText
  /-- Extended properties of the described object. -/
  | extendedProperty
  deriving DecidableEq, Repr

/-- The syntax of comments in a built-in engine. -/
def Dialect.commentSyntax : Dialect → CommentSyntax
  | .sqlite => .sqlText
  | .mssql => .extendedProperty
  | _ => .standard

/-- A registered engine. -/
structure Engine where
  config : DialectConfig
  comments : CommentSyntax
  deriving DecidableEq, Repr

/-- A built-in engine. -/
def Dialect.engine (dialect : Dialect) : Engine := ⟨dialect.config, dialect.commentSyntax⟩

/-- Registered engines, the names that lead to them, and the engine for all other names. -/
structure Registry where
  /-- The engines in the order of their registration. -/
  engines : List Engine := []
  /-- Names with the place of the engine they lead to; the first entry of a name counts. -/
  names : List (String × Nat) := []
  /-- The place of the engine for names that are not listed. -/
  fallback : Nat := 0
  deriving DecidableEq, Repr

namespace Registry

/-- The registry without engines; the first one registered becomes the fallback. -/
def empty : Registry := {}

/-- The form in which a name is looked up. -/
def lookupName (name : String) : String := Text.lower (Text.trim name)

/-- The place to which a stored name leads. -/
def place? (registry : Registry) (stored : String) : Option Nat := registry.names.lookup stored

/-- Put an engine under its id and under further names. An engine that the id already leads to is
replaced and keeps its place. -/
def register (registry : Registry) (engine : Engine) (aliases : List String) : Registry :=
  let id := Text.lower engine.config.id
  let (engines, place) :=
    match registry.place? id with
    | some place => (registry.engines.set place engine, place)
    | none => (registry.engines ++ [engine], registry.engines.length)
  { registry with
    engines
    names := (aliases.map fun name => (Text.lower name, place)).reverse ++
      (id, place) :: registry.names }

/-- The registry of the five built-in engines, with MySQL as the fallback. -/
def builtin : Registry :=
  Dialect.all.foldl (fun registry dialect => registry.register dialect.engine dialect.aliases)
    empty

/-- Whether a name leads to an engine of its own. -/
def contains (registry : Registry) (name : String) : Bool :=
  (registry.place? (lookupName name)).isSome

/-- Make the engine of a name the fallback; `none` if nobody registered the name. -/
def setFallback? (registry : Registry) (name : String) : Option Registry :=
  (registry.place? (lookupName name)).map fun place => { registry with fallback := place }

/-- The engine that a name leads to, or the fallback; `none` if there is no such engine. -/
def find? (registry : Registry) (name : String) : Option Engine :=
  registry.engines[(registry.place? (lookupName name)).getD registry.fallback]?

/-- The description that a name leads to, or that of the fallback. -/
def lookup? (registry : Registry) (name : String) : Option DialectConfig :=
  (registry.find? name).map Engine.config

/-- The ids of the engines in the order of their registration. -/
def ids (registry : Registry) : List String := registry.engines.map fun engine => engine.config.id

theorem setFallback?_isSome (registry : Registry) (name : String) :
    (registry.setFallback? name).isSome = registry.contains name := by
  simp [setFallback?, contains]

theorem length_le_length_register (registry : Registry) (engine : Engine) (aliases : List String) :
    registry.engines.length ≤ (registry.register engine aliases).engines.length := by
  simp only [register]
  cases registry.place? (Text.lower engine.config.id) <;> simp

end Registry

/-- The built-in engine that a name leads to, with MySQL for all other names. -/
def engineNamed (name : String) : Engine :=
  (Registry.builtin.find? name).getD ⟨.mysql, .standard⟩

end EntityDiagram
