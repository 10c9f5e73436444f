import EntityDiagram.Text.Lines

/-!
# Pieces of a definition

What a diagram asks of an engine is answered piece by piece: either by a clause of SQL, or, where
the engine has no such clause, by a caveat that says what was left out. A definition is written as
its clauses in order, followed by its caveats as comments.
-/

namespace EntityDiagram.Ddl

/-- The answer to one request: a clause of SQL, or a remark on a clause left out. -/
inductive Piece where
  | clause (sql : String)
  | caveat (note : String)
  deriving DecidableEq, Repr

namespace Piece

/-- The SQL of a piece that is a clause. -/
def sql? : Piece → Option String
  | clause sql => some sql
  | caveat _ => none

/-- The remark of a piece that is a caveat. -/
def note? : Piece → Option String
  | clause _ => none
  | caveat note => some note

/-- The clauses among some pieces, in order. -/
def clauses (pieces : List Piece) : List String := pieces.filterMap sql?

/-- The caveats among some pieces, in order. -/
def caveats (pieces : List Piece) : List String := pieces.filterMap note?

/-- The clauses among some pieces as one text, with a space between neighbours. -/
def text (pieces : List Piece) : String := Text.join " " (clauses pieces)

/-- A clause, if the condition for it holds. -/
def clauseIf (condition : Bool) (sql : String) : List Piece :=
  if condition then [clause sql] else []

@[simp] theorem clauses_nil : clauses [] = [] := rfl

@[simp] theorem clauses_cons_clause (sql : String) (rest : List Piece) :
    clauses (clause sql :: rest) = sql :: clauses rest := rfl

@[simp] theorem clauses_cons_caveat (note : String) (rest : List Piece) :
    clauses (caveat note :: rest) = clauses rest := rfl

@[simp] theorem clauses_append (a b : List Piece) : clauses (a ++ b) = clauses a ++ clauses b := by
  simp [clauses]

@[simp] theorem caveats_nil : caveats [] = [] := rfl

@[simp] theorem caveats_cons_clause (sql : String) (rest : List Piece) :
    caveats (clause sql :: rest) = caveats rest := rfl

@[simp] theorem caveats_cons_caveat (note : String) (rest : List Piece) :
    caveats (caveat note :: rest) = note :: caveats rest := rfl

@[simp] theorem caveats_append (a b : List Piece) : caveats (a ++ b) = caveats a ++ caveats b := by
  simp [caveats]

@[simp] theorem caveats_clauseIf (condition : Bool) (sql : String) :
    caveats (clauseIf condition sql) = [] := by
  cases condition <;> rfl

@[simp] theorem clauses_clauseIf (condition : Bool) (sql : String) :
    clauses (clauseIf condition sql) = if condition then [sql] else [] := by
  cases condition <;> rfl

end Piece

end EntityDiagram.Ddl
