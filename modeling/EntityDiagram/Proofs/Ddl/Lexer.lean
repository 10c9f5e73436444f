import EntityDiagram.Ddl.Statement

/-!
# Reading SQL character by character

A lexer that knows how an engine quotes identifiers follows a text through quoted identifiers,
string literals, line comments and block comments, and notes the semicolons it meets outside all
of them. A quote that may be the first half of a doubled one, and a dash or slash that may open a
comment, have modes of their own, so that one character at a time decides everything. The rules are
those that the engines share: that MySQL also reads backslashes in strings as escapes and a `#` as
the start of a comment is left out.
-/

namespace EntityDiagram.Ddl

/-- The quotes around identifiers, which are all that tells one lexer from another. -/
structure Lexer where
  openQuote : Char
  closeQuote : Char
  deriving DecidableEq, Repr

/-- Where a lexer stands in a text. -/
inductive Lexer.Mode where
  /-- Between quotes and comments. -/
  | code
  /-- Behind a dash that may be the first of two. -/
  | dash
  /-- Behind a slash that may open a block comment. -/
  | slash
  /-- In a quoted identifier. -/
  | identifier
  /-- Behind a quote in an identifier: its end, or the first half of a doubled quote. -/
  | identifierQuote
  /-- In a string literal. -/
  | string
  /-- Behind a quote in a string literal: its end, or the first half of a doubled quote. -/
  | stringQuote
  /-- In a comment that the line ends. -/
  | line
  /-- In a block comment. -/
  | block
  /-- Behind a star in a block comment, which a slash would end. -/
  | blockStar
  deriving DecidableEq, Repr

/-- Whether a mode lies in an identifier, a string or a block comment that has yet to end. -/
def Lexer.Mode.isOpen : Mode → Bool
  | identifier | string | block | blockStar => true
  | _ => false

/-- Whether a mode lies outside of everything quoted and of every comment. -/
def Lexer.Mode.isOutside (mode : Mode) : Bool := !mode.isOpen && mode != line

namespace Lexer

variable (lexer : Lexer) {start middle final mode : Mode} {a b text : List Char}

/-- The mode behind a character that continues nothing. -/
def begin (c : Char) : Mode :=
  if c = '\x27' then .string
  else if c = lexer.openQuote then .identifier
  else if c = '-' then .dash
  else if c = '/' then .slash
  else .code

/-- The mode behind one more character. -/
def step : Mode → Char → Mode
  | .code, c => lexer.begin c
  | .dash, c => if c = '-' then .line else lexer.begin c
  | .slash, c => if c = '*' then .block else lexer.begin c
  | .identifier, c => if c = lexer.closeQuote then .identifierQuote else .identifier
  | .identifierQuote, c => if c = lexer.closeQuote then .identifier else lexer.begin c
  | .string, c => if c = '\x27' then .stringQuote else .string
  | .stringQuote, c => if c = '\x27' then .string else lexer.begin c
  | .line, c => if c = '\n' then .code else .line
  | .block, c => if c = '*' then .blockStar else .block
  | .blockStar, c => if c = '/' then .code else if c = '*' then .blockStar else .block

/-- The mode behind a text. -/
def run (start : Mode) (text : List Char) : Mode := text.foldl lexer.step start

/-- The places of the semicolons that a lexer meets outside of everything, where the text starts
at the given place. -/
def semicolons : Mode → Nat → List Char → List Nat
  | _, _, [] => []
  | mode, place, c :: rest =>
    (if mode.isOutside && c == ';' then [place] else []) ++
      semicolons (lexer.step mode c) (place + 1) rest

@[simp] theorem run_nil (mode : Mode) : lexer.run mode [] = mode := rfl

@[simp] theorem run_cons (mode : Mode) (c : Char) (rest : List Char) :
    lexer.run mode (c :: rest) = lexer.run (lexer.step mode c) rest := rfl

theorem run_append (mode : Mode) (a b : List Char) :
    lexer.run mode (a ++ b) = lexer.run (lexer.run mode a) b := by
  simp [run]

theorem semicolons_append (mode : Mode) (place : Nat) (a b : List Char) :
    lexer.semicolons mode place (a ++ b) =
      lexer.semicolons mode place a ++
        lexer.semicolons (lexer.run mode a) (place + a.length) b := by
  induction a generalizing mode place with
  | nil => rfl
  | cons c rest ih =>
      have shift : place + 1 + rest.length = place + (rest.length + 1) := by omega
      simp only [List.cons_append, semicolons, ih, run_cons, List.length_cons, shift,
        List.append_assoc]

/-- Where a text starts does not matter for what is found in it. -/
theorem length_semicolons (mode : Mode) (place : Nat) (text : List Char) :
    (lexer.semicolons mode place text).length = (lexer.semicolons mode 0 text).length := by
  induction text generalizing mode place with
  | nil => rfl
  | cons c rest ih =>
      rw [semicolons, semicolons, List.length_append, List.length_append, ih _ (place + 1),
        ih _ (0 + 1)]
      split <;> rfl

/-- A text that takes the lexer from one mode to another and holds no semicolon that counts. -/
structure Passes (start : Mode) (text : List Char) (final : Mode) : Prop where
  run_eq : lexer.run start text = final
  semicolons_eq : ∀ place, lexer.semicolons start place text = []

namespace Passes

variable {lexer}

theorem nil (mode : Mode) : lexer.Passes mode [] mode := ⟨rfl, fun _ => rfl⟩

theorem append (first : lexer.Passes start a middle) (second : lexer.Passes middle b final) :
    lexer.Passes start (a ++ b) final := by
  constructor
  · rw [run_append, first.run_eq, second.run_eq]
  · intro place
    rw [semicolons_append, first.semicolons_eq, first.run_eq, second.semicolons_eq]
    rfl

theorem single {c : Char} (counted : mode.isOutside = false ∨ c ≠ ';') :
    lexer.Passes mode [c] (lexer.step mode c) := by
  refine ⟨rfl, ?_⟩
  intro place
  rcases counted with inside | other
  · simp [semicolons, inside]
  · simp [semicolons, other]

theorem cons {c : Char} {rest : List Char} (counted : mode.isOutside = false ∨ c ≠ ';')
    (following : lexer.Passes (lexer.step mode c) rest final) :
    lexer.Passes mode (c :: rest) final :=
  (single counted).append following

theorem of_semicolons (none : lexer.semicolons mode 0 text = []) :
    lexer.Passes mode text (lexer.run mode text) := by
  refine ⟨rfl, fun place => List.length_eq_zero_iff.mp ?_⟩
  rw [length_semicolons, none, List.length_nil]

/-- A text all of whose characters leave a mode as it is, and none of which counts there. -/
theorem of_forall (stays : ∀ c ∈ text, lexer.step mode c = mode)
    (counted : mode.isOutside = false ∨ ';' ∉ text) : lexer.Passes mode text mode := by
  induction text with
  | nil => exact nil mode
  | cons c rest ih =>
      have here : mode.isOutside = false ∨ c ≠ ';' :=
        counted.imp_right fun missing same => missing (same ▸ List.mem_cons_self)
      have later : mode.isOutside = false ∨ ';' ∉ rest :=
        counted.imp_right fun missing member => missing (List.mem_cons_of_mem c member)
      refine cons here ?_
      rw [stays c List.mem_cons_self]
      exact ih (fun d member => stays d (List.mem_cons_of_mem c member)) later

end Passes

end Lexer

end EntityDiagram.Ddl
