/-!
# Lines of a text

A line ends with a line feed or with a carriage return and a line feed; the end of the text ends
the last line, and no empty line follows a final line feed. A carriage return anywhere else is an
ordinary character.
-/

namespace EntityDiagram.Text

/-- A reversed line without the carriage return that was its last character. -/
def dropReturn : List Char → List Char
  | '\r' :: rest => rest
  | line => line

/-- The lines of a list of characters, where `pending` holds the current line so far, reversed. -/
def linesFrom : (pending : List Char) → List Char → List (List Char)
  | [], [] => []
  | pending, [] => [pending.reverse]
  | pending, '\n' :: rest => (dropReturn pending).reverse :: linesFrom [] rest
  | pending, c :: rest => linesFrom (c :: pending) rest

/-- The lines of a text, without their ends. -/
def lines (s : String) : List String := (linesFrom [] s.toList).map String.ofList

/-- Texts joined by a separator between neighbours. -/
def join (separator : String) (parts : List String) : String := separator.intercalate parts

@[simp] theorem join_nil (separator : String) : join separator [] = "" := by
  simp [join]

theorem join_singleton (separator part : String) : join separator [part] = part :=
  String.intercalate_singleton

theorem join_cons_cons (separator first second : String) (rest : List String) :
    join separator (first :: second :: rest) =
      first ++ separator ++ join separator (second :: rest) :=
  String.intercalate_cons_cons

theorem join_cons (separator first : String) (rest : List String) :
    join separator (first :: rest) = first ++ String.join (rest.map (separator ++ ·)) := by
  induction rest generalizing first with
  | nil => simp [join_singleton]
  | cons next rest ih => simp [join_cons_cons, ih, String.append_assoc]

end EntityDiagram.Text
