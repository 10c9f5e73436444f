import EntityDiagram.Proofs.Text.Lowering

/-!
# The grammar of names

What a level accepts can be said without faults. A word has between 1 and 64 characters, all of
them ASCII letters, digits and underscores; it does not start with a digit and holds a letter. Each
level accepts a part of the words that the level below accepts: no reserved words from the standard
level on, and no underscores at the ends or next to each other at the strict one. A name is judged
by the word that is left of it without the blanks around it.
-/

namespace EntityDiagram.Identifier

/-- What a name consists of at any level. -/
structure IsWord (word : String) : Prop where
  nonempty : 1 ≤ word.length
  short : word.length ≤ 64
  chars : ∀ c ∈ word.toList, c.isAlpha = true ∨ c.isDigit = true ∨ c = '_'
  start : ∀ c ∈ word.toList.head?, c.isDigit = false
  letter : ∃ c ∈ word.toList, c.isAlpha = true

/-- A word whose underscores stand one by one between other characters. -/
structure IsTidy (word : String) : Prop where
  start : word.toList.head? ≠ some '_'
  ending : word.toList.getLast? ≠ some '_'
  single : ¬ ['_', '_'] <:+: word.toList

/-- The words that a level accepts. -/
def Level.Accepts : Level → String → Prop
  | minimal, word => IsWord word
  | standard, word => IsWord word ∧ Text.upper word ∉ ReservedWord.all
  | strict, word => (IsWord word ∧ Text.upper word ∉ ReservedWord.all) ∧ IsTidy word

/-- The faults of a word that is reserved. -/
def reservedOnly (word : String) : List NameFault :=
  if Text.upper word ∈ ReservedWord.all then [.reservedKeyword word] else []

variable {name word : String}

/-! ### Faults and the grammar -/

theorem isNameChar_iff {c : Char} :
    isNameChar c = true ↔ c.isAlpha = true ∨ c.isDigit = true ∨ c = '_' := by
  simp only [isNameChar, Char.isAlphanum, Bool.or_eq_true, beq_iff_eq, or_assoc]

theorem formFaults_toList_eq_nil_iff :
    word.toList ≠ [] ∧ formFaults word.toList = [] ↔ IsWord word := by
  have start : word.toList.head?.any Char.isDigit = false ↔
      ∀ c ∈ word.toList.head?, c.isDigit = false := by
    cases word.toList.head? <;> simp
  rw [formFaults_eq_nil_iff, start, String.length_toList, List.any_eq_true,
    ← List.length_pos_iff, String.length_toList]
  simp only [isNameChar_iff]
  exact ⟨fun ⟨nonempty, short, chars, start, letter⟩ => ⟨nonempty, short, chars, start, letter⟩,
    fun word => ⟨word.nonempty, word.short, word.chars, word.start, word.letter⟩⟩

theorem styleFaults_toList_eq_nil_iff : styleFaults word.toList = [] ↔ IsTidy word := by
  rw [styleFaults_eq_nil_iff, ← Bool.not_eq_true, hasDoubleUnderscore_eq_true_iff]
  exact ⟨fun ⟨start, ending, single⟩ => ⟨start, ending, single⟩,
    fun tidy => ⟨tidy.start, tidy.ending, tidy.single⟩⟩

theorem reservedOnly_eq_nil_iff :
    reservedOnly word = [] ↔ Text.upper word ∉ ReservedWord.all := by
  simp [reservedOnly]

/-- Blanks are dropped once more when a trimmed name is compared with the reserved words, which
changes nothing. -/
theorem reservedFaults_trim (name : String) :
    reservedFaults (Text.trim name).toList = reservedOnly (Text.trim name) := by
  rw [reservedFaults, String.ofList_toList, isReserved, Text.trim_trim, reservedOnly,
    List.contains_eq_mem]
  split <;> simp [*]

/-! ### Judgements -/

theorem warnings_standard_of_ne_nil (solid : Text.trimChars name.toList ≠ []) :
    (validate name .standard).warnings = styleFaults (Text.trimChars name.toList) := by
  simp [validate, solid]

/-- The strict level refuses a name for what the standard level warns of. -/
theorem errors_strict (name : String) :
    (validate name .strict).errors =
      (validate name .standard).errors ++ (validate name .standard).warnings := by
  by_cases blank : Text.trimChars name.toList = []
  · simp [validate_of_blank blank]
  · rw [errors_strict_of_ne_nil blank, errors_standard_of_ne_nil blank,
      warnings_standard_of_ne_nil blank]

/-- The standard level refuses a name for one thing more than the lowest level does. -/
theorem errors_standard (name : String) :
    (validate name .standard).errors =
      (validate name .minimal).errors ++ reservedOnly (Text.trim name) := by
  by_cases blank : Text.trimChars name.toList = []
  · have free : reservedOnly (Text.trim name) = [] := by
      rw [Text.trim, blank]
      decide
    rw [validate_of_blank blank, validate_of_blank blank, free, List.append_nil]
  · rw [errors_standard_of_ne_nil blank, errors_minimal_of_ne_nil blank, ← Text.toList_trim,
      reservedFaults_trim]

theorem errors_minimal_eq_nil_iff :
    (validate name .minimal).errors = [] ↔ IsWord (Text.trim name) := by
  rw [← formFaults_toList_eq_nil_iff, Text.toList_trim]
  by_cases blank : Text.trimChars name.toList = []
  · simp [validate_of_blank blank, blank]
  · simp [errors_minimal_of_ne_nil blank, blank]

theorem warnings_standard_eq_nil_iff (accepted : IsWord (Text.trim name)) :
    (validate name .standard).warnings = [] ↔ IsTidy (Text.trim name) := by
  have solid := (formFaults_toList_eq_nil_iff.mpr accepted).1
  rw [Text.toList_trim] at solid
  rw [warnings_standard_of_ne_nil solid, ← Text.toList_trim, styleFaults_toList_eq_nil_iff]

/-- A level finds no error in a name exactly if it accepts the word that is left without the blanks
around it. The errors of each level are those of the level below, followed by what is new: that
the word is reserved, and then what was a warning before. -/
theorem validate_grammar (name : String) :
    (∀ level : Level, (validate name level).errors = [] ↔ level.Accepts (Text.trim name)) ∧
      (validate name .strict).errors =
        (validate name .standard).errors ++ (validate name .standard).warnings ∧
      (validate name .standard).errors = (validate name .minimal).errors ++
        if Text.upper (Text.trim name) ∈ ReservedWord.all
          then [.reservedKeyword (Text.trim name)] else [] := by
  have standard : (validate name .standard).errors = [] ↔
      Level.standard.Accepts (Text.trim name) := by
    rw [errors_standard, List.append_eq_nil_iff, errors_minimal_eq_nil_iff,
      reservedOnly_eq_nil_iff]
    rfl
  refine ⟨fun level => ?_, errors_strict name, errors_standard name⟩
  cases level with
  | minimal => exact errors_minimal_eq_nil_iff
  | standard => exact standard
  | strict =>
      rw [errors_strict, List.append_eq_nil_iff, standard]
      exact and_congr_right fun accepted => warnings_standard_eq_nil_iff accepted.1

end EntityDiagram.Identifier
