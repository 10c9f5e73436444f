import EntityDiagram.Ddl.Column
import EntityDiagram.Proofs.Dialect.Quotation
import EntityDiagram.Proofs.Identifier.Portable

/-!
# Plain values as defaults

A plain value keeps its text when it becomes the default of a column. It stands bare, without the
blanks around it, exactly if the engine lists the type of the column as one without quotes and the
text is a decimal number; otherwise it stands in a string literal that reads back as the very text.
The four tests by which a number is recognised are shown to be a grammar of decimal numbers.
-/

namespace EntityDiagram

/-- A decimal number without a sign: digits, or digits on one side of a dot at least. -/
inductive IsUnsignedDecimal : List Char → Prop where
  | whole {digits : List Char} (nonempty : digits ≠ []) (digit : ∀ c ∈ digits, c.isDigit = true) :
    IsUnsignedDecimal digits
  | pointed {whole fraction : List Char} (nonempty : whole ++ fraction ≠ [])
    (digit : ∀ c ∈ whole ++ fraction, c.isDigit = true) :
    IsUnsignedDecimal (whole ++ '.' :: fraction)

/-- A decimal number with a sign or without one. -/
inductive IsDecimal : List Char → Prop where
  | unsigned {number : List Char} (magnitude : IsUnsignedDecimal number) : IsDecimal number
  | signed {sign : Char} {number : List Char} (known : sign = '+' ∨ sign = '-')
    (magnitude : IsUnsignedDecimal number) : IsDecimal (sign :: number)

variable {cs : List Char} {c : Char} {config : DialectConfig} {dataType value : String}

private theorem count_dot_of_isDigit (digit : ∀ c ∈ cs, c.isDigit = true) : cs.count '.' = 0 :=
  List.count_eq_zero.mpr fun member => absurd (digit '.' member) (by decide)

/-- The tests on a number without its sign accept the numbers and nothing else. -/
theorem isUnsignedDecimal_iff :
    IsUnsignedDecimal cs ↔
      cs.count '.' ≤ 1 ∧ (∀ c ∈ cs, c.isDigit = true ∨ c = '.') ∧ ∃ c ∈ cs, c.isDigit = true := by
  constructor
  · rintro (⟨nonempty, digit⟩ | ⟨nonempty, digit⟩)
    · obtain ⟨c, member⟩ := List.exists_mem_of_ne_nil _ nonempty
      have none := count_dot_of_isDigit digit
      exact ⟨by omega, fun c member => .inl (digit c member), c, member, digit c member⟩
    · rename_i whole fraction
      obtain ⟨c, member⟩ := List.exists_mem_of_ne_nil _ nonempty
      have none := count_dot_of_isDigit digit
      rw [List.count_append] at none
      have within : ∀ c, c ∈ whole ++ '.' :: fraction ↔ c = '.' ∨ c ∈ whole ++ fraction := by
        intro c
        simp [or_left_comm]
      refine ⟨?_, fun c member => ?_, c, (within c).mpr (.inr member), digit c member⟩
      · rw [List.count_append, List.count_cons_self]
        omega
      · exact ((within c).mp member).symm.imp_left (digit c)
  · rintro ⟨few, allowed, c, member, digit⟩
    by_cases dotted : '.' ∈ cs
    -- The first dot is the only one, so that there are digits alone before and behind it.
    · obtain ⟨whole, fraction, rfl, clear⟩ := List.eq_append_cons_of_mem dotted
      have single : '.' ∉ fraction := by
        rw [← List.count_eq_zero]
        rw [List.count_append, List.count_cons_self] at few
        omega
      have digits : ∀ c ∈ whole ++ fraction, c.isDigit = true := by
        intro c member
        refine (allowed c ?_).resolve_right ?_
        · simp only [List.mem_append, List.mem_cons] at member ⊢
          exact member.imp_right .inr
        · rintro rfl
          exact (List.mem_append.mp member).elim clear single
      refine .pointed ?_ digits
      rintro empty
      obtain ⟨rfl, rfl⟩ := List.append_eq_nil_iff.mp empty
      rw [List.nil_append, List.mem_singleton] at member
      subst member
      exact absurd digit (by decide)
    · exact .whole (List.ne_nil_of_mem member) fun c member =>
        (allowed c member).resolve_right fun same => dotted (same ▸ member)

theorem not_isUnsignedDecimal_sign {sign : Char} (signed : sign = '+' ∨ sign = '-')
    (number : List Char) : ¬ IsUnsignedDecimal (sign :: number) := by
  intro unsigned
  have first := (isUnsignedDecimal_iff.mp unsigned).2.1 sign List.mem_cons_self
  rcases signed with rfl | rfl <;> exact absurd first (by decide)

theorem isDecimal_sign_iff {sign : Char} (signed : sign = '+' ∨ sign = '-') {number : List Char} :
    IsDecimal (sign :: number) ↔ IsUnsignedDecimal number := by
  constructor
  · rintro (unsigned | ⟨_, unsigned⟩)
    · exact absurd unsigned (not_isUnsignedDecimal_sign signed number)
    · exact unsigned
  · exact .signed signed

theorem isDecimal_iff_of_head? (plus : cs.head? ≠ some '+') (minus : cs.head? ≠ some '-') :
    IsDecimal cs ↔ IsUnsignedDecimal cs := by
  constructor
  · rintro (unsigned | ⟨rfl | rfl, _⟩)
    · exact unsigned
    · exact absurd rfl plus
    · exact absurd rfl minus
  · exact .unsigned

/-- The texts that may stand bare are the decimal numbers, blanks around them aside. -/
theorem isNumericLiteral_iff {text : String} :
    isNumericLiteral text = true ↔ IsDecimal (Text.trimChars text.toList) := by
  have tests : ∀ digits : List Char,
      (decide (digits.count '.' ≤ 1) && digits.all (fun c => c.isDigit || c == '.') &&
        digits.any Char.isDigit) = true ↔ IsUnsignedDecimal digits := by
    intro digits
    simp [isUnsignedDecimal_iff, and_assoc]
  unfold isNumericLiteral
  dsimp only
  rw [tests]
  split
  · next number trimmed => rw [trimmed, isDecimal_sign_iff (.inr rfl)]
  · next number trimmed => rw [trimmed, isDecimal_sign_iff (.inl rfl)]
  · next minus plus =>
      refine (isDecimal_iff_of_head? ?_ ?_).symm
      · intro first
        obtain ⟨number, split⟩ := List.head?_eq_some_iff.mp first
        exact plus number split
      · intro first
        obtain ⟨number, split⟩ := List.head?_eq_some_iff.mp first
        exact minus number split

theorem head?_of_isDecimal (decimal : IsDecimal cs) : cs.head? ≠ some '\x27' := by
  intro first
  obtain ⟨number, rfl⟩ := List.head?_eq_some_iff.mp first
  have allowed : ∀ magnitude : List Char, IsUnsignedDecimal magnitude → '\x27' ∉ magnitude := by
    intro magnitude unsigned member
    exact absurd ((isUnsignedDecimal_iff.mp unsigned).2.1 _ member) (by decide)
  cases decimal with
  | unsigned magnitude => exact allowed _ magnitude List.mem_cons_self
  | signed known _ => exact absurd known (by decide)

namespace Field

/-- A plain value that stands bare as the default of a column. -/
structure IsBare (config : DialectConfig) (dataType value : String) : Prop where
  /-- The engine lists the type as one without quotes. -/
  unquoted : ∃ info, config.typeInfo? dataType = some info ∧ info.hasQuotes = false
  decimal : IsDecimal (Text.trimChars value.toList)

/-- The engine lists a type without quotes, or what holds of the type is that it has them. -/
theorem hasQuotes_eq_false_iff :
    (config.typeInfo dataType).hasQuotes = false ↔
      ∃ info, config.typeInfo? dataType = some info ∧ info.hasQuotes = false := by
  cases listed : config.typeInfo? dataType with
  | none => simp [DialectConfig.typeInfo_of_eq_none listed, TypeInfo.unknown]
  | some info => simp [DialectConfig.typeInfo_of_eq_some listed]

theorem isBare_iff :
    IsBare config dataType value ↔
      (!(config.typeInfo dataType).hasQuotes && isNumericLiteral value) = true := by
  rw [Bool.and_eq_true, Bool.not_eq_true', hasQuotes_eq_false_iff, isNumericLiteral_iff]
  exact ⟨fun bare => ⟨bare.unquoted, bare.decimal⟩, fun both => ⟨both.1, both.2⟩⟩

theorem defaultText_of_isBare (bare : IsBare config dataType value) :
    defaultText config dataType (.literal value) = Text.trim value :=
  if_pos (isBare_iff.mp bare)

theorem defaultText_of_not_isBare (quoted : ¬ IsBare config dataType value) :
    defaultText config dataType (.literal value) = config.quoteString value :=
  if_neg (mt isBare_iff.mpr quoted)

private theorem length_trim_le (text : String) : (Text.trim text).length ≤ text.length := by
  rw [← String.length_toList, ← String.length_toList, Text.toList_trim]
  exact (Text.trimChars_isInfix text.toList).length_le

private theorem length_lt_quoteString (config : DialectConfig) (text : String) :
    text.length < (config.quoteString text).length := by
  have inside := Quotation.length_le_doubled '\x27' text.toList
  rw [← String.length_toList, ← String.length_toList, DialectConfig.toList_quoteString,
    Quotation.enquote_eq_doubled, List.length_append, List.length_cons]
  omega

/-- A plain value is written as the default of every field that does not count up: bare, without
the blanks around it, exactly if the type is listed without quotes and the value is a decimal
number, and else as a string literal that reads back as the value, up to its last character. -/
theorem defaultOperand?_literal {field : Field} (counts : field.increment = false)
    (stored : field.default = some (.literal value)) :
    ∃ operand, field.defaultOperand? config = some operand ∧
      (operand = Text.trim value ↔ IsBare config field.dataType value) ∧
      (DialectConfig.readString operand.toList = some (value, []) ↔
        ¬ IsBare config field.dataType value) := by
  refine ⟨defaultText config field.dataType (.literal value), ?_, ?_⟩
  · simp [defaultOperand?, counts, stored]
  by_cases bare : IsBare config field.dataType value
  · rw [defaultText_of_isBare bare]
    refine ⟨iff_of_true rfl bare, iff_of_false (fun back => ?_) fun quoted => quoted bare⟩
    obtain ⟨split, -⟩ := Quotation.read_eq_some_iff.mp back
    rw [Text.toList_trim] at split
    exact head?_of_isDecimal bare.decimal (split ▸ rfl)
  · rw [defaultText_of_not_isBare bare]
    have longer : config.quoteString value ≠ Text.trim value := by
      intro same
      have outside := length_lt_quoteString config value
      have inside := length_trim_le value
      rw [same] at outside
      omega
    refine ⟨iff_of_false longer bare, iff_of_true ?_ bare⟩
    refine Quotation.read_eq_some_iff.mpr ⟨?_, nofun⟩
    rw [DialectConfig.toList_quoteString, List.append_nil]

/-- A number with a sign, a dot behind it and blanks around it stands bare in a column of numbers,
and a number with a quote behind it does not. -/
theorem defaultOperand?_literal_price :
    let price (value : String) : Field :=
      { id := "f", name := "price", dataType := " decimal", default := some (.literal value) }
    (∀ value, (price value).increment = false ∧
        (price value).default = some (.literal value)) ∧
      (∃ operand, (price " +7.\n").defaultOperand? .mysql = some operand ∧ operand = "+7.") ∧
      ∃ operand, (price "7'").defaultOperand? .mysql = some operand ∧
        DialectConfig.readString operand.toList = some ("7'", []) := by
  intro price
  have plain : ∀ value, (price value).increment = false ∧
      (price value).default = some (.literal value) := fun _ => ⟨rfl, rfl⟩
  obtain ⟨bare, written, stands, -⟩ := defaultOperand?_literal (plain " +7.\n").1 (plain " +7.\n").2
  obtain ⟨quoted, enclosed, -, reads⟩ := defaultOperand?_literal (plain "7'").1 (plain "7'").2
  refine ⟨plain, ⟨bare, written, stands.mpr (isBare_iff.mpr (by decide))⟩, quoted, enclosed, ?_⟩
  exact reads.mpr fun number => absurd (isBare_iff.mp number) (by decide)

end Field

end EntityDiagram
