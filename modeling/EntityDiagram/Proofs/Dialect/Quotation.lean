import EntityDiagram.Dialect.Builtin
import EntityDiagram.Text.Lines

/-!
# Reading quoted texts back

Quotes are undone by a reader that takes a doubled closing quote for one and stops behind a single
one. Whatever the quotes are, it gives back every text that was put into them and leaves what stands
behind, unless that starts with the closing quote itself. In a list it is the separator that stands
behind an identifier. Therefore lists of identifiers are read back in all quotes but those that a
comma closes.
-/

namespace EntityDiagram

namespace Quotation

/-- What was read, with more in front of it, and the same left over. -/
def prepend {α : Type} (front : List α) (found : List α × List Char) : List α × List Char :=
  (front ++ found.1, found.2)

theorem prepend_prepend {α : Type} (front behind : List α) :
    prepend front ∘ prepend behind = prepend (front ++ behind) := by
  funext found
  simp [prepend]

/-- The text from behind an opening quote up to the closing one, of which two stand for one, and
what is left behind that. -/
def readInside (closing : Char) : List Char → Option (List Char × List Char)
  | [] => none
  | [c] => if c = closing then some ([], []) else none
  | c :: d :: behind =>
    if c = closing then
      if d = closing then (readInside closing behind).map (prepend [closing])
      else some ([], d :: behind)
    else (readInside closing (d :: behind)).map (prepend [c])

/-- The text in the quotes with which a list of characters starts, and what is left behind them. -/
def read (opening closing : Char) : List Char → Option (String × List Char)
  | [] => none
  | c :: rest =>
    if c = opening then (readInside closing rest).map (Prod.map String.ofList id) else none

/-- A quoted text, and behind it what another reader finds there. -/
def readThen (opening closing : Char) (next : List Char → Option (List String × List Char))
    (text : List Char) : Option (List String × List Char) :=
  (read opening closing text).bind fun found =>
    (next found.2).map (prepend [found.1])

/-- A number of quoted texts, each behind a comma and a space, and what is left behind them. -/
def readFurther (opening closing : Char) : Nat → List Char → Option (List String × List Char)
  | 0, text => some ([], text)
  | count + 1, ',' :: ' ' :: text =>
    readThen opening closing (readFurther opening closing count) text
  | _ + 1, _ => none

/-- A number of quoted texts with a comma and a space between neighbours, and what is left behind
them. -/
def readMany (opening closing : Char) : Nat → List Char → Option (List String × List Char)
  | 0, text => some ([], text)
  | count + 1, text => readThen opening closing (readFurther opening closing count) text

/-- A text with every closing quote in it doubled, as it stands between quotes. -/
def doubled (closing : Char) (text : List Char) : List Char :=
  text.flatMap fun c => if c = closing then [closing, c] else [c]

variable {opening closing : Char} {inside text rest : List Char}

@[simp] theorem doubled_nil : doubled closing [] = [] := rfl

@[simp] theorem doubled_closing (rest : List Char) :
    doubled closing (closing :: rest) = closing :: closing :: doubled closing rest := by
  simp [doubled]

theorem doubled_of_ne {c : Char} (other : c ≠ closing) (rest : List Char) :
    doubled closing (c :: rest) = c :: doubled closing rest := by
  simp [doubled, other]

theorem length_le_doubled (closing : Char) (text : List Char) :
    text.length ≤ (doubled closing text).length := by
  induction text with
  | nil => exact Nat.le_refl 0
  | cons c rest ih =>
      by_cases same : c = closing
      · subst same
        rw [doubled_closing]
        simp only [List.length_cons]
        omega
      · rw [doubled_of_ne same]
        exact Nat.succ_le_succ ih

theorem enquote_eq_doubled (text : List Char) :
    DialectConfig.enquote opening closing text = opening :: doubled closing text ++ [closing] := rfl

theorem readInside_of_ne {c : Char} (other : c ≠ closing) (rest : List Char) :
    readInside closing (c :: rest) = (readInside closing rest).map (prepend [c]) := by
  cases rest <;> simp [readInside, other]

theorem readInside_doubled (rest : List Char) :
    readInside closing (closing :: closing :: rest) =
      (readInside closing rest).map (prepend [closing]) := by
  simp [readInside]

theorem readInside_closing (apart : rest.head? ≠ some closing) :
    readInside closing (closing :: rest) = some ([], rest) := by
  cases rest with
  | nil => simp [readInside]
  | cons d behind =>
      have other : d ≠ closing := fun same => apart (congrArg some same)
      simp [readInside, other]

/-- Behind the characters of a text, with the closing quote doubled among them, the reader goes on
with whatever stands there. -/
theorem readInside_append (inside rest : List Char) :
    readInside closing (doubled closing inside ++ rest) =
      (readInside closing rest).map (prepend inside) := by
  induction inside with
  | nil => exact Option.map_id'.symm
  | cons c inside ih =>
      have both : (readInside closing rest).map (prepend (c :: inside)) =
          ((readInside closing rest).map (prepend inside)).map (prepend [c]) := by
        rw [Option.map_map, prepend_prepend]
        rfl
      rw [both, ← ih]
      by_cases same : c = closing
      · subst same
        rw [doubled_closing]
        exact readInside_doubled _
      · rw [doubled_of_ne same]
        exact readInside_of_ne same _

/-- What is read between quotes stands there with the closing quote doubled, and the quote behind it
is a single one. -/
theorem readInside_eq_some_iff :
    readInside closing text = some (inside, rest) ↔
      text = doubled closing inside ++ closing :: rest ∧ rest.head? ≠ some closing := by
  constructor
  · intro found
    fun_induction readInside closing text generalizing inside with
    | case1 => cases found
    | case2 =>
        cases found
        exact ⟨rfl, nofun⟩
    | case3 => cases found
    | case4 behind ih =>
        obtain ⟨⟨before, _⟩, later, same⟩ := Option.map_eq_some_iff.mp found
        cases same
        obtain ⟨rfl, apart⟩ := ih later
        exact ⟨by simp, apart⟩
    | case5 d behind other =>
        cases found
        exact ⟨rfl, fun same => other (Option.some.inj same)⟩
    | case6 c d behind other ih =>
        obtain ⟨⟨before, _⟩, later, same⟩ := Option.map_eq_some_iff.mp found
        cases same
        obtain ⟨split, apart⟩ := ih later
        rw [split]
        exact ⟨by simp [doubled_of_ne other], apart⟩
  · rintro ⟨rfl, apart⟩
    rw [readInside_append, readInside_closing apart]
    simp [prepend]

/-- Reading undoes quoting and nothing else: what is read is written there in its quotes, and no
closing quote stands behind them. -/
theorem read_eq_some_iff {name : String} :
    read opening closing text = some (name, rest) ↔
      text = DialectConfig.enquote opening closing name.toList ++ rest ∧
        rest.head? ≠ some closing := by
  cases text with
  | nil => simp [read, DialectConfig.enquote]
  | cons c behind =>
      by_cases same : c = opening
      · subst same
        have within : read c closing (c :: behind) = some (name, rest) ↔
            readInside closing behind = some (name.toList, rest) := by
          simp [read, Prod.ext_iff, ← String.toList_inj]
        rw [within, readInside_eq_some_iff]
        simp [enquote_eq_doubled]
      · simp [read, DialectConfig.enquote, same]

theorem readThen_enquote {next : List Char → Option (List String × List Char)} (name : String)
    (apart : rest.head? ≠ some closing) :
    readThen opening closing next
        (DialectConfig.enquote opening closing name.toList ++ rest) =
      (next rest).map (prepend [name]) := by
  have first : read opening closing (DialectConfig.enquote opening closing name.toList ++ rest) =
      some (name, rest) := read_eq_some_iff.mpr ⟨rfl, apart⟩
  rw [readThen, first, Option.bind_some]

/-- Quoted texts, each behind a comma and a space. -/
def further (opening closing : Char) (names : List String) : List Char :=
  names.flatMap fun name => ',' :: ' ' :: DialectConfig.enquote opening closing name.toList

theorem head?_further_append (comma : closing ≠ ',') (apart : rest.head? ≠ some closing)
    (names : List String) : (further opening closing names ++ rest).head? ≠ some closing := by
  cases names with
  | nil => exact apart
  | cons name others => exact fun same => comma (Option.some.inj same).symm

/-- Behind the quoted texts of a list the reader goes on with what the following text holds. -/
theorem readFurther_append (comma : closing ≠ ',') (apart : rest.head? ≠ some closing)
    (names : List String) (more : Nat) :
    readFurther opening closing (names.length + more) (further opening closing names ++ rest) =
      (readFurther opening closing more rest).map (prepend names) := by
  induction names with
  | nil =>
      rw [List.length_nil, Nat.zero_add]
      exact Option.map_id'.symm
  | cons name others ih =>
      have count : (name :: others).length + more = others.length + more + 1 := by
        rw [List.length_cons]
        omega
      have text : further opening closing (name :: others) ++ rest =
          ',' :: ' ' :: (DialectConfig.enquote opening closing name.toList ++
            (further opening closing others ++ rest)) := by
        simp [further]
      rw [count, text, readFurther, readThen_enquote name (head?_further_append comma apart others),
        ih, Option.map_map, prepend_prepend]
      rfl

/-- What is read first of several texts is read as a single one. -/
theorem exists_read_of_readThen {next : List Char → Option (List String × List Char)}
    {first : String} {others : List String}
    (found : readThen opening closing next text = some (first :: others, rest)) :
    ∃ behind, read opening closing text = some (first, behind) := by
  obtain ⟨⟨name, behind⟩, here, later⟩ := Option.bind_eq_some_iff.mp found
  obtain ⟨⟨_, _⟩, -, same⟩ := Option.map_eq_some_iff.mp later
  cases same
  exact ⟨behind, here⟩

end Quotation

namespace DialectConfig

open Quotation

variable {config : DialectConfig} {rest : List Char}

/-- A number of identifiers in the quotes of the engine, and what is left behind them. -/
def readNames (config : DialectConfig) (count : Nat) (text : List Char) :
    Option (List String × List Char) :=
  readMany config.openQuote config.closeQuote count text

/-- A number of further identifiers of a list, and what is left behind them. -/
def readFurtherNames (config : DialectConfig) (count : Nat) (text : List Char) :
    Option (List String × List Char) :=
  readFurther config.openQuote config.closeQuote count text

/-- The text of a string literal in single quotes, and what is left behind it. -/
def readString (text : List Char) : Option (String × List Char) := read '\x27' '\x27' text

theorem toList_quotedList_cons (config : DialectConfig) (name : String) (others : List String) :
    (config.quotedList (name :: others)).toList =
      enquote config.openQuote config.closeQuote name.toList ++
        further config.openQuote config.closeQuote others := by
  induction others generalizing name with
  | nil => simp [quotedList, further, String.intercalate_singleton]
  | cons next others ih =>
      have step : config.quotedList (name :: next :: others) =
          config.quoteIdentifier name ++ ", " ++ config.quotedList (next :: others) :=
        String.intercalate_cons_cons
      rw [step, String.toList_append, ih next]
      simp [further]

/-- Reading as many identifiers as a list has, and some more, takes the identifiers of the list and
then those that the following text goes on with. -/
theorem readNames_quotedList {names : List String} (nonempty : names ≠ [])
    (comma : config.closeQuote ≠ ',' ∨ names.length ≤ 1)
    (apart : rest.head? ≠ some config.closeQuote) (more : Nat) :
    config.readNames (names.length + more) ((config.quotedList names).toList ++ rest) =
      (config.readFurtherNames more rest).map (prepend names) := by
  obtain ⟨first, others, rfl⟩ := List.exists_cons_of_ne_nil nonempty
  have count : (first :: others).length + more = others.length + more + 1 := by
    rw [List.length_cons]
    omega
  rw [count, toList_quotedList_cons, List.append_assoc, readNames, readMany]
  rcases comma with other | single
  · rw [readThen_enquote first (head?_further_append other apart others),
      readFurther_append other apart, Option.map_map, prepend_prepend]
    rfl
  · obtain rfl : others = [] := by simpa using single
    rw [List.length_nil, Nat.zero_add]
    exact readThen_enquote first apart

/-- In quotes that a comma closes the separator makes the quote in front of it a doubled one, so
that the first of several identifiers is not read back. -/
theorem readNames_ne_of_comma {names : List String} (comma : config.closeQuote = ',')
    (several : 1 < names.length) :
    config.readNames names.length ((config.quotedList names).toList ++ rest) ≠
      some (names, rest) := by
  intro found
  match names, several with
  | first :: second :: others, _ =>
      obtain ⟨behind, alone⟩ := exists_read_of_readThen found
      obtain ⟨split, apart⟩ := read_eq_some_iff.mp alone
      rw [toList_quotedList_cons, List.append_assoc] at split
      obtain rfl := List.append_cancel_left split
      exact apart (congrArg some comma.symm)

/-- In a list followed by anything but another closing quote the identifiers are read back exactly
if no comma closes the quotes or there is only one of them; reading on takes what the following text
holds and nothing else. A string literal is read back from in front of anything but another single
quote. -/
theorem quotedList_reads_back_iff (config : DialectConfig) :
    (∀ (names : List String) (rest : List Char), rest.head? ≠ some config.closeQuote →
      (config.readNames names.length ((config.quotedList names).toList ++ rest) =
          some (names, rest) ↔
        config.closeQuote ≠ ',' ∨ names.length ≤ 1) ∧
      (names ≠ [] → config.closeQuote ≠ ',' ∨ names.length ≤ 1 → ∀ more,
        config.readNames (names.length + more) ((config.quotedList names).toList ++ rest) =
          (config.readFurtherNames more rest).map (prepend names))) ∧
    ∀ (text : String) (rest : List Char), rest.head? ≠ some '\x27' →
      readString ((config.quoteString text).toList ++ rest) = some (text, rest) := by
  constructor
  · intro names rest apart
    refine ⟨⟨fun found => ?_, fun comma => ?_⟩, fun nonempty comma =>
      readNames_quotedList nonempty comma apart⟩
    · by_cases comma : config.closeQuote = ','
      · exact .inr (Nat.not_lt.mp fun several => readNames_ne_of_comma comma several found)
      · exact .inl comma
    · by_cases nonempty : names = []
      · subst nonempty
        rfl
      · have exactly := readNames_quotedList nonempty comma apart 0
        simpa [readFurtherNames, readFurther, prepend] using exactly
  · intro text rest apart
    rw [toList_quoteString]
    exact read_eq_some_iff.mpr ⟨rfl, apart⟩

/-- Brackets among the names, an empty name, and a comma behind the list. -/
theorem quotedList_reads_back_brackets :
    let names := ["]a", "", "b]], ["]
    let rest := [',', ' ', 'c']
    rest.head? ≠ some mssql.closeQuote ∧ rest.head? ≠ some '\x27' ∧
      mssql.readNames 3 ((mssql.quotedList names).toList ++ rest) = some (names, rest) ∧
      mssql.readNames 4 ((mssql.quotedList names).toList ++ rest) = none ∧
      readString ((mssql.quoteString "it's").toList ++ rest) = some ("it's", rest) := by
  intro names rest
  obtain ⟨lists, strings⟩ := quotedList_reads_back_iff mssql
  obtain ⟨back, further⟩ := lists names rest (by decide)
  have comma : mssql.closeQuote ≠ ',' ∨ names.length ≤ 1 := .inl (by decide)
  exact ⟨by decide, by decide, back.mpr comma, further (by decide) comma 1,
    strings "it's" rest (by decide)⟩

/-- In quotes closed by a comma two different lists of two names have one text, and the names of a
list are not read back. -/
theorem quotedList_ambiguous_comma :
    let config : DialectConfig := { postgresql with openQuote := '[', closeQuote := ',' }
    config.quotedList ["a", "b, [c"] = config.quotedList ["a, [b", "c"] ∧
      config.quotedList ["a", "b"] = "[a,, [b," ∧
      config.readNames 2 (config.quotedList ["a", "b"]).toList = none ∧
      config.readNames 1 (config.quotedList ["a", "b"]).toList = some (["a, [b"], []) := by
  decide

end DialectConfig

end EntityDiagram
