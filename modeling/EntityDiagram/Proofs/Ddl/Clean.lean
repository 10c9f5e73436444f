import EntityDiagram.Proofs.Ddl.Lexer
import EntityDiagram.Proofs.Text.Lines

/-!
# Texts that a lexer passes over

A clean text, read from its start, leaves the lexer outside of everything and holds no semicolon
that counts. Quoted identifiers, string literals and comments are clean whatever they were made
of; words are clean because they hold no character that a lexer cares about. Clean texts do not
simply follow one another, since two quoted ones would join at their quotes; something neat has to
stand between them.
-/

namespace EntityDiagram

/-- The lexer of an engine. -/
def DialectConfig.lexer (config : DialectConfig) : Ddl.Lexer :=
  ⟨config.openQuote, config.closeQuote⟩

namespace Ddl

/-- Whether a character may stand in a word or between words. -/
def isWordChar (c : Char) : Bool :=
  c.isAlphanum || [' ', '\t', '\n', '(', ')', '.', ',', '=', '+', '_'].contains c

/-- Whether a text is made of words and what stands between them. -/
def isWordy (text : String) : Bool := text.toList.all isWordChar

theorem isWordy_append (a b : String) : isWordy (a ++ b) = (isWordy a && isWordy b) := by
  simp [isWordy]

namespace Lexer

/-- Quotes that an engine may put around identifiers. -/
structure IsUsual (lexer : Lexer) : Prop where
  openQuote : lexer.openQuote ∈ ['\x60', '"', '[']
  closeQuote : lexer.closeQuote ∈ ['\x60', '"', ']']

/-- A character that neither begins nor ends anything, and does not count. -/
structure IsPlain (lexer : Lexer) (c : Char) : Prop where
  begin_eq : lexer.begin c = .code
  ne_closeQuote : c ≠ lexer.closeQuote
  ne_quote : c ≠ '\x27'
  ne_dash : c ≠ '-'
  ne_semicolon : c ≠ ';'

variable {lexer : Lexer} {final : Mode} {text : List Char} {s t : String} {c : Char}

theorem IsUsual.openQuote_ne (usual : lexer.IsUsual) (other : c ∉ ['\x60', '"', '[']) :
    lexer.openQuote ≠ c :=
  fun same => other (same ▸ usual.openQuote)

theorem IsUsual.closeQuote_ne (usual : lexer.IsUsual) (other : c ∉ ['\x60', '"', ']']) :
    lexer.closeQuote ≠ c :=
  fun same => other (same ▸ usual.closeQuote)

theorem IsUsual.isPlain (usual : lexer.IsUsual) (word : isWordChar c = true) :
    lexer.IsPlain c := by
  have differs : ∀ d, isWordChar d = false → c ≠ d := by
    rintro d other rfl
    rw [word] at other
    contradiction
  have apart : ∀ quotes : List Char, quotes.any isWordChar = false → c ∉ quotes := by
    intro quotes others member
    exact differs c (by simpa using List.any_eq_false.mp others c member) rfl
  have opening : lexer.openQuote ≠ c := usual.openQuote_ne (apart _ (by decide))
  have closing : lexer.closeQuote ≠ c := usual.closeQuote_ne (apart _ (by decide))
  have quote : c ≠ '\x27' := differs _ (by decide)
  have dash : c ≠ '-' := differs _ (by decide)
  have slash : c ≠ '/' := differs _ (by decide)
  have semicolon : c ≠ ';' := differs _ (by decide)
  have begins : lexer.begin c = .code := by
    simp [begin, opening.symm, quote, dash, slash]
  exact ⟨begins, closing.symm, quote, dash, semicolon⟩

/-- The modes in which a lexer stands outside of everything, perhaps behind a closing quote. -/
inductive Mode.IsAtRest : Mode → Prop where
  | code : Mode.IsAtRest .code
  | identifierQuote : Mode.IsAtRest .identifierQuote
  | stringQuote : Mode.IsAtRest .stringQuote

theorem Mode.IsAtRest.isOutside {mode : Mode} (rest : mode.IsAtRest) : mode.isOutside = true := by
  cases rest <;> rfl

/-- At rest a lexer begins anew with every character that is not the quote it stands behind. -/
theorem Mode.IsAtRest.step_eq {mode : Mode} (rest : mode.IsAtRest)
    (closing : c ≠ lexer.closeQuote) (quote : c ≠ '\x27') :
    lexer.step mode c = lexer.begin c := by
  cases rest with
  | code => rfl
  | identifierQuote => simp [step, closing]
  | stringQuote => simp [step, quote]

/-- A text that leads from code to code. -/
def Neat (lexer : Lexer) (s : String) : Prop := lexer.Passes .code s.toList .code

/-- A text that leads from code out of everything, perhaps right behind a closing quote. -/
def Clean (lexer : Lexer) (s : String) : Prop :=
  ∃ mode : Mode, mode.IsAtRest ∧ lexer.Passes .code s.toList mode

theorem Neat.clean (neat : lexer.Neat s) : lexer.Clean s := ⟨.code, .code, neat⟩

theorem Neat.append (first : lexer.Neat s) (second : lexer.Neat t) : lexer.Neat (s ++ t) := by
  rw [Neat, String.toList_append]
  exact Passes.append first second

theorem Neat.append_clean (first : lexer.Neat s) (second : lexer.Clean t) :
    lexer.Clean (s ++ t) := by
  obtain ⟨mode, rest, passes⟩ := second
  refine ⟨mode, rest, ?_⟩
  rw [String.toList_append]
  exact Passes.append first passes

private theorem passes_plain {text : List Char} (plain : ∀ c ∈ text, lexer.IsPlain c) :
    lexer.Passes .code text .code :=
  Passes.of_forall (fun c member => (plain c member).begin_eq)
    (.inr fun member => (plain _ member).ne_semicolon rfl)

/-- Words are neat. -/
theorem neat_of_isWordy (usual : lexer.IsUsual) (wordy : isWordy s = true) : lexer.Neat s :=
  passes_plain fun c member => usual.isPlain (List.all_eq_true.mp wordy c member)

/-- Outside of everything, a character of a word leads to code. -/
theorem Mode.step_word (usual : lexer.IsUsual) {mode : Mode} (outside : mode.isOutside = true)
    (word : isWordChar c = true) : lexer.step mode c = .code := by
  have plain := usual.isPlain word
  have star : c ≠ '*' := by
    rintro rfl
    exact absurd word (by decide)
  cases mode with
  | code => exact plain.begin_eq
  | dash => exact (if_neg plain.ne_dash).trans plain.begin_eq
  | slash => exact (if_neg star).trans plain.begin_eq
  | identifierQuote => exact (if_neg plain.ne_closeQuote).trans plain.begin_eq
  | stringQuote => exact (if_neg plain.ne_quote).trans plain.begin_eq
  | identifier | string | line | block | blockStar => cases outside

/-- A word is passed over from every mode outside of everything. -/
theorem Mode.passes_word (usual : lexer.IsUsual) {mode : Mode} (outside : mode.isOutside = true)
    (wordy : isWordy s = true) (nonempty : s ≠ "") : lexer.Passes mode s.toList .code := by
  have word : ∀ c ∈ s.toList, isWordChar c = true := List.all_eq_true.mp wordy
  cases chars : s.toList with
  | nil => exact absurd (String.toList_eq_nil_iff.mp chars) nonempty
  | cons c rest =>
      rw [chars] at word
      have head := word c List.mem_cons_self
      refine Passes.cons (.inr (usual.isPlain head).ne_semicolon) ?_
      rw [Mode.step_word usual outside head]
      exact passes_plain fun d member => usual.isPlain (word d (List.mem_cons_of_mem c member))

/-- A word behind a clean text ends the identifier or string that the text may have ended with. -/
theorem Clean.append_word (usual : lexer.IsUsual) (first : lexer.Clean s) (wordy : isWordy t = true)
    (nonempty : t ≠ "") : lexer.Neat (s ++ t) := by
  obtain ⟨mode, rest, passes⟩ := first
  rw [Neat, String.toList_append]
  exact passes.append (Mode.passes_word usual rest.isOutside wordy nonempty)

private theorem step_dash (usual : lexer.IsUsual) : lexer.step .code '-' = .dash := by
  have other := usual.openQuote_ne (c := '-') (by decide)
  simp [step, begin, other.symm]

/-- A minus sign in front of a word does not open a comment. -/
theorem neat_minus (usual : lexer.IsUsual) (wordy : isWordy s = true) (nonempty : s ≠ "") :
    lexer.Neat ("-" ++ s) := by
  rw [Neat, String.toList_append, show "-".toList = ['-'] from rfl]
  refine Passes.cons (.inr (by decide)) ?_
  rw [step_dash usual]
  exact Mode.passes_word usual rfl wordy nonempty

/-- Texts with a separator between neighbours lead together to where each of them leads, if the
separator leads from there to code. -/
private theorem passes_join (leads : Mode → Prop) (code : leads .code) (separator : String)
    (back : ∀ mode, leads mode → lexer.Passes mode separator.toList .code) {parts : List String}
    (each : ∀ part ∈ parts, ∃ mode, leads mode ∧ lexer.Passes .code part.toList mode) :
    ∃ mode, leads mode ∧ lexer.Passes .code (Text.join separator parts).toList mode := by
  induction parts with
  | nil =>
      rw [Text.join_nil]
      exact ⟨.code, code, Passes.nil _⟩
  | cons part rest ih =>
      obtain ⟨middle, here, first⟩ := each part List.mem_cons_self
      have later := ih fun other member => each other (List.mem_cons_of_mem part member)
      cases rest with
      | nil =>
          rw [Text.join, String.intercalate_singleton]
          exact ⟨middle, here, first⟩
      | cons next others =>
          obtain ⟨final, there, second⟩ := later
          rw [Text.join, String.intercalate_cons_cons, String.toList_append, String.toList_append]
          exact ⟨final, there, (first.append (back middle here)).append second⟩

/-- Clean texts with a word between neighbours are clean together. -/
theorem Clean.join (usual : lexer.IsUsual) (separator : String) (wordy : isWordy separator = true)
    (nonempty : separator ≠ "") {parts : List String} (clean : ∀ part ∈ parts, lexer.Clean part) :
    lexer.Clean (Text.join separator parts) :=
  passes_join Mode.IsAtRest .code separator
    (fun _ rest => Mode.passes_word usual rest.isOutside wordy nonempty) clean

/-! ### Lines -/

/-- A text that leads from code out of everything, save perhaps for a comment that the line ends. -/
def Ends (lexer : Lexer) (s : String) : Prop :=
  ∃ mode : Mode, mode.isOpen = false ∧ lexer.Passes .code s.toList mode

theorem Clean.ends (clean : lexer.Clean s) : lexer.Ends s := by
  obtain ⟨mode, rest, passes⟩ := clean
  refine ⟨mode, ?_, passes⟩
  cases rest <;> rfl

theorem Neat.append_ends (first : lexer.Neat s) (second : lexer.Ends t) : lexer.Ends (s ++ t) := by
  obtain ⟨mode, closed, passes⟩ := second
  refine ⟨mode, closed, ?_⟩
  rw [String.toList_append]
  exact Passes.append first passes

theorem Mode.eq_line_of_not_isOutside {mode : Mode} (closed : mode.isOpen = false)
    (inside : mode.isOutside = false) : mode = .line := by
  cases mode <;> first | rfl | contradiction

/-- A line comment goes on up to the first line feed, and all before that is part of it. -/
private theorem passes_line_word (usual : lexer.IsUsual) (wordy : isWordy s = true)
    (feed : '\n' ∈ s.toList) : lexer.Passes .line s.toList .code := by
  obtain ⟨comment, rest, chars, clear⟩ := List.eq_append_cons_of_mem feed
  have stays : ∀ c ∈ comment, lexer.step .line c = .line :=
    fun c member => if_neg fun (same : c = '\n') => clear (same ▸ member)
  have word : ∀ c ∈ rest, isWordChar c = true := by
    intro c member
    refine List.all_eq_true.mp wordy c ?_
    rw [chars]
    exact List.mem_append_right _ (List.mem_cons_of_mem _ member)
  rw [chars]
  refine (Passes.of_forall stays (.inl rfl)).append (Passes.cons (.inl rfl) ?_)
  exact passes_plain fun c member => usual.isPlain (word c member)

/-- From the end of a line every word with a line feed leads to code. -/
theorem Mode.passes_break (usual : lexer.IsUsual) {mode : Mode} (closed : mode.isOpen = false)
    (wordy : isWordy s = true) (feed : '\n' ∈ s.toList) : lexer.Passes mode s.toList .code := by
  have nonempty : s ≠ "" := by
    rintro rfl
    exact absurd feed (by decide)
  cases outside : mode.isOutside with
  | true => exact Mode.passes_word usual outside wordy nonempty
  | false =>
      rw [Mode.eq_line_of_not_isOutside closed outside]
      exact passes_line_word usual wordy feed

theorem Ends.append_break (usual : lexer.IsUsual) (first : lexer.Ends s) (wordy : isWordy t = true)
    (feed : '\n' ∈ t.toList) : lexer.Neat (s ++ t) := by
  obtain ⟨mode, closed, passes⟩ := first
  rw [Neat, String.toList_append]
  exact passes.append (Mode.passes_break usual closed wordy feed)

/-- Lines that end well do so together. -/
theorem Ends.join (usual : lexer.IsUsual) (separator : String) (wordy : isWordy separator = true)
    (feed : '\n' ∈ separator.toList) {parts : List String}
    (ends : ∀ part ∈ parts, lexer.Ends part) : lexer.Ends (Text.join separator parts) :=
  passes_join (·.isOpen = false) rfl separator
    (fun _ closed => Mode.passes_break usual closed wordy feed) ends

/-! ### Quoted texts -/

/-- Inside quotes that are doubled a lexer stays inside up to the closing one. -/
private theorem passes_enquoted {inside behind : Mode} {closing : Char}
    (hidden : inside.isOutside = false)
    (onClosing : lexer.step inside closing = behind)
    (onOther : ∀ c, c ≠ closing → lexer.step inside c = inside)
    (onDoubled : lexer.step behind closing = inside) (notSemicolon : closing ≠ ';')
    (text : List Char) :
    lexer.Passes inside (text.flatMap (fun c => if c = closing then [closing, c] else [c]) ++
      [closing]) behind := by
  induction text with
  | nil =>
      rw [List.flatMap_nil, List.nil_append, ← onClosing]
      exact Passes.single (.inl hidden)
  | cons c rest ih =>
      rw [List.flatMap_cons]
      by_cases same : c = closing
      · subst same
        rw [if_pos rfl]
        refine Passes.cons (.inl hidden) (Passes.cons (.inr notSemicolon) ?_)
        rw [onClosing, onDoubled]
        exact ih
      · rw [if_neg same]
        refine Passes.cons (.inl hidden) ?_
        rw [onOther c same]
        exact ih

/-- A string literal is clean whatever its text. -/
theorem clean_quoteString (config : DialectConfig) (text : String) :
    lexer.Clean (config.quoteString text) := by
  refine ⟨.stringQuote, .stringQuote, ?_⟩
  rw [DialectConfig.toList_quoteString, DialectConfig.enquote, List.cons_append]
  refine Passes.cons (.inr (by decide)) ?_
  have opened : lexer.step .code '\x27' = .string := by simp [step, begin]
  have closed : lexer.step .string '\x27' = .stringQuote := rfl
  have stays : ∀ c, c ≠ '\x27' → lexer.step .string c = .string := fun _ other => if_neg other
  have doubled : lexer.step .stringQuote '\x27' = .string := rfl
  rw [opened]
  exact passes_enquoted rfl closed stays doubled (by decide) text.toList

/-- A quoted identifier is clean whatever the name. -/
theorem clean_quoteIdentifier {config : DialectConfig} (usual : config.lexer.IsUsual)
    (name : String) : config.lexer.Clean (config.quoteIdentifier name) := by
  refine ⟨.identifierQuote, .identifierQuote, ?_⟩
  rw [DialectConfig.toList_quoteIdentifier, DialectConfig.enquote, List.cons_append]
  have notQuote : config.openQuote ≠ '\x27' := usual.openQuote_ne (by decide)
  have notSemicolon : config.openQuote ≠ ';' := usual.openQuote_ne (by decide)
  refine Passes.cons (.inr notSemicolon) ?_
  have opened : config.lexer.step .code config.openQuote = .identifier := by
    simp [step, begin, DialectConfig.lexer, notQuote]
  have closed : config.lexer.step .identifier config.closeQuote = .identifierQuote := if_pos rfl
  have stays : ∀ c, c ≠ config.closeQuote → config.lexer.step .identifier c = .identifier :=
    fun _ other => if_neg other
  have doubled : config.lexer.step .identifierQuote config.closeQuote = .identifier := if_pos rfl
  rw [opened]
  exact passes_enquoted rfl closed stays doubled (usual.closeQuote_ne (by decide)) name.toList

/-- The quoted identifiers of a list are clean together. -/
theorem clean_quotedList {config : DialectConfig} (usual : config.lexer.IsUsual)
    (names : List String) : config.lexer.Clean (config.quotedList names) := by
  refine Clean.join usual ", " (by decide) (by decide) ?_
  intro part member
  obtain ⟨name, -, rfl⟩ := List.mem_map.mp member
  exact clean_quoteIdentifier usual name

/-! ### Comments -/

private theorem head?_breakBlockEnd (text : List Char) :
    (Target.breakBlockEnd text).head? = text.head? := by
  fun_cases Target.breakBlockEnd text <;> rfl

/-- Behind a star in a block comment everything but a slash is read as if the star were not
there. -/
private theorem passes_blockStar (nonempty : text ≠ []) (noSlash : text.head? ≠ some '/')
    (passes : lexer.Passes .block text final) : lexer.Passes .blockStar text final := by
  cases text with
  | nil => contradiction
  | cons c rest =>
      have same : lexer.step .blockStar c = lexer.step .block c := by
        have other : c ≠ '/' := fun eq => noSlash (by rw [eq, List.head?_cons])
        by_cases star : c = '*' <;> simp [step, other, star]
      constructor
      · rw [← passes.run_eq, run_cons, run_cons, same]
      · intro place
        rw [← passes.semicolons_eq place, semicolons, semicolons, same]
        rfl

/-- A block comment stays open up to the end that is written for it: the end of a comment does
not occur in its text. -/
private theorem passes_breakBlockEnd (text : List Char) :
    lexer.Passes .block (Target.breakBlockEnd text ++ [' ', '*', '/']) .code := by
  fun_induction Target.breakBlockEnd text with
  | case1 rest ih => exact Passes.append (a := ['*', ' ', '/']) ⟨rfl, fun _ => rfl⟩ ih
  | case2 c rest notEnd ih =>
      refine Passes.cons (.inl rfl) ?_
      by_cases star : c = '*'
      · subst star
        show lexer.Passes .blockStar _ _
        refine passes_blockStar (by simp) ?_ ih
        cases rest with
        | nil => decide
        | cons d others =>
            have other : d ≠ '/' := by
              rintro rfl
              exact notEnd others rfl rfl
            simpa [List.head?_append, head?_breakBlockEnd] using other
      · rw [show lexer.step .block c = .block from if_neg star]
        exact ih
  | case3 => exact ⟨rfl, fun _ => rfl⟩

/-- A text in a block comment is neat. -/
theorem neat_blockComment (usual : lexer.IsUsual) (text : String) :
    lexer.Neat ("/* " ++ String.ofList (Target.breakBlockEnd text.toList) ++ " */") := by
  have opening : lexer.Passes .code ['/', '*', ' '] .block := by
    have slash : lexer.step .code '/' = .slash := by
      have other := usual.openQuote_ne (c := '/') (by decide)
      simp [step, begin, other.symm]
    refine Passes.cons (.inr (by decide)) ?_
    rw [slash]
    exact ⟨rfl, fun _ => rfl⟩
  have passes := opening.append (passes_breakBlockEnd text.toList)
  simpa [Neat] using passes

/-- The modes that a line feed takes back to code. -/
inductive Mode.IsLineEnd : Mode → Prop where
  | code : Mode.IsLineEnd .code
  | line : Mode.IsLineEnd .line

theorem Mode.IsLineEnd.isOpen {mode : Mode} (ends : mode.IsLineEnd) : mode.isOpen = false := by
  cases ends <;> rfl

theorem Mode.IsLineEnd.passes (usual : lexer.IsUsual) {mode : Mode} (ends : mode.IsLineEnd) :
    lexer.Passes mode ['\n'] .code := by
  cases ends with
  | code => exact neat_of_isWordy (s := "\n") usual (by decide)
  | line => exact ⟨rfl, fun _ => rfl⟩

private theorem passes_commentLine (usual : lexer.IsUsual) {line : String}
    (clear : '\n' ∉ line.toList) : lexer.Passes .code ("-- " ++ line).toList .line := by
  have marker : lexer.Passes .code ['-', '-', ' '] .line := by
    refine Passes.cons (.inr (by decide)) ?_
    rw [step_dash usual]
    exact ⟨rfl, fun _ => rfl⟩
  have stays : ∀ c ∈ line.toList, lexer.step .line c = .line :=
    fun c member => if_neg fun (feed : c = '\n') => clear (feed ▸ member)
  have body : lexer.Passes .line line.toList .line := Passes.of_forall stays (.inl rfl)
  rw [String.toList_append]
  exact marker.append body

/-- A line comment is passed over up to the feed that ends its last line. -/
theorem passes_lineComment (usual : lexer.IsUsual) (text : String) :
    ∃ mode : Mode, mode.IsLineEnd ∧ lexer.Passes .code (lineComment text).toList mode := by
  have clear : ∀ line ∈ Text.lines text, '\n' ∉ line.toList :=
    fun line member => Text.feed_not_mem_lines member
  rw [lineComment]
  generalize Text.lines text = lines at clear
  induction lines with
  | nil => exact ⟨.code, .code, Passes.nil _⟩
  | cons line rest ih =>
      have here := passes_commentLine usual (clear line List.mem_cons_self)
      have later := ih fun other member => clear other (List.mem_cons_of_mem line member)
      cases rest with
      | nil =>
          refine ⟨.line, .line, ?_⟩
          rwa [List.map_singleton, Text.join, String.intercalate_singleton]
      | cons next others =>
          obtain ⟨mode, ends, passes⟩ := later
          refine ⟨mode, ends, ?_⟩
          rw [List.map_cons, List.map_cons, Text.join, String.intercalate_cons_cons,
            String.toList_append, String.toList_append]
          exact (here.append (Mode.IsLineEnd.line.passes usual)).append passes

/-- Line comments and the feed behind them are neat. -/
theorem neat_lineComment (usual : lexer.IsUsual) (text : String) :
    lexer.Neat (lineComment text ++ "\n") := by
  obtain ⟨mode, ends, passes⟩ := passes_lineComment usual text
  rw [Neat, String.toList_append]
  exact passes.append (ends.passes usual)

end Lexer

end Ddl

end EntityDiagram
