import EntityDiagram.Text.Lines

/-!
# Lines and their ends

`Text.lines` takes line feeds for the ends of lines, with or without a carriage return in front. An
engine may see more ends than that: `Text.readLines` splits a text as it is read by an engine for
which only a line feed ends a line, or a carriage return too. Texts that are written with a feed in
front of each are read one after the other, whatever stands in them. Whether all lines of a text
begin with a mark can be told by what stands behind its carriage returns.
-/

namespace EntityDiagram.Text

variable {a ending pending text : List Char} {c : Char} {s : String}

/-! ### Lines that end with a line feed -/

theorem mem_of_mem_dropReturn {line : List Char} (member : c ∈ dropReturn line) : c ∈ line := by
  revert member
  fun_cases dropReturn line with
  | case1 rest => exact List.mem_cons_of_mem _
  | case2 => exact id

/-- The characters of the lines are those of the text, line feeds aside. -/
theorem mem_of_mem_linesFrom :
    ∀ line ∈ linesFrom pending text, ∀ c ∈ line, c ∈ pending ∨ c ∈ text ∧ c ≠ '\n' := by
  fun_induction linesFrom pending text with
  | case1 => simp
  | case2 pending =>
      intro line member c inside
      rw [List.mem_singleton.mp member, List.mem_reverse] at inside
      exact .inl inside
  | case3 pending rest ih =>
      intro line member c inside
      rcases List.mem_cons.mp member with rfl | later
      · exact .inl (mem_of_mem_dropReturn (List.mem_reverse.mp inside))
      · rcases ih line later c inside with before | ⟨behind, other⟩
        · cases before
        · exact .inr ⟨List.mem_cons_of_mem _ behind, other⟩
  | case4 pending d rest notEnd ih =>
      intro line member c inside
      rcases ih line member c inside with before | ⟨behind, other⟩
      · rcases List.mem_cons.mp before with rfl | before
        · exact .inr ⟨List.mem_cons_self, notEnd⟩
        · exact .inl before
      · exact .inr ⟨List.mem_cons_of_mem _ behind, other⟩

theorem mem_of_mem_lines {line : String} (member : line ∈ lines s) (inside : c ∈ line.toList) :
    c ∈ s.toList ∧ c ≠ '\n' := by
  obtain ⟨chars, listed, rfl⟩ := List.mem_map.mp member
  rw [String.toList_ofList] at inside
  exact (mem_of_mem_linesFrom chars listed c inside).resolve_left List.not_mem_nil

/-- No line of a text holds a line feed. -/
theorem feed_not_mem_lines {line : String} (member : line ∈ lines s) : '\n' ∉ line.toList :=
  fun inside => (mem_of_mem_lines member inside).2 rfl

theorem linesFrom_ne_nil (something : pending ≠ [] ∨ text ≠ []) : linesFrom pending text ≠ [] := by
  fun_induction linesFrom pending text with
  | case1 => simp at something
  | case2 pending => exact List.cons_ne_nil _ _
  | case3 pending rest ih => exact List.cons_ne_nil _ _
  | case4 pending d rest notEnd ih => exact ih (.inl (List.cons_ne_nil _ _))

theorem lines_ne_nil (something : s ≠ "") : lines s ≠ [] := by
  rw [lines, ne_eq, List.map_eq_nil_iff]
  refine linesFrom_ne_nil (.inr fun empty => something ?_)
  exact String.toList_inj.mp empty

/-! ### Lines as an engine reads them -/

/-- A character in front of the first of some lines. -/
def consLine (c : Char) : List (List Char) → List (List Char)
  | [] => [[c]]
  | line :: lines => (c :: line) :: lines

/-- The lines of a text as an engine reads them. A line feed ends a line. Whether a carriage return
does so too, alone or with a line feed behind it, is said by `returns`. -/
def readLines (returns : Bool) : List Char → List (List Char)
  | [] => []
  | '\r' :: '\n' :: rest => (if returns then [] else ['\r']) :: readLines returns rest
  | c :: rest =>
    if c = '\n' ∨ returns = true ∧ c = '\r' then [] :: readLines returns rest
    else consLine c (readLines returns rest)

variable {returns : Bool}

@[simp] theorem readLines_nil (returns : Bool) : readLines returns [] = [] := rfl

@[simp] theorem tail_consLine (c : Char) (lines : List (List Char)) :
    (consLine c lines).tail = lines.tail := by
  cases lines <;> rfl

theorem consLine_append {first : List (List Char)} (filled : first ≠ [])
    (second : List (List Char)) : consLine c (first ++ second) = consLine c first ++ second := by
  obtain ⟨line, lines, rfl⟩ := List.exists_cons_of_ne_nil filled
  rfl

/-- The character in front is read on its own, unless it is a carriage return before a feed. -/
theorem readLines_cons {rest : List Char} (apart : c = '\r' → rest.head? ≠ some '\n') :
    readLines returns (c :: rest) =
      if c = '\n' ∨ returns = true ∧ c = '\r' then [] :: readLines returns rest
      else consLine c (readLines returns rest) := by
  rw [readLines]
  rintro _ same rfl
  exact apart same rfl

@[simp] theorem readLines_feed (returns : Bool) (rest : List Char) :
    readLines returns ('\n' :: rest) = [] :: readLines returns rest := by
  rw [readLines_cons fun same => absurd same (by decide), if_pos (.inl rfl)]

/-- A character that ends no line stands in the first line of what follows it. -/
theorem readLines_cons_of_ne {rest : List Char} (feed : c ≠ '\n') (ret : c ≠ '\r') :
    readLines returns (c :: rest) = consLine c (readLines returns rest) := by
  rw [readLines_cons fun same => absurd same ret, if_neg]
  rintro (same | ⟨-, same⟩)
  · exact feed same
  · exact ret same

theorem readLines_ne_nil (something : text ≠ []) : readLines returns text ≠ [] := by
  fun_cases readLines returns text with
  | case1 => contradiction
  | case2 => exact List.cons_ne_nil _ _
  | case3 => exact List.cons_ne_nil _ _
  | case4 => cases readLines returns _ <;> exact List.cons_ne_nil _ _

/-! ### Texts with a feed between them -/

/-- A text whose last line is begun and not ended by a line feed. -/
def IsUnended (text : List Char) : Prop := ∃ last ∈ text.getLast?, last ≠ '\n'

theorem IsUnended.ne_nil (unended : IsUnended text) : text ≠ [] := by
  rintro rfl
  obtain ⟨last, ⟨⟩, _⟩ := unended

theorem isUnended_cons (filled : text ≠ []) : IsUnended (c :: text) ↔ IsUnended text := by
  obtain ⟨d, rest, rfl⟩ := List.exists_cons_of_ne_nil filled
  rw [IsUnended, IsUnended, List.getLast?_cons_cons]

theorem isUnended_singleton : IsUnended [c] ↔ c ≠ '\n' := by
  simp [IsUnended]

theorem isUnended_of_not_mem (filled : text ≠ []) (clear : '\n' ∉ text) : IsUnended text := by
  refine ⟨text.getLast filled, List.getLast?_eq_some_getLast filled, ?_⟩
  intro feed
  exact clear (feed ▸ List.getLast_mem filled)

theorem IsUnended.append_left (unended : IsUnended text) (front : List Char) :
    IsUnended (front ++ text) := by
  obtain ⟨last, found, other⟩ := unended
  exact ⟨last, by simp [List.getLast?_append, Option.mem_def.mp found], other⟩

/-- Texts that are left open are left open together. -/
theorem IsUnended.append_flatMap (unended : IsUnended text) {parts : List (List Char)}
    (others : ∀ part ∈ parts, IsUnended part) :
    IsUnended (text ++ parts.flatMap ('\n' :: ·)) := by
  induction parts generalizing text with
  | nil => rwa [List.flatMap_nil, List.append_nil]
  | cons part rest ih =>
      obtain ⟨next, later⟩ := List.forall_mem_cons.mp others
      rw [List.flatMap_cons, List.cons_append, ← List.singleton_append]
      exact ((ih next later).append_left _).append_left _

/-- A carriage return in front of a feed ends the same line, any other character stands in it. -/
theorem readLines_singleton_append (other : c ≠ '\n') (next : ∀ d ∈ ending.head?, d = '\n') :
    readLines returns (c :: ending) =
      readLines returns [c] ++ (readLines returns ending).tail := by
  cases ending with
  | nil => simp
  | cons d rest =>
      obtain rfl : d = '\n' := next d rfl
      by_cases ret : c = '\r'
      · subst ret
        cases returns <;> rfl
      · rw [readLines_cons_of_ne other ret, readLines_cons_of_ne other ret, readLines_feed]
        rfl

/-- Where a text stops without a line feed and one follows, the lines before and behind it are read
on their own: a carriage return at the end of the text joins the feed, whether or not it ends lines
itself. -/
theorem readLines_append (unended : IsUnended text) (next : ∀ d ∈ ending.head?, d = '\n') :
    readLines returns (text ++ ending) =
      readLines returns text ++ (readLines returns ending).tail := by
  induction text with
  | nil => exact absurd rfl unended.ne_nil
  | cons c text ih =>
      cases text with
      | nil => exact readLines_singleton_append (isUnended_singleton.mp unended) next
      | cons d text =>
          specialize ih ((isUnended_cons (List.cons_ne_nil d text)).mp unended)
          by_cases pair : c = '\r' ∧ d = '\n'
          · obtain ⟨rfl, rfl⟩ := pair
            rw [List.cons_append, readLines_feed, readLines_feed, List.cons_append] at ih
            rw [List.cons_append, List.cons_append, readLines, readLines, List.cons_append,
              (List.cons_inj_right _).mp ih]
          · have apart : ∀ tail, c = '\r' → (d :: tail).head? ≠ some '\n' :=
              fun tail ret feed => pair ⟨ret, Option.some_inj.mp feed⟩
            rw [List.cons_append, readLines_cons (apart text), List.cons_append,
              readLines_cons (apart _), ← List.cons_append, ih]
            split
            · rfl
            · exact consLine_append (readLines_ne_nil (List.cons_ne_nil d text)) _

/-- Texts that are left open, with a feed in front of each but the first, are read one after the
other. -/
theorem readLines_append_flatMap (unended : IsUnended text) {parts : List (List Char)}
    (others : ∀ part ∈ parts, IsUnended part) :
    readLines returns (text ++ parts.flatMap ('\n' :: ·)) =
      readLines returns text ++ parts.flatMap (readLines returns) := by
  induction parts generalizing text with
  | nil => simp
  | cons part rest ih =>
      obtain ⟨next, later⟩ := List.forall_mem_cons.mp others
      rw [List.flatMap_cons, List.flatMap_cons, List.cons_append,
        readLines_append unended (by simp), readLines_feed, List.tail_cons, ih next later]

/-! ### Marked lines -/

/-- A text that stands within a line, so that lines can be told by it. -/
structure IsMark (mark : List Char) : Prop where
  filled : mark ≠ []
  feed : '\n' ∉ mark
  ret : '\r' ∉ mark

variable {mark : List Char}

/-- A mark in front of a text makes the first line longer. -/
theorem IsMark.readLines_append (isMark : IsMark mark) (returns : Bool) (text : List Char) :
    ∃ first,
      readLines returns (mark ++ text) = (mark ++ first) :: (readLines returns text).tail := by
  obtain ⟨filled, feed, ret⟩ := isMark
  induction mark with
  | nil => exact absurd rfl filled
  | cons c rest ih =>
      rw [List.cons_append, readLines_cons_of_ne (List.ne_of_not_mem_cons feed).symm
        (List.ne_of_not_mem_cons ret).symm]
      by_cases last : rest = []
      · subst last
        rw [List.nil_append]
        cases readLines returns text with
        | nil => exact ⟨[], rfl⟩
        | cons first lines => exact ⟨first, rfl⟩
      · obtain ⟨first, split⟩ := ih last (List.not_mem_of_not_mem_cons feed)
          (List.not_mem_of_not_mem_cons ret)
        rw [split]
        exact ⟨first, rfl⟩

/-- The first line stands at the front of the text. -/
theorem isPrefix_of_mem_head?_readLines :
    ∀ line ∈ (readLines returns text).head?, line <+: text := by
  fun_induction readLines returns text with
  | case1 => rintro _ ⟨⟩
  | case2 rest ih =>
      rintro _ ⟨⟩
      cases returns
      · exact ⟨'\n' :: rest, rfl⟩
      · exact List.nil_prefix
  | case3 c rest apart ends ih =>
      rintro _ ⟨⟩
      exact List.nil_prefix
  | case4 c rest apart stays ih =>
      intro line first
      revert first
      cases found : readLines returns rest with
      | nil =>
          rintro ⟨⟩
          exact ⟨rest, rfl⟩
      | cons line lines =>
          rintro ⟨⟩
          exact List.cons_prefix_cons.mpr ⟨rfl, ih line (by rw [found]; rfl)⟩

/-- All lines begin with the mark if the text does so and all lines but the first. -/
theorem IsMark.forall_readLines_iff (isMark : IsMark mark) :
    (∀ line ∈ readLines returns text, mark <+: line) ↔
      (text = [] ∨ mark <+: text) ∧ ∀ line ∈ (readLines returns text).tail, mark <+: line := by
  constructor
  · intro all
    refine ⟨?_, fun line later => all line (List.mem_of_mem_tail later)⟩
    by_cases empty : text = []
    · exact .inl empty
    · obtain ⟨first, lines, found⟩ := List.exists_cons_of_ne_nil (readLines_ne_nil empty)
      have front := isPrefix_of_mem_head?_readLines first (by rw [found]; rfl)
      exact .inr ((all first (found ▸ List.mem_cons_self)).trans front)
  · rintro ⟨rfl | ⟨rest, rfl⟩, others⟩
    · rintro _ ⟨⟩
    · obtain ⟨first, split⟩ := isMark.readLines_append returns rest
      rw [split] at others ⊢
      exact List.forall_mem_cons.mpr ⟨List.prefix_append mark first, others⟩

/-- For an engine that does not count carriage returns, a text without feeds is a single line. -/
theorem tail_readLines_false (clear : '\n' ∉ text) : (readLines false text).tail = [] := by
  induction text with
  | nil => rfl
  | cons c rest ih =>
      have apart : rest.head? ≠ some '\n' := fun first =>
        clear (List.mem_cons_of_mem c (List.mem_of_mem_head? first))
      rw [readLines_cons fun _ => apart, if_neg (by simp [(List.ne_of_not_mem_cons clear).symm]),
        tail_consLine]
      exact ih (List.not_mem_of_not_mem_cons clear)

/-- For an engine that counts carriage returns, the further lines of a text without feeds stand
behind its carriage returns: they begin with a mark exactly if it stands behind every carriage
return that has something behind it. -/
theorem IsMark.forall_tail_readLines_true_iff (isMark : IsMark mark) (clear : '\n' ∉ text) :
    (∀ line ∈ (readLines true text).tail, mark <+: line) ↔
      ∀ behind, '\r' :: behind <:+ text → behind = [] ∨ mark <+: behind := by
  induction text with
  | nil => simp
  | cons c rest ih =>
      have apart : rest.head? ≠ some '\n' := fun first =>
        clear (List.mem_cons_of_mem c (List.mem_of_mem_head? first))
      specialize ih (List.not_mem_of_not_mem_cons clear)
      rw [readLines_cons fun _ => apart]
      by_cases lone : c = '\r'
      · subst lone
        rw [if_pos (.inr ⟨rfl, rfl⟩), List.tail_cons, isMark.forall_readLines_iff, ih]
        simp only [List.suffix_cons_iff, List.cons.injEq, true_and]
        constructor
        · rintro ⟨first, others⟩ behind (rfl | inner)
          · exact first
          · exact others behind inner
        · intro all
          exact ⟨all rest (.inl rfl), fun behind inner => all behind (.inr inner)⟩
      · have other : ¬ (c = '\n' ∨ true = true ∧ c = '\r') := by
          simp [lone, (List.ne_of_not_mem_cons clear).symm]
        rw [if_neg other, tail_consLine, ih]
        simp only [List.suffix_cons_iff, List.cons.injEq, Ne.symm lone, false_and, false_or]

end EntityDiagram.Text
