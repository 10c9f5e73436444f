/-!
# Blank characters

A character is blank if it has the Unicode property `White_Space`. Names and settings are
compared after the blanks at both ends are dropped, and a comment that is all blank counts as
absent.
-/

namespace EntityDiagram.Text

/-- Spans of the code points with the property `White_Space`. -/
def blankSpans : List (Nat × Nat) :=
  [(0x09, 0x0D), (0x20, 0x20), (0x85, 0x85), (0xA0, 0xA0), (0x1680, 0x1680), (0x2000, 0x200A),
    (0x2028, 0x2029), (0x202F, 0x202F), (0x205F, 0x205F), (0x3000, 0x3000)]

/-- Whether a code point lies in one of the given spans, ends included. -/
def inSpans (spans : List (Nat × Nat)) (code : Nat) : Bool :=
  spans.any fun span => span.1 ≤ code && code ≤ span.2

/-- Whether a character is white space. -/
def isBlank (c : Char) : Bool := inSpans blankSpans c.toNat

/-- A list of characters without the blanks in front. -/
def trimStart (cs : List Char) : List Char := cs.dropWhile isBlank

/-- A list of characters without the blanks at its end. -/
def trimEnd (cs : List Char) : List Char := (cs.reverse.dropWhile isBlank).reverse

/-- A list of characters without the blanks at both ends. -/
def trimChars (cs : List Char) : List Char := trimEnd (trimStart cs)

/-- A text without the blanks at both ends. -/
def trim (s : String) : String := String.ofList (trimChars s.toList)

/-- Whether a text holds nothing but blanks. -/
def isAllBlank (s : String) : Bool := s.toList.all isBlank

/-- A text that is there and holds something, trimmed; an absent or all-blank one is `none`. -/
def nonBlank? (s : Option String) : Option String :=
  (s.map trim).filter fun t => !t.isEmpty

@[simp] theorem toList_trim (s : String) : (trim s).toList = trimChars s.toList := by
  simp [trim]

/-! ### What trimming leaves -/

theorem dropWhile_isBlank_eq_nil_iff {cs : List Char} :
    cs.dropWhile isBlank = [] ↔ ∀ c ∈ cs, isBlank c = true := by
  induction cs with
  | nil => simp
  | cons c cs ih => cases blank : isBlank c <;> simp [blank, ih]

/-- Nothing is left of a text exactly if it is all blank. -/
theorem trim_eq_empty_iff {s : String} : trim s = "" ↔ isAllBlank s = true := by
  rw [trim, String.ofList_eq_empty_iff, trimChars, trimEnd, List.reverse_eq_nil_iff,
    dropWhile_isBlank_eq_nil_iff, isAllBlank, List.all_eq_true]
  constructor
  · intro blank c member
    rw [← List.takeWhile_append_dropWhile (p := isBlank) (l := s.toList),
      List.mem_append] at member
    rcases member with front | rest
    · exact List.all_eq_true.mp List.all_takeWhile c front
    · exact blank c (List.mem_reverse.mpr rest)
  · intro blank c member
    have nothing : trimStart s.toList = [] := dropWhile_isBlank_eq_nil_iff.mpr blank
    simp [nothing] at member

@[simp] theorem nonBlank?_none : nonBlank? none = none := rfl

theorem nonBlank?_some (text : String) :
    nonBlank? (some text) = if isAllBlank text then none else some (trim text) := by
  have solid : (!(trim text).isEmpty) = !isAllBlank text := by
    rw [Bool.not_inj_iff, Bool.eq_iff_iff, String.isEmpty_iff, trim_eq_empty_iff]
  rw [nonBlank?, Option.map_some]
  cases blank : isAllBlank text <;> simp [Option.filter, solid, blank]

/-- Nothing counts as given exactly if there is no text or an all-blank one. -/
theorem nonBlank?_eq_none_iff {s : Option String} :
    nonBlank? s = none ↔ ∀ text ∈ s, isAllBlank text = true := by
  cases s <;> simp [nonBlank?_some]

/-- What counts as given is a text with something in it, without the blanks at both ends. -/
theorem nonBlank?_eq_some_iff {s : Option String} {t : String} :
    nonBlank? s = some t ↔ ∃ text ∈ s, isAllBlank text = false ∧ trim text = t := by
  cases s <;> simp [nonBlank?_some]

end EntityDiagram.Text
