import EntityDiagram.Proofs.Identifier.Portable

/-!
# What sanitizing makes of a text

A text is sanitized in passes. The characters that a name may hold are kept, separators become
underscores, digits in front are dropped, runs of underscores are merged, underscores at both ends
are dropped, and the rest is cut to the longest length.

A text is left alone exactly if it is a portable name without faults of style. Whatever comes out
is not empty, is short and holds name characters only. The order of the passes leaves two gaps.
Digits in front are dropped before underscores are, so that a digit behind an underscore may come to
stand first. The cut is made last, so that it may leave an underscore at the end, or no letter.
-/

namespace EntityDiagram.Identifier

variable {cs : List Char}

/-! ### Runs of underscores -/

theorem hasDoubleUnderscore_cons (c : Char) (rest : List Char) :
    hasDoubleUnderscore (c :: rest) =
      (c == '_' && rest.head? == some '_' || hasDoubleUnderscore rest) := by
  by_cases both : c = '_' ∧ rest.head? = some '_'
  · obtain ⟨rfl, front⟩ := both
    obtain ⟨tail, rfl⟩ := List.head?_eq_some_iff.mp front
    rfl
  · rw [hasDoubleUnderscore]
    · have apart : (c == '_' && rest.head? == some '_') = false := by simpa using both
      rw [apart, Bool.false_or]
    · rintro tail rfl rfl
      exact both ⟨rfl, rfl⟩

theorem hasDoubleUnderscore_eq_true_iff :
    hasDoubleUnderscore cs = true ↔ ['_', '_'] <:+: cs := by
  induction cs with
  | nil => simp [hasDoubleUnderscore]
  | cons c rest ih =>
      have front : ['_', '_'] <+: c :: rest ↔ c = '_' ∧ rest.head? = some '_' := by
        rw [List.cons_prefix_cons, List.cons_prefix_iff, List.head?_eq_some_iff, eq_comm]
        simp
      rw [hasDoubleUnderscore_cons, List.infix_cons_iff, front, ← ih]
      simp

/-- A part of a text without double underscores has none. -/
theorem hasDoubleUnderscore_of_infix {part : List Char} (inside : part <:+: cs)
    (single : hasDoubleUnderscore cs = false) : hasDoubleUnderscore part = false := by
  rw [Bool.eq_false_iff, ne_eq, hasDoubleUnderscore_eq_true_iff] at single ⊢
  exact fun double => single (double.trans inside)

theorem mergeUnderscores_sublist (cs : List Char) : (mergeUnderscores cs).Sublist cs := by
  fun_induction mergeUnderscores cs with
  | case1 rest ih => exact ih.cons '_'
  | case2 c rest _ ih => exact ih.cons_cons c
  | case3 => exact .slnil

theorem head?_mergeUnderscores (cs : List Char) :
    (mergeUnderscores cs).head? = cs.head? := by
  fun_induction mergeUnderscores cs with
  | case1 rest ih => exact ih
  | case2 c rest _ ih => rfl
  | case3 => rfl

theorem hasDoubleUnderscore_mergeUnderscores (cs : List Char) :
    hasDoubleUnderscore (mergeUnderscores cs) = false := by
  fun_induction mergeUnderscores cs with
  | case1 rest ih => exact ih
  | case2 c rest apart ih =>
      have single : ¬(c = '_' ∧ rest.head? = some '_') := by
        rintro ⟨rfl, front⟩
        obtain ⟨tail, rfl⟩ := List.head?_eq_some_iff.mp front
        exact apart tail rfl rfl
      simpa [hasDoubleUnderscore_cons, head?_mergeUnderscores, ih] using single
  | case3 => rfl

theorem mergeUnderscores_eq_self_iff :
    mergeUnderscores cs = cs ↔ hasDoubleUnderscore cs = false := by
  constructor
  · intro same
    rw [← same]
    exact hasDoubleUnderscore_mergeUnderscores cs
  · intro single
    fun_induction mergeUnderscores cs with
    | case1 rest ih => exact absurd single Bool.noConfusion
    | case2 c rest _ ih =>
        rw [hasDoubleUnderscore_cons, Bool.or_eq_false_iff] at single
        rw [ih single.2]
    | case3 => rfl

/-! ### Characters dropped at the ends -/

theorem dropWhile_eq_self_iff_head? {p : Char → Bool} :
    cs.dropWhile p = cs ↔ cs.head?.any p = false := by
  cases cs with
  | nil => simp
  | cons c rest => simp [List.dropWhile_eq_self_iff]

theorem rdropWhile_eq_self_iff_getLast? {p : Char → Bool} :
    cs.rdropWhile p = cs ↔ cs.getLast?.any p = false := by
  rw [List.rdropWhile, List.reverse_eq_iff, dropWhile_eq_self_iff_head?, List.head?_reverse]

theorem any_underscore_eq_false_iff {edge : Option Char} :
    edge.any (· == '_') = false ↔ edge ≠ some '_' := by
  cases edge <;> simp

theorem stripUnderscores_prefix_dropWhile (cs : List Char) :
    stripUnderscores cs <+: cs.dropWhile (· == '_') := List.rdropWhile_prefix _ _

theorem stripUnderscores_infix_self (cs : List Char) : stripUnderscores cs <:+: cs :=
  (stripUnderscores_prefix_dropWhile cs).isInfix.trans (List.dropWhile_suffix _).isInfix

/-- What stands first behind the underscores in front still stands first when they are dropped. -/
theorem head?_stripUnderscores (nonempty : stripUnderscores cs ≠ []) :
    (stripUnderscores cs).head? = (cs.dropWhile (· == '_')).head? := by
  obtain ⟨rest, split⟩ := stripUnderscores_prefix_dropWhile cs
  rw [← split, List.head?_append_of_ne_nil _ nonempty]

theorem head?_stripUnderscores_ne (cs : List Char) : (stripUnderscores cs).head? ≠ some '_' := by
  intro front
  have nonempty : stripUnderscores cs ≠ [] := List.ne_nil_of_mem (List.mem_of_head? front)
  rw [head?_stripUnderscores nonempty] at front
  have solid := List.head?_dropWhile_not (· == '_') cs
  rw [front] at solid
  exact absurd solid (by decide)

theorem getLast?_stripUnderscores_ne (cs : List Char) :
    (stripUnderscores cs).getLast? ≠ some '_' := by
  intro ending
  have nonempty : stripUnderscores cs ≠ [] := List.ne_nil_of_mem (List.mem_of_getLast? ending)
  refine List.rdropWhile_last_not (· == '_') (cs.dropWhile (· == '_')) nonempty ?_
  rw [List.getLast?_eq_some_getLast nonempty, Option.some_inj] at ending
  exact beq_iff_eq.mpr ending

theorem stripUnderscores_eq_self_iff :
    stripUnderscores cs = cs ↔ cs.head? ≠ some '_' ∧ cs.getLast? ≠ some '_' := by
  constructor
  · intro same
    exact ⟨same ▸ head?_stripUnderscores_ne cs, same ▸ getLast?_stripUnderscores_ne cs⟩
  · rintro ⟨front, ending⟩
    have start : cs.dropWhile (· == '_') = cs := by
      rwa [dropWhile_eq_self_iff_head?, any_underscore_eq_false_iff]
    have rest : cs.rdropWhile (· == '_') = cs := by
      rwa [rdropWhile_eq_self_iff_getLast?, any_underscore_eq_false_iff]
    exact (congrArg (List.rdropWhile (· == '_')) start).trans rest

/-- Merging underscores does not change what stands behind the first run of them. -/
theorem head?_dropWhile_mergeUnderscores (cs : List Char) :
    ((mergeUnderscores cs).dropWhile (· == '_')).head? = (cs.dropWhile (· == '_')).head? := by
  fun_induction mergeUnderscores cs with
  | case1 rest ih => exact ih
  | case2 c rest _ ih =>
      rw [List.dropWhile_cons, List.dropWhile_cons]
      split
      · exact ih
      · rfl
  | case3 => rfl

/-! ### The passes -/

/-- What of a text may stand in a name, separators turned into underscores. -/
def portableChars (name : String) : List Char :=
  (Text.trimChars name.toList).filterMap portableChar?

/-- Characters without digits in front, runs of underscores, and underscores at the ends. -/
def tidied (cs : List Char) : List Char :=
  stripUnderscores (mergeUnderscores (cs.dropWhile Char.isDigit))

variable {name s : String}

theorem sanitize?_eq_some_iff :
    sanitize? name = some s ↔ (tidied (portableChars name)).any Char.isAlpha = true ∧
      (tidied (portableChars name)).take maxIdentifierLength = s.toList := by
  have shape : sanitize? name =
      if (tidied (portableChars name)).any Char.isAlpha then
        some (String.ofList ((tidied (portableChars name)).take maxIdentifierLength))
      else none := rfl
  rw [shape, Option.ite_none_right_eq_some, Option.some_inj, ← String.toList_inj,
    String.toList_ofList]

theorem isNameChar_of_mem_portableChars {c : Char} (member : c ∈ portableChars name) :
    isNameChar c = true := by
  obtain ⟨original, -, image⟩ := List.mem_filterMap.mp member
  unfold portableChar? at image
  split at image
  next allowed => exact Option.some_inj.mp image ▸ allowed
  next =>
    split at image
    · exact Option.some_inj.mp image ▸ rfl
    · cases image

/-- A text of name characters is passed on as it is. -/
theorem portableChars_eq_toList (allowed : ∀ c ∈ name.toList, isNameChar c = true) :
    portableChars name = name.toList := by
  have solid : ∀ c ∈ name.toList, Text.isBlank c = false :=
    fun c member => isBlank_of_isNameChar (allowed c member)
  rw [portableChars, Text.trimChars_eq_self solid]
  calc
    name.toList.filterMap portableChar? = name.toList.filterMap some :=
      List.filterMap_congr fun c member => if_pos (allowed c member)
    _ = name.toList := List.filterMap_some

theorem tidied_sublist (cs : List Char) : (tidied cs).Sublist cs :=
  (stripUnderscores_infix_self _).sublist.trans
    ((mergeUnderscores_sublist _).trans (List.dropWhile_sublist _))

theorem hasDoubleUnderscore_tidied (cs : List Char) : hasDoubleUnderscore (tidied cs) = false :=
  hasDoubleUnderscore_of_infix (stripUnderscores_infix_self _)
    (hasDoubleUnderscore_mergeUnderscores _)

/-- Characters that no pass changes: no digit in front, no run of underscores, and no underscore at
an end. -/
theorem tidied_eq_self_iff :
    tidied cs = cs ↔ cs.head?.any Char.isDigit = false ∧ styleFaults cs = [] := by
  rw [styleFaults_eq_nil_iff]
  constructor
  · intro same
    have rest : (tidied cs).Sublist (cs.dropWhile Char.isDigit) :=
      (stripUnderscores_infix_self _).sublist.trans (mergeUnderscores_sublist _)
    rw [same] at rest
    have start : cs.dropWhile Char.isDigit = cs := (List.dropWhile_sublist _).antisymm rest
    exact ⟨dropWhile_eq_self_iff_head?.mp start, same ▸ head?_stripUnderscores_ne _,
      same ▸ getLast?_stripUnderscores_ne _, same ▸ hasDoubleUnderscore_tidied cs⟩
  · rintro ⟨digit, front, ending, single⟩
    rw [tidied, dropWhile_eq_self_iff_head?.mpr digit, mergeUnderscores_eq_self_iff.mpr single,
      stripUnderscores_eq_self_iff.mpr ⟨front, ending⟩]

/-! ### What comes out -/

section Sanitized

variable (made : sanitize? name = some s)
include made

theorem toList_sanitized : (tidied (portableChars name)).take maxIdentifierLength = s.toList :=
  (sanitize?_eq_some_iff.mp made).2

theorem isNameChar_sanitized : ∀ c ∈ s.toList, isNameChar c = true := by
  intro c member
  rw [← toList_sanitized made] at member
  exact isNameChar_of_mem_portableChars ((tidied_sublist _).mem (List.mem_of_mem_take member))

theorem length_sanitized_le : s.length ≤ maxIdentifierLength := by
  rw [← String.length_toList, ← toList_sanitized made]
  exact List.length_take_le _ _

theorem tidied_ne_nil : tidied (portableChars name) ≠ [] := by
  intro empty
  have letter := (sanitize?_eq_some_iff.mp made).1
  rw [empty] at letter
  exact absurd letter (by decide)

theorem sanitized_prefix_tidied : s.toList <+: tidied (portableChars name) :=
  toList_sanitized made ▸ List.take_prefix _ _

/-- The cut does not change what stands first. -/
theorem head?_sanitized : s.toList.head? = (tidied (portableChars name)).head? := by
  rw [← toList_sanitized made, List.head?_take, if_neg (by decide)]

theorem head?_sanitized_ne : s.toList.head? ≠ some '_' := by
  rw [head?_sanitized made]
  exact head?_stripUnderscores_ne _

theorem sanitized_ne_nil : s.toList ≠ [] := by
  rw [ne_eq, ← List.head?_eq_none_iff, head?_sanitized made, List.head?_eq_none_iff]
  exact tidied_ne_nil made

theorem hasDoubleUnderscore_sanitized : hasDoubleUnderscore s.toList = false :=
  hasDoubleUnderscore_of_infix (sanitized_prefix_tidied made).isInfix (hasDoubleUnderscore_tidied _)

end Sanitized

/-- A text is left alone exactly if it has faults neither of form nor of style. -/
theorem sanitize?_eq_self_iff :
    sanitize? s = some s ↔ formFaults s.toList = [] ∧ styleFaults s.toList = [] := by
  constructor
  · intro made
    have allowed := isNameChar_sanitized made
    have whole := portableChars_eq_toList allowed
    obtain ⟨letter, -⟩ := sanitize?_eq_some_iff.mp made
    -- Every pass keeps a part of what it is given, so none can drop anything here.
    have kept := (sanitized_prefix_tidied made).sublist
    rw [whole] at letter kept
    have fixed : tidied s.toList = s.toList := (tidied_sublist _).antisymm kept
    obtain ⟨digit, style⟩ := tidied_eq_self_iff.mp fixed
    exact ⟨formFaults_eq_nil_iff.mpr ⟨length_sanitized_le made, allowed, digit, fixed ▸ letter⟩,
      style⟩
  · rintro ⟨form, style⟩
    obtain ⟨short, allowed, digit, letter⟩ := formFaults_eq_nil_iff.mp form
    rw [sanitize?_eq_some_iff, portableChars_eq_toList allowed,
      tidied_eq_self_iff.mpr ⟨digit, style⟩, List.take_of_length_le short]
    exact ⟨letter, rfl⟩

/-! ### Names that still open with a digit -/

/-- Whether a digit still stands first when digits and then underscores in front are dropped. -/
def opensWithNumber (name : String) : Bool :=
  (((portableChars name).dropWhile Char.isDigit).dropWhile (· == '_')).head?.any Char.isDigit

/-- A text opens with a number if its digits in front, if any, are followed by underscores and then
by another digit. -/
theorem opensWithNumber_iff :
    opensWithNumber name = true ↔ ∃ digits underscores digit rest,
      portableChars name = digits ++ (underscores ++ digit :: rest) ∧
        (∀ c ∈ digits, c.isDigit = true) ∧ underscores ≠ [] ∧ (∀ c ∈ underscores, c = '_') ∧
        digit.isDigit = true := by
  constructor
  · intro opens
    obtain ⟨digit, front, isDigit⟩ := (Option.any_eq_true _ _).mp opens
    obtain ⟨rest, shape⟩ := List.head?_eq_some_iff.mp front
    have split := List.takeWhile_append_dropWhile (p := (· == '_'))
      (l := (portableChars name).dropWhile Char.isDigit)
    refine ⟨(portableChars name).takeWhile Char.isDigit,
      ((portableChars name).dropWhile Char.isDigit).takeWhile (· == '_'), digit, rest,
      ?_, fun c => List.mem_takeWhile_imp, ?_, fun c member => ?_, isDigit⟩
    · rw [← shape, split, List.takeWhile_append_dropWhile]
    · intro absent
      -- Without underscores the digit would have been dropped with those before it.
      have solid := List.head?_dropWhile_not Char.isDigit (portableChars name)
      rw [← split, absent, List.nil_append, front] at solid
      exact absurd isDigit (Bool.eq_false_iff.mp solid)
    · exact beq_iff_eq.mp (List.mem_takeWhile_imp (p := (· == '_')) member)
  · rintro ⟨digits, underscores, digit, rest, shape, before, present, between, isDigit⟩
    have start : (underscores ++ digit :: rest).dropWhile Char.isDigit =
        underscores ++ digit :: rest := by
      rw [dropWhile_eq_self_iff_head?, List.head?_append_of_ne_nil _ present,
        List.head?_eq_some_head present, between _ (List.head_mem present)]
      rfl
    have solid : (digit == '_') = false := by
      rw [beq_eq_false_iff_ne]
      rintro rfl
      exact absurd isDigit (by decide)
    rw [opensWithNumber, shape, List.dropWhile_append_of_pos before, start,
      List.dropWhile_append_of_pos fun c member => beq_iff_eq.mpr (between c member),
      List.dropWhile_cons_of_neg (Bool.not_eq_true _ ▸ solid)]
    exact isDigit

section Sanitized

variable (made : sanitize? name = some s)
include made

theorem head?_any_isDigit_sanitized : s.toList.head?.any Char.isDigit = opensWithNumber name := by
  rw [head?_sanitized made, tidied, head?_stripUnderscores (tidied_ne_nil made),
    head?_dropWhile_mergeUnderscores]
  rfl

/-- A name that starts with neither an underscore nor a digit starts with a letter. -/
theorem any_isAlpha_sanitized (opens : opensWithNumber name = false) :
    s.toList.any Char.isAlpha = true := by
  have digit := head?_any_isDigit_sanitized made
  have solid := head?_sanitized_ne made
  have allowed := isNameChar_sanitized made
  obtain ⟨c, rest, shape⟩ := List.exists_cons_of_ne_nil (sanitized_ne_nil made)
  rw [shape, List.head?_cons] at digit solid
  rw [shape] at allowed
  have letter : c.isAlpha = true :=
    isAlpha_of_isNameChar (allowed c List.mem_cons_self) (digit.trans opens)
      fun same => solid (congrArg some same)
  rw [shape, List.any_cons, letter, Bool.true_or]

theorem formFaults_sanitized :
    formFaults s.toList =
      if opensWithNumber name then
        .startsWithDigit :: faultIf (!s.toList.any Char.isAlpha) .noLetters
      else [] := by
  rw [formFaults_of_isNameChar (length_sanitized_le made) (isNameChar_sanitized made),
    head?_any_isDigit_sanitized made]
  cases opens : opensWithNumber name with
  | false => rw [any_isAlpha_sanitized made opens]; rfl
  | true => rfl

end Sanitized

/-- What is made of a text is short and holds name characters only. It starts with a digit exactly
if the text opens with a number; then the cut may also have left no letter. Nothing else is wrong
with it. -/
theorem errors_sanitized (made : sanitize? name = some s) :
    s.toList ≠ [] ∧ s.length ≤ maxIdentifierLength ∧ (∀ c ∈ s.toList, isNameChar c = true) ∧
      (validate s .minimal).errors =
        if opensWithNumber name then
          .startsWithDigit :: faultIf (!s.toList.any Char.isAlpha) .noLetters
        else [] := by
  have solid : Text.trimChars s.toList = s.toList :=
    Text.trimChars_eq_self fun c member =>
      isBlank_of_isNameChar (isNameChar_sanitized made c member)
  refine ⟨sanitized_ne_nil made, length_sanitized_le made, isNameChar_sanitized made, ?_⟩
  rw [errors_minimal_of_ne_nil (solid.symm ▸ sanitized_ne_nil made), solid,
    formFaults_sanitized made]

theorem errors_sanitized_order_total :
    sanitize? "order.total" = some "order_total" ∧
      "order_total".toList ≠ [] ∧ "order_total".length ≤ maxIdentifierLength ∧
      (∀ c ∈ "order_total".toList, isNameChar c = true) ∧
      (validate "order_total" .minimal).errors = [] := by
  have made : sanitize? "order.total" = some "order_total" := by decide
  have opens : opensWithNumber "order.total" = false := by decide
  have facts := errors_sanitized made
  rw [opens, if_neg Bool.false_ne_true] at facts
  exact ⟨made, facts⟩

/-- A month behind a year comes to stand first, and zeros behind an underscore fill a name up to the
cut. -/
theorem errors_sanitized_month_and_zeros :
    let zeros := List.replicate maxIdentifierLength '0'
    sanitize? "2024-01 totals" = some "01_totals" ∧
      (validate "01_totals" .minimal).errors = [.startsWithDigit] ∧
      sanitize? (String.ofList ('_' :: zeros ++ ['a'])) = some (String.ofList zeros) ∧
      (validate (String.ofList zeros) .minimal).errors = [.startsWithDigit, .noLetters] := by
  decide +kernel

/-- What is made of a text is left alone from then on, unless a digit stands first in it or the cut
left an underscore at its end. -/
theorem sanitize?_sanitized_iff (made : sanitize? name = some s) :
    sanitize? s = some s ↔ opensWithNumber name = false ∧ s.toList.getLast? ≠ some '_' := by
  have form : formFaults s.toList = [] ↔ opensWithNumber name = false := by
    rw [formFaults_sanitized made]
    cases opensWithNumber name <;> simp
  have style : styleFaults s.toList = [] ↔ s.toList.getLast? ≠ some '_' := by
    rw [styleFaults_eq_nil_iff]
    exact ⟨fun faultless => faultless.2.1, fun ending =>
      ⟨head?_sanitized_ne made, ending, hasDoubleUnderscore_sanitized made⟩⟩
  rw [sanitize?_eq_self_iff, form, style]

theorem sanitize?_sanitized_iff_order_total :
    sanitize? "order.total" = some "order_total" ∧
      sanitize? "order_total" = some "order_total" := by
  have made : sanitize? "order.total" = some "order_total" := by decide
  have opens : opensWithNumber "order.total" = false := by decide
  have ending : "order_total".toList.getLast? ≠ some '_' := by decide
  exact ⟨made, (sanitize?_sanitized_iff made).mpr ⟨opens, ending⟩⟩

/-- The cut leaves an underscore at the end, which is dropped the next time. -/
theorem sanitize?_sanitized_cut :
    let long := List.replicate (maxIdentifierLength - 1) 'x'
    sanitize? (String.ofList (long ++ ['_', 'y'])) = some (String.ofList (long ++ ['_'])) ∧
      sanitize? (String.ofList (long ++ ['_'])) = some (String.ofList long) := by
  decide +kernel

end EntityDiagram.Identifier
