import EntityDiagram.Proofs.Identifier.Sanitizing

/-!
# What sanitizing keeps

Sanitizing is a repair and should not do more than it has to. Every letter of a text is kept, in
order, by every pass but the cut, and whether there is a letter is asked before the cut; so nothing
comes out exactly of a text without letters. A name with no other fault than being a reserved word
comes out as it is, without the blanks around it, and no other text does.
-/

namespace EntityDiagram

namespace Text

theorem trimChars_prefix_trimStart (cs : List Char) : trimChars cs <+: trimStart cs :=
  List.rdropWhile_prefix _ _

theorem trimChars_trimChars (cs : List Char) : trimChars (trimChars cs) = trimChars cs := by
  have start : trimStart (trimChars cs) = trimChars cs := by
    obtain ⟨rest, split⟩ := trimChars_prefix_trimStart cs
    refine List.dropWhile_eq_self_iff.mpr fun nonempty => ?_
    have solid := List.head?_dropWhile_not isBlank cs
    rw [← trimStart, ← split, List.head?_append_of_ne_nil _ (List.ne_nil_of_length_pos nonempty),
      List.head?_eq_getElem?, List.getElem?_eq_getElem nonempty] at solid
    exact Bool.eq_false_iff.mp solid
  rw [trimChars, start]
  exact List.rdropWhile_idempotent isBlank _

end Text

namespace Identifier

variable {cs : List Char} {name s : String}

/-! ### Letters -/

/-- Dropping characters of one class in front keeps those of a class apart from it. -/
theorem filter_dropWhile {p q : Char → Bool} (apart : ∀ c, q c = true → p c = false)
    (cs : List Char) : (cs.dropWhile q).filter p = cs.filter p := by
  have dropped : (cs.takeWhile q).filter p = [] :=
    List.filter_eq_nil_iff.mpr fun c member =>
      Bool.eq_false_iff.mp (apart c (List.mem_takeWhile_imp member))
  calc
    (cs.dropWhile q).filter p = (cs.takeWhile q).filter p ++ (cs.dropWhile q).filter p := by
      rw [dropped, List.nil_append]
    _ = cs.filter p := by rw [← List.filter_append, List.takeWhile_append_dropWhile]

theorem filter_rdropWhile {p q : Char → Bool} (apart : ∀ c, q c = true → p c = false)
    (cs : List Char) : (cs.rdropWhile q).filter p = cs.filter p := by
  rw [List.rdropWhile, List.filter_reverse, filter_dropWhile apart, List.filter_reverse,
    List.reverse_reverse]

theorem isNameChar_of_isAlpha {c : Char} (letter : c.isAlpha = true) : isNameChar c = true := by
  rw [isNameChar, Char.isAlphanum, letter]
  rfl

theorem isNameChar_of_isDigit {c : Char} (digit : c.isDigit = true) : isNameChar c = true := by
  rw [isNameChar, Char.isAlphanum, digit, Bool.or_true]
  rfl

theorem isAlpha_of_isDigit {c : Char} (digit : c.isDigit = true) : c.isAlpha = false :=
  Text.forall_ascii (p := fun c => c.isDigit = true → c.isAlpha = false) (by decide)
    (ascii_of_isNameChar (isNameChar_of_isDigit digit)) digit

theorem isAlpha_of_isBlank {c : Char} (blank : Text.isBlank c = true) : c.isAlpha = false := by
  by_contra letter
  have solid := isBlank_of_isNameChar (isNameChar_of_isAlpha (Bool.not_eq_false _ ▸ letter))
  exact absurd blank (Bool.eq_false_iff.mp solid)

theorem isAlpha_of_underscore {c : Char} (underscore : (c == '_') = true) :
    c.isAlpha = false := by
  rw [beq_iff_eq.mp underscore]
  rfl

theorem letters_trimChars (cs : List Char) :
    (Text.trimChars cs).filter Char.isAlpha = cs.filter Char.isAlpha :=
  (filter_rdropWhile (fun _ => isAlpha_of_isBlank) _).trans
    (filter_dropWhile (fun _ => isAlpha_of_isBlank) cs)

theorem letters_mergeUnderscores (cs : List Char) :
    (mergeUnderscores cs).filter Char.isAlpha = cs.filter Char.isAlpha := by
  fun_induction mergeUnderscores cs with
  | case1 rest ih => exact ih
  | case2 c rest _ ih => rw [List.filter_cons, List.filter_cons, ih]
  | case3 => rfl

theorem letters_stripUnderscores (cs : List Char) :
    (stripUnderscores cs).filter Char.isAlpha = cs.filter Char.isAlpha :=
  (filter_rdropWhile (fun _ => isAlpha_of_underscore) _).trans
    (filter_dropWhile (fun _ => isAlpha_of_underscore) cs)

theorem letters_tidied (cs : List Char) :
    (tidied cs).filter Char.isAlpha = cs.filter Char.isAlpha := by
  rw [tidied, letters_stripUnderscores, letters_mergeUnderscores,
    filter_dropWhile fun _ => isAlpha_of_isDigit]

/-- A character is kept as a letter exactly if it is one. -/
theorem filter_isAlpha_portableChar? (c : Char) :
    (portableChar? c).filter Char.isAlpha = Option.guard Char.isAlpha c := by
  unfold portableChar?
  split
  · rfl
  · next forbidden =>
    have mark : ¬ c.isAlpha = true := mt isNameChar_of_isAlpha forbidden
    rw [Option.guard, if_neg mark]
    split <;> rfl

theorem letters_portableChars (name : String) :
    (portableChars name).filter Char.isAlpha = name.toList.filter Char.isAlpha := by
  calc
    (portableChars name).filter Char.isAlpha
        = (Text.trimChars name.toList).filterMap fun c =>
            (portableChar? c).filter Char.isAlpha := List.filter_filterMap ..
    _ = (Text.trimChars name.toList).filterMap (Option.guard Char.isAlpha) :=
        List.filterMap_congr fun c _ => filter_isAlpha_portableChar? c
    _ = (Text.trimChars name.toList).filter Char.isAlpha := by rw [List.filterMap_eq_filter]
    _ = name.toList.filter Char.isAlpha := letters_trimChars _

/-- Nothing comes out exactly of a text without letters. -/
theorem sanitize?_eq_none_iff :
    sanitize? name = none ↔ ∀ c ∈ name.toList, c.isAlpha = false := by
  have given : sanitize? name = none ↔
      (tidied (portableChars name)).filter Char.isAlpha = [] := by
    rw [List.filter_eq_nil_iff]
    constructor
    · intro nothing c member letter
      have made := sanitize?_eq_some_iff.mpr
        ⟨List.any_eq_true.mpr ⟨c, member, letter⟩, String.toList_ofList.symm⟩
      rw [nothing] at made
      cases made
    · intro without
      refine Option.eq_none_iff_forall_ne_some.mpr fun s made => ?_
      obtain ⟨c, member, letter⟩ := List.any_eq_true.mp (sanitize?_eq_some_iff.mp made).1
      exact without c member letter
  rw [given, letters_tidied, letters_portableChars, List.filter_eq_nil_iff]
  simp only [Bool.not_eq_true]

/-! ### Names left alone -/

@[simp] theorem portableChars_trim (name : String) :
    portableChars (Text.trim name) = portableChars name := by
  rw [portableChars, Text.toList_trim, Text.trimChars_trimChars, portableChars]

@[simp] theorem sanitize?_trim (name : String) : sanitize? (Text.trim name) = sanitize? name := by
  refine Option.ext fun s => ?_
  rw [sanitize?_eq_some_iff, portableChars_trim, sanitize?_eq_some_iff]

theorem errors_strict_of_ne_nil (solid : Text.trimChars name.toList ≠ []) :
    (validate name .strict).errors =
      formFaults (Text.trimChars name.toList) ++ reservedFaults (Text.trimChars name.toList) ++
        styleFaults (Text.trimChars name.toList) := by
  simp [validate, solid]

theorem reservedKeyword_not_mem (chars : List Char) (word : String) :
    .reservedKeyword word ∉ formFaults chars ++ styleFaults chars := by
  simp [formFaults, styleFaults, mem_faultIf]

/-- A text has no fault but that of being a reserved word exactly if it has faults neither of form
nor of style once it is trimmed. -/
theorem errors_strict_reserved_iff :
    (∀ fault ∈ (validate name .strict).errors, ∃ word, fault = .reservedKeyword word) ↔
      formFaults (Text.trimChars name.toList) = [] ∧
        styleFaults (Text.trimChars name.toList) = [] := by
  by_cases blank : Text.trimChars name.toList = []
  · have form : formFaults [] ≠ [] := by decide
    rw [validate_of_blank blank, blank]
    simp [form]
  · rw [errors_strict_of_ne_nil blank]
    constructor
    · intro reserved
      refine List.append_eq_nil_iff.mp (List.eq_nil_iff_forall_not_mem.mpr fun fault member => ?_)
      have found : fault ∈ formFaults (Text.trimChars name.toList) ++
          reservedFaults (Text.trimChars name.toList) ++
            styleFaults (Text.trimChars name.toList) :=
        (List.mem_append.mp member).elim
          (fun form => List.mem_append_left _ (List.mem_append_left _ form))
          fun style => List.mem_append_right _ style
      obtain ⟨word, rfl⟩ := reserved fault found
      exact reservedKeyword_not_mem _ word member
    · rintro ⟨form, style⟩ fault member
      rw [form, style, List.nil_append, List.append_nil] at member
      exact ⟨_, (mem_faultIf.mp member).2⟩

/-- Sanitizing does no more than it has to. A text comes out as it is, without the blanks around it,
exactly if the strictest judgement finds no fault but that of being a reserved word; nothing comes
out exactly if there is no letter to keep; and what comes out is short, holds name characters only,
and neither starts with an underscore nor has two in a row. -/
theorem sanitize?_conservative (name : String) :
    (sanitize? name = some (Text.trim name) ↔
        ∀ fault ∈ (validate name .strict).errors, ∃ word, fault = .reservedKeyword word) ∧
      (sanitize? name = none ↔ ∀ c ∈ name.toList, c.isAlpha = false) ∧
      ∀ s, sanitize? name = some s →
        ¬ ['_', '_'] <:+: s.toList ∧ s.toList.head? ≠ some '_' ∧
          (∀ c ∈ s.toList, isNameChar c = true) ∧ s.length ≤ maxIdentifierLength := by
  refine ⟨?_, sanitize?_eq_none_iff, fun s made => ⟨?_, head?_sanitized_ne made,
    isNameChar_sanitized made, length_sanitized_le made⟩⟩
  · rw [← sanitize?_trim, sanitize?_eq_self_iff, Text.toList_trim, errors_strict_reserved_iff]
  · rw [← hasDoubleUnderscore_eq_true_iff, hasDoubleUnderscore_sanitized made]
    exact Bool.false_ne_true

/-- A reserved word between blanks, a text of digits and separators, and one with underscores all
over. -/
theorem sanitize?_conservative_order :
    (validate " Order " .strict).errors = [.reservedKeyword "Order"] ∧
      sanitize? " Order " = some "Order" ∧
      (∀ c ∈ "1 - 2".toList, c.isAlpha = false) ∧ sanitize? "1 - 2" = none ∧
      sanitize? "__a  b__" = some "a_b" ∧ ¬ ['_', '_'] <:+: "a_b".toList ∧
      "a_b".toList.head? ≠ some '_' ∧ (∀ c ∈ "a_b".toList, isNameChar c = true) ∧
      "a_b".length ≤ maxIdentifierLength := by
  have trimmed : Text.trimChars " Order ".toList = "Order".toList := by decide
  have capitals : Text.upper (Text.trim "Order") = "ORDER" := by decide
  have reserved : isReserved "Order" = true := by
    rw [isReserved, capitals]
    decide
  have errors : (validate " Order " .strict).errors = [.reservedKeyword "Order"] := by
    rw [errors_strict_of_ne_nil (by rw [trimmed]; decide), trimmed, reservedFaults,
      String.ofList_toList, reserved]
    decide
  have kept : sanitize? " Order " = some "Order" :=
    (sanitize?_conservative " Order ").1.mpr fun fault member =>
      ⟨"Order", List.mem_singleton.mp (errors ▸ member)⟩
  have marks : ∀ c ∈ "1 - 2".toList, c.isAlpha = false := by
    have none : "1 - 2".toList.any Char.isAlpha = false := by decide
    exact fun c member => Bool.eq_false_iff.mpr (List.any_eq_false.mp none c member)
  have made : sanitize? "__a  b__" = some "a_b" := by decide
  exact ⟨errors, kept, marks, (sanitize?_conservative "1 - 2").2.1.mpr marks, made,
    (sanitize?_conservative "__a  b__").2.2 "a_b" made⟩

end Identifier

end EntityDiagram
