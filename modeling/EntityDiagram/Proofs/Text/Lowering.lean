import EntityDiagram.Proofs.Identifier.Keeping

/-!
# Lower case and blanks

Lowering a text makes no blank and drops none: each character becomes one or more, all of which are
blank exactly if it was. So a text has blanks at its ends in lower case exactly if it had some there
before. A text of blanks and ASCII characters is lowered character by character.
-/

namespace EntityDiagram.Text

variable {cs : List Char} {c x : Char} {s : String}

/-! ### Trimmed texts -/

theorem trimChars_eq_self_iff :
    trimChars cs = cs ↔ cs.head?.any isBlank = false ∧ cs.getLast?.any isBlank = false := by
  rw [← Identifier.dropWhile_eq_self_iff_head?, ← Identifier.rdropWhile_eq_self_iff_getLast?]
  constructor
  · intro trimmed
    have shorter : (trimChars cs).length ≤ (trimStart cs).length :=
      (trimChars_prefix_trimStart cs).length_le
    rw [trimmed] at shorter
    have start : trimStart cs = cs := (List.dropWhile_suffix isBlank).eq_of_length_le shorter
    refine ⟨start, ?_⟩
    rw [trimChars, start] at trimmed
    exact trimmed
  · rintro ⟨start, ending⟩
    rw [trimChars, trimStart, start]
    exact ending

theorem trim_eq_self_iff : trim s = s ↔ trimChars s.toList = s.toList := by
  rw [← String.toList_inj, toList_trim]

/-- A trimmed text has no blanks at its ends. -/
@[simp] theorem trim_trim (s : String) : trim (trim s) = trim s := by
  rw [trim_eq_self_iff, toList_trim, trimChars_trimChars]

/-! ### Single characters -/

theorem mem_range_of_inSpans {spans : List (Nat × Nat)} {code : Nat}
    (inside : inSpans spans code = true) :
    code ∈ spans.flatMap fun span => List.range' span.1 (span.2 + 1 - span.1) := by
  simp only [inSpans, List.any_eq_true, Bool.and_eq_true, decide_eq_true_eq] at inside
  obtain ⟨span, listed, first, last⟩ := inside
  exact List.mem_flatMap.mpr ⟨span, listed, List.mem_range'_1.mpr ⟨first, by omega⟩⟩

theorem lowerChar_of_isBlank {c : Char} (blank : isBlank c = true) :
    c ≠ 'Σ' ∧ lowerChar c = [c.toLower] := by
  have all : ∀ code ∈ blankSpans.flatMap fun span => List.range' span.1 (span.2 + 1 - span.1),
      Char.ofNat code ≠ 'Σ' ∧ lowerChar (Char.ofNat code) = [(Char.ofNat code).toLower] := by
    decide +kernel
  have fact := all c.toNat (mem_range_of_inSpans blank)
  rwa [Char.ofNat_toNat] at fact

theorem isBlank_toLower (c : Char) : isBlank c.toLower = isBlank c :=
  apply_toLower (f := isBlank) (by decide +kernel) c

/-- Whether no code point of a span is blank. -/
def isSolidSpan (first last : Nat) : Bool :=
  blankSpans.all fun span => last < span.1 || span.2 < first

theorem inSpans_of_isSolidSpan {first last code : Nat} (solid : isSolidSpan first last = true)
    (lower : first ≤ code) (upper : code ≤ last) : inSpans blankSpans code = false := by
  refine List.any_eq_false.mpr fun span member => ?_
  have apart := List.all_eq_true.mp solid span member
  simp only [Bool.or_eq_true, decide_eq_true_eq] at apart
  simp only [Bool.and_eq_true, decide_eq_true_eq]
  omega

/-- The character of a code point that is not blank is not blank, nor is the one that stands for a
code point without a character. -/
theorem isBlank_ofNat {code : Nat} (solid : inSpans blankSpans code = false) :
    isBlank (Char.ofNat code) = false := by
  by_cases valid : code.isValidChar
  · rw [Char.ofNat, dif_pos valid]
    exact solid
  · rw [Char.ofNat, dif_neg valid]
    rfl

theorem solid_lowerExpansions :
    ∀ entry ∈ CaseTable.lowerExpansions,
      entry.2 ≠ [] ∧ ∀ code ∈ entry.2, inSpans blankSpans code = false := by
  decide

set_option maxRecDepth 4000 in
theorem isSolidSpan_lowerRuns :
    ∀ run ∈ CaseTable.lowerRuns,
      isSolidSpan run.2.2.2 (run.2.2.2 + (run.2.1 - run.1)) = true := by
  decide

/-- The counterpart of a character is not blank. -/
theorem isBlank_of_shifted? {code : Nat} (found : shifted? CaseTable.lowerRuns code = some x) :
    isBlank x = false := by
  obtain ⟨⟨first, last, step, target⟩, within, rfl⟩ := Option.map_eq_some_iff.mp found
  have inside := List.find?_some within
  simp only [Bool.and_eq_true, decide_eq_true_eq] at inside
  have solid := isSolidSpan_lowerRuns _ (List.mem_of_find?_eq_some within)
  refine isBlank_ofNat (inSpans_of_isSolidSpan solid (Nat.le_add_right _ _) ?_)
  exact Nat.add_le_add_left (Nat.sub_le_sub_right inside.1.2 first) target

theorem lowerChar_ne_nil (c : Char) : lowerChar c ≠ [] := by
  unfold lowerChar
  split
  · exact List.cons_ne_nil _ _
  · rw [mapCase]
    split
    · next codes found =>
      obtain ⟨before, after, entries, -⟩ := List.lookup_eq_some_iff.mp found
      have listed : (c.toNat, codes) ∈ CaseTable.lowerExpansions := by simp [entries]
      exact fun empty => (solid_lowerExpansions _ listed).1 (List.map_eq_nil_iff.mp empty)
    · exact List.cons_ne_nil _ _

/-- What stands for a character in lower case is blank exactly if the character is. -/
theorem isBlank_of_mem_lowerChar (member : x ∈ lowerChar c) : isBlank x = isBlank c := by
  cases blank : isBlank c with
  | true =>
      rw [(lowerChar_of_isBlank blank).2, List.mem_singleton] at member
      rw [member, isBlank_toLower, blank]
  | false =>
      unfold lowerChar at member
      split at member
      · rw [List.mem_singleton.mp member, isBlank_toLower, blank]
      · rw [mapCase] at member
        split at member
        · next codes found =>
          obtain ⟨before, after, entries, -⟩ := List.lookup_eq_some_iff.mp found
          have listed : (c.toNat, codes) ∈ CaseTable.lowerExpansions := by simp [entries]
          obtain ⟨code, inside, rfl⟩ := List.mem_map.mp member
          exact isBlank_ofNat ((solid_lowerExpansions _ listed).2 code inside)
        · rw [List.mem_singleton.mp member]
          cases found : shifted? CaseTable.lowerRuns c.toNat with
          | none => exact blank
          | some counterpart => exact isBlank_of_shifted? found

/-! ### Texts -/

/-- The lower-case form of the first character of a text, a capital sigma included. -/
theorem exists_lowerChars_cons (afterCased : Bool) (c : Char) (rest : List Char) :
    ∃ first later, first ≠ [] ∧ (∀ x ∈ first, isBlank x = isBlank c) ∧
      lowerChars afterCased (c :: rest) = first ++ lowerChars later rest := by
  refine ⟨_, _, ?_, ?_, rfl⟩
  · split
    · exact List.cons_ne_nil _ _
    · exact lowerChar_ne_nil c
  · intro x member
    split at member
    · next sigma =>
      rw [List.mem_singleton.mp member, sigma]
      split <;> rfl
    · exact isBlank_of_mem_lowerChar member

theorem any_isBlank_head?_lowerChars (afterCased : Bool) (cs : List Char) :
    (lowerChars afterCased cs).head?.any isBlank = cs.head?.any isBlank := by
  cases cs with
  | nil => rfl
  | cons c rest =>
      obtain ⟨first, later, nonempty, alike, lowered⟩ := exists_lowerChars_cons afterCased c rest
      obtain ⟨x, others, rfl⟩ := List.exists_cons_of_ne_nil nonempty
      rw [lowered]
      exact alike x List.mem_cons_self

theorem any_isBlank_getLast?_lowerChars (afterCased : Bool) (cs : List Char) :
    (lowerChars afterCased cs).getLast?.any isBlank = cs.getLast?.any isBlank := by
  induction cs generalizing afterCased with
  | nil => rfl
  | cons c rest ih =>
      obtain ⟨first, later, nonempty, alike, lowered⟩ := exists_lowerChars_cons afterCased c rest
      rw [lowered]
      cases rest with
      | nil =>
          have last := alike _ (List.getLast_mem nonempty)
          rw [lowerChars, List.append_nil, List.getLast?_eq_some_getLast nonempty]
          exact last
      | cons next others =>
          obtain ⟨second, _, filled, -, shape⟩ := exists_lowerChars_cons later next others
          have more : lowerChars later (next :: others) ≠ [] := by
            rw [shape]
            exact List.append_ne_nil_of_left_ne_nil filled _
          rw [List.getLast?_append_of_ne_nil _ more, ih, List.getLast?_cons_cons]

/-- A text has no blanks around it in lower case exactly if it has none. -/
theorem trim_lower_eq_self_iff : trim (lower s) = lower s ↔ trim s = s := by
  rw [trim_eq_self_iff, trim_eq_self_iff, trimChars_eq_self_iff, trimChars_eq_self_iff, lower,
    String.toList_ofList, any_isBlank_head?_lowerChars, any_isBlank_getLast?_lowerChars]

/-- A list of blanks and ASCII characters is put in lower case character by character. -/
theorem lowerChars_eq_map {cs : List Char}
    (plain : ∀ c ∈ cs, isBlank c = true ∨ c.toNat < 128) (afterCased : Bool) :
    lowerChars afterCased cs = cs.map Char.toLower := by
  induction cs generalizing afterCased with
  | nil => rfl
  | cons c rest ih =>
      obtain ⟨first, others⟩ := List.forall_mem_cons.mp plain
      have image : c ≠ 'Σ' ∧ lowerChar c = [c.toLower] := by
        rcases first with blank | ascii
        · exact lowerChar_of_isBlank blank
        · refine ⟨?_, lowerChar_of_ascii ascii⟩
          rintro rfl
          exact absurd ascii (by decide)
      rw [lowerChars, if_neg image.1, image.2, ih others]
      rfl

theorem lower_eq_asciiLower {s : String}
    (plain : ∀ c ∈ s.toList, isBlank c = true ∨ c.toNat < 128) : lower s = asciiLower s := by
  rw [lower, asciiLower, lowerChars_eq_map plain]

theorem trim_asciiLower (s : String) : trim (asciiLower s) = asciiLower (trim s) := by
  have same : isBlank ∘ Char.toLower = isBlank := funext isBlank_toLower
  simp only [trim, asciiLower, String.toList_ofList, trimChars, trimEnd, trimStart,
    List.dropWhile_map, ← List.map_reverse, same]

/-- A text of ASCII characters that are no capitals is its own spelling in lower case. -/
theorem lower_eq_self
    (small : s.toList.all (fun c => c.toNat < 128 && c.toLower == c) = true) : lower s = s := by
  have facts : ∀ c ∈ s.toList, c.toNat < 128 ∧ c.toLower = c := by
    simpa using small
  rw [lower_eq_asciiLower fun c member => .inr (facts c member).1, asciiLower,
    List.map_congr_left fun c member => (facts c member).2, List.map_id', String.ofList_toList]

end EntityDiagram.Text
