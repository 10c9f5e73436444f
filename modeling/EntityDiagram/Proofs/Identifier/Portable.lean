import EntityDiagram.Identifier
import Mathlib.Data.List.DropRight

/-!
# Portable names

A name is portable if nothing makes it unusable: trimmed, it is neither empty nor too long, has name
characters only, does not start with a digit and holds a letter. Such a name is plain ASCII, but for
the blanks around it.
-/

namespace EntityDiagram

namespace Text

/-- Trimming drops nothing but blanks. -/
theorem mem_trimChars_or_isBlank {cs : List Char} {c : Char} (member : c ∈ cs) :
    c ∈ trimChars cs ∨ isBlank c = true := by
  have dropped : ∀ {cs : List Char}, c ∈ cs → c ∈ cs.dropWhile isBlank ∨ isBlank c = true := by
    intro cs member
    rw [← List.takeWhile_append_dropWhile (p := isBlank) (l := cs), List.mem_append] at member
    exact member.symm.imp_right List.mem_takeWhile_imp
  rcases dropped member with rest | blank
  · rw [trimChars, trimEnd, List.mem_reverse]
    exact dropped (List.mem_reverse.mpr rest)
  · exact .inr blank

/-- Trimming drops nothing from inside of a text. -/
theorem trimChars_isInfix (cs : List Char) : trimChars cs <:+: cs :=
  (List.rdropWhile_prefix isBlank _).isInfix.trans (List.dropWhile_suffix isBlank).isInfix

theorem trimChars_eq_self {cs : List Char} (solid : ∀ c ∈ cs, isBlank c = false) :
    trimChars cs = cs := by
  have start : trimStart cs = cs := by
    refine List.dropWhile_eq_self_iff.mpr fun nonempty => ?_
    rw [solid _ (List.getElem_mem nonempty)]
    exact Bool.false_ne_true
  have ending : cs.rdropWhile isBlank = cs := by
    refine List.rdropWhile_eq_self_iff.mpr fun nonempty => ?_
    rw [solid _ (List.getLast_mem nonempty)]
    exact Bool.false_ne_true
  rw [trimChars, start]
  exact ending

end Text

namespace Identifier

/-- A usable name, blanks around it aside. -/
structure IsPortable (name : String) : Prop where
  solid : Text.trimChars name.toList ≠ []
  short : (Text.trimChars name.toList).length ≤ maxIdentifierLength
  chars : ∀ c ∈ Text.trimChars name.toList, isNameChar c = true
  start : (Text.trimChars name.toList).head?.any Char.isDigit = false
  letter : (Text.trimChars name.toList).any Char.isAlpha = true

theorem mem_faultIf {condition : Bool} {fault other : NameFault} :
    other ∈ faultIf condition fault ↔ condition = true ∧ other = fault := by
  cases condition <;> simp [faultIf]

theorem formFaults_eq_nil_iff {name : List Char} :
    formFaults name = [] ↔ name.length ≤ maxIdentifierLength ∧ (∀ c ∈ name, isNameChar c = true) ∧
      name.head?.any Char.isDigit = false ∧ name.any Char.isAlpha = true := by
  simp only [formFaults, List.append_eq_nil_iff, faultIf_eq_nil, decide_eq_false_iff_not,
    Nat.not_lt, Bool.not_eq_false', List.isEmpty_iff, List.filter_eq_nil_iff, Bool.not_eq_true',
    and_assoc, Bool.not_eq_false]

theorem styleFaults_eq_nil_iff {name : List Char} :
    styleFaults name = [] ↔
      name.head? ≠ some '_' ∧ name.getLast? ≠ some '_' ∧ hasDoubleUnderscore name = false := by
  simp only [styleFaults, List.append_eq_nil_iff, faultIf_eq_nil, beq_eq_false_iff_ne, and_assoc]

/-- A short name of name characters can only start with a digit or lack letters. -/
theorem formFaults_of_isNameChar {name : List Char} (short : name.length ≤ maxIdentifierLength)
    (allowed : ∀ c ∈ name, isNameChar c = true) :
    formFaults name = faultIf (name.head?.any Char.isDigit) .startsWithDigit ++
      faultIf (!name.any Char.isAlpha) .noLetters := by
  have valid : name.filter (!isNameChar ·) = [] :=
    List.filter_eq_nil_iff.mpr fun c member => by simp [allowed c member]
  have fits : decide (maxIdentifierLength < name.length) = false :=
    decide_eq_false (Nat.not_lt.mpr short)
  simp only [formFaults, valid, fits, List.isEmpty_nil, Bool.not_true, faultIf_false,
    List.nil_append]

theorem isAlpha_of_isNameChar {c : Char} (allowed : isNameChar c = true)
    (digit : c.isDigit = false) (solid : c ≠ '_') : c.isAlpha = true := by
  have classes : ((c.isAlpha || c.isDigit) || c == '_') = true := allowed
  rwa [digit, Bool.or_false, beq_eq_false_iff_ne.mpr solid, Bool.or_false] at classes

theorem ascii_of_isNameChar {c : Char} (allowed : isNameChar c = true) : c.toNat < 128 := by
  have classes : ((c.isAlpha || c.isDigit) || c == '_') = true := allowed
  simp only [Bool.or_eq_true, beq_iff_eq] at classes
  rcases classes with (letter | digit) | rfl
  · exact Text.ascii_of_isAlpha letter
  · have range : (decide (48 ≤ c.val) && decide (c.val ≤ 57)) = true := digit
    have bound : c.toNat ≤ 57 := of_decide_eq_true (Bool.and_eq_true_iff.mp range).2
    omega
  · decide

theorem isBlank_of_isNameChar {c : Char} (allowed : isNameChar c = true) :
    Text.isBlank c = false :=
  Text.forall_ascii (p := fun c => isNameChar c = true → Text.isBlank c = false)
    (by decide) (ascii_of_isNameChar allowed) allowed

theorem IsPortable.blank_or_ascii {name : String} (portable : IsPortable name) :
    ∀ c ∈ name.toList, Text.isBlank c = true ∨ c.toNat < 128 := by
  intro c member
  rcases Text.mem_trimChars_or_isBlank member with inside | blank
  · exact .inr (ascii_of_isNameChar (portable.chars c inside))
  · exact .inl blank

end Identifier

end EntityDiagram
