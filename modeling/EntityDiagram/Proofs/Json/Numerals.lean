import EntityDiagram.Json.Pretty
import EntityDiagram.Json.Reading
import EntityDiagram.Proofs.Decimal.Shortest
import EntityDiagram.Proofs.Result
import Mathlib.Data.List.DropRight
import Mathlib.Data.List.TakeWhile

/-!
# Written numbers

Every number is written as a numeral, but for floating-point numbers that are not finite, which are
written as null. A numeral is scanned as itself wherever it stands, as long as nothing follows that
could belong to it. Whole numbers of 64 bits are read back from their numerals; of a floating-point
number it is asked as a property, since the nearest decimal may be rounded to a neighbour.
-/

namespace EntityDiagram.Json

/-- Whether a text can follow a number without being taken for a part of it. -/
def Stops (rest : List Char) : Prop :=
  ∀ c ∈ rest.head?, c.isDigit = false ∧ c ≠ '.' ∧ c ≠ 'e' ∧ c ≠ 'E'

theorem stops_nil : Stops [] := by simp [Stops]

theorem stops_cons {c : Char} (other : c.isDigit = false ∧ c ≠ '.' ∧ c ≠ 'e' ∧ c ≠ 'E')
    (rest : List Char) : Stops (c :: rest) := by
  simpa [Stops] using other

/-! ### Numerals as they are spelled -/

/-- Whether a text consists of digits, at least one. -/
structure AreDigits (digits : List Char) : Prop where
  nonempty : digits ≠ []
  isDigit : ∀ c ∈ digits, c.isDigit = true

namespace Numeral

/-- The point of a numeral and the digits behind it. -/
def fractionChars : Option (List Char) → List Char
  | none => []
  | some digits => '.' :: digits

/-- The exponent of a numeral, always with a sign. -/
def exponentChars : Option (Bool × List Char) → List Char
  | none => []
  | some (negative, digits) => 'e' :: (if negative then '-' else '+') :: digits

/-- A numeral as text. -/
def chars (numeral : Numeral) : List Char :=
  let body := numeral.whole ++ (fractionChars numeral.fraction ++ exponentChars numeral.exponent)
  if numeral.negative then '-' :: body else body

/-- Whether every part of a numeral has digits, and only zero itself begins with the digit zero. -/
structure WellFormed (numeral : Numeral) : Prop where
  whole : AreDigits numeral.whole
  leading : numeral.whole.head? = some '0' → numeral.whole.length = 1
  fraction : ∀ digits ∈ numeral.fraction, AreDigits digits
  exponent : ∀ part ∈ numeral.exponent, AreDigits part.2

end Numeral

private theorem span_digits {digits rest : List Char} (all : ∀ c ∈ digits, c.isDigit = true)
    (other : ∀ c ∈ rest.head?, c.isDigit = false) :
    (digits ++ rest).takeWhile Char.isDigit = digits ∧
      (digits ++ rest).dropWhile Char.isDigit = rest := by
  rw [List.takeWhile_append_of_pos all, List.dropWhile_append_of_pos all]
  cases rest with
  | nil => simp
  | cons c rest =>
      have here := other c rfl
      simp [here]

private theorem scanExponent_none (numeral : Numeral) {rest : List Char} (stops : Stops rest) :
    scanExponent numeral rest = (.number numeral, rest) := by
  cases rest with
  | nil => rfl
  | cons c rest =>
      obtain ⟨-, -, small, large⟩ := stops c rfl
      simp [scanExponent, small, large]

private theorem scanExponent_some (numeral : Numeral) (negative : Bool) {digits rest : List Char}
    (spelled : AreDigits digits) (stops : Stops rest) :
    scanExponent numeral (Numeral.exponentChars (some (negative, digits)) ++ rest) =
      (.number { numeral with exponent := some (negative, digits) }, rest) := by
  obtain ⟨taken, left⟩ := span_digits spelled.isDigit fun c member => (stops c member).1
  have nonempty : digits.isEmpty = false := by simp [spelled.nonempty]
  cases negative <;> simp [Numeral.exponentChars, scanExponent, taken, left, nonempty]

private theorem scanExponent_chars {numeral : Numeral} (plain : numeral.exponent = none)
    {exponent : Option (Bool × List Char)} (spelled : ∀ part ∈ exponent, AreDigits part.2)
    {rest : List Char} (stops : Stops rest) :
    scanExponent numeral (Numeral.exponentChars exponent ++ rest) =
      (.number { numeral with exponent }, rest) := by
  cases exponent with
  | none =>
      rw [Numeral.exponentChars, List.nil_append, scanExponent_none numeral stops, ← plain]
  | some part => exact scanExponent_some numeral part.1 (spelled part rfl) stops

/-- No digit follows where an exponent or the text behind the numeral begins. -/
private theorem exponentChars_other (exponent : Option (Bool × List Char)) {rest : List Char}
    (stops : Stops rest) :
    ∀ c ∈ (Numeral.exponentChars exponent ++ rest).head?, c.isDigit = false ∧ c ≠ '.' := by
  intro c member
  cases exponent with
  | none => exact ⟨(stops c member).1, (stops c member).2.1⟩
  | some part =>
      obtain rfl : 'e' = c := Option.some.inj member
      decide

private theorem scanFraction_chars {numeral : Numeral} (plain : numeral.fraction = none)
    {fraction : Option (List Char)} (digits : ∀ part ∈ fraction, AreDigits part)
    (whole : numeral.exponent = none) {exponent : Option (Bool × List Char)}
    (spelled : ∀ part ∈ exponent, AreDigits part.2) {rest : List Char} (stops : Stops rest) :
    scanFraction numeral
        (Numeral.fractionChars fraction ++ (Numeral.exponentChars exponent ++ rest)) =
      (.number { numeral with fraction, exponent }, rest) := by
  have other := exponentChars_other exponent stops
  cases fraction with
  | none =>
      rw [Numeral.fractionChars, List.nil_append, scanFraction]
      · rw [scanExponent_chars whole spelled stops, ← plain]
      · intro behind point
        rw [point] at other
        exact (other '.' rfl).2 rfl
  | some part =>
      obtain ⟨nonempty, all⟩ := digits part rfl
      obtain ⟨taken, left⟩ := span_digits all fun c member => (other c member).1
      rw [Numeral.fractionChars, List.cons_append, scanFraction, taken, left,
        if_neg (by simp [nonempty])]
      have behind : ({ numeral with fraction := some part } : Numeral).exponent = none := whole
      exact scanExponent_chars behind spelled stops

/-- A numeral behind its sign is scanned as itself. -/
private theorem scanNumber_chars {numeral : Numeral} (wellFormed : numeral.WellFormed)
    {rest : List Char} (stops : Stops rest) :
    scanNumber numeral.negative (numeral.whole ++ (Numeral.fractionChars numeral.fraction ++
      (Numeral.exponentChars numeral.exponent ++ rest))) = (.number numeral, rest) := by
  have other : ∀ c ∈ (Numeral.fractionChars numeral.fraction ++
      (Numeral.exponentChars numeral.exponent ++ rest)).head?, c.isDigit = false := by
    intro c member
    cases fraction : numeral.fraction with
    | none =>
        rw [fraction] at member
        exact (exponentChars_other numeral.exponent stops c member).1
    | some part =>
        rw [fraction] at member
        obtain rfl : '.' = c := Option.some.inj member
        decide
  obtain ⟨taken, left⟩ := span_digits wellFormed.whole.isDigit other
  have nonempty : numeral.whole.isEmpty = false := by simp [wellFormed.whole.nonempty]
  have leading : (numeral.whole.head? = some '0' && numeral.whole.length ≠ 1) = false := by
    by_cases zero : numeral.whole.head? = some '0'
    · simp [wellFormed.leading zero]
    · simp [zero]
  rw [scanNumber, taken, left, nonempty, leading]
  exact scanFraction_chars rfl wellFormed.fraction rfl wellFormed.exponent stops

/-- A numeral begins with its sign or with a digit. -/
theorem Numeral.WellFormed.exists_head {numeral : Numeral} (wellFormed : numeral.WellFormed) :
    ∃ c rest, numeral.chars = c :: rest ∧ (c = '-' ∨ c.isDigit = true) := by
  obtain ⟨c, rest, whole⟩ := List.exists_cons_of_ne_nil wellFormed.whole.nonempty
  have digit := wellFormed.whole.isDigit c (by rw [whole]; exact List.mem_cons_self)
  rw [chars, whole]
  split
  · exact ⟨'-', _, rfl, .inl rfl⟩
  · exact ⟨c, _, rfl, .inr digit⟩

private theorem scanTree_minus (fuel : Nat) (rest : List Char) :
    scanTree (fuel + 1) ('-' :: rest) = scanNumber true rest := by
  rw [scanTree]
  simp [skipSpace, isSpace]

private theorem scanTree_digit {c : Char} (digit : c.isDigit = true) (fuel : Nat)
    (rest : List Char) : scanTree (fuel + 1) (c :: rest) = scanNumber false (c :: rest) := by
  have differs : ∀ d, d.isDigit = false → c ≠ d := by
    rintro d other rfl
    rw [digit] at other
    contradiction
  have space : isSpace c = false := by
    simp [isSpace, differs ' ' (by decide), differs '\n' (by decide), differs '\t' (by decide),
      differs '\r' (by decide)]
  have here : skipSpace (c :: rest) = c :: rest := List.dropWhile_cons_of_neg (by simp [space])
  rw [scanTree, here]
  simp [differs 'n' (by decide), differs 't' (by decide), differs 'f' (by decide),
    differs '-' (by decide), digit]

/-- A numeral is scanned as itself in front of whatever does not belong to it. -/
theorem Numeral.WellFormed.scanTree_chars {numeral : Numeral} (wellFormed : numeral.WellFormed)
    (fuel : Nat) {rest : List Char} (stops : Stops rest) :
    scanTree (fuel + 1) (numeral.chars ++ rest) = (.number numeral, rest) := by
  have scanned := scanNumber_chars wellFormed stops
  cases sign : numeral.negative with
  | true =>
      rw [sign] at scanned
      simp only [chars, sign, if_true, List.cons_append, List.append_assoc]
      rw [scanTree_minus, scanned]
  | false =>
      rw [sign] at scanned
      obtain ⟨c, digits, whole⟩ := List.exists_cons_of_ne_nil wellFormed.whole.nonempty
      have digit := wellFormed.whole.isDigit c (by rw [whole]; exact List.mem_cons_self)
      simp only [chars, sign, Bool.false_eq_true, if_false, List.append_assoc]
      rw [whole, List.cons_append] at scanned ⊢
      rw [scanTree_digit digit, scanned]

/-! ### The digits of whole numbers -/

theorem areDigits_toDigits (n : Nat) : AreDigits (Nat.toDigits 10 n) where
  nonempty := Nat.toDigits_ne_nil
  isDigit _ := Nat.isDigit_of_mem_toDigits (by decide) (by decide)

/-- The digits of a positive number do not begin with a zero. -/
theorem head?_toDigits {n : Nat} (positive : 0 < n) : (Nat.toDigits 10 n).head? ≠ some '0' := by
  induction n using Nat.strongRecOn with
  | ind n ih =>
      by_cases single : n < 10
      · rw [Nat.toDigits_of_lt_base single]
        have all : ∀ d < 10, 0 < d → [d.digitChar].head? ≠ some '0' := by decide
        exact all n single positive
      · rw [Nat.toDigits_of_base_le (by decide) (by omega),
          List.head?_append_of_ne_nil _ Nat.toDigits_ne_nil]
        exact ih (n / 10) (by omega) (by omega)

/-- Only zero itself is written with a zero in front. -/
private theorem leading_toDigits (n : Nat) :
    (Nat.toDigits 10 n).head? = some '0' → (Nat.toDigits 10 n).length = 1 := by
  intro zero
  rcases Nat.eq_zero_or_pos n with rfl | positive
  · rfl
  · exact absurd zero (head?_toDigits positive)

theorem digitsValue_eq (digits : List Char) :
    digitsValue digits = Nat.ofDigitChars 10 digits 0 := rfl

private theorem le_ofDigitChars (digits : List Char) (n : Nat) :
    n ≤ Nat.ofDigitChars 10 digits n := by
  induction digits generalizing n with
  | nil => rw [Nat.ofDigitChars_nil]
  | cons c rest ih =>
      rw [Nat.ofDigitChars_cons]
      exact le_trans (by omega) (ih _)

/-- Digits are all absorbed if they add up to less than 2⁶⁴. -/
theorem absorb_eq {digits : List Char} {n : Nat}
    (small : Nat.ofDigitChars 10 digits n < UInt64.size) :
    absorb n digits = (Nat.ofDigitChars 10 digits n, []) := by
  induction digits generalizing n with
  | nil => rw [absorb, Nat.ofDigitChars_nil]
  | cons c rest ih =>
      rw [Nat.ofDigitChars_cons] at small ⊢
      have next : 10 * n + digitValue c < UInt64.size :=
        lt_of_le_of_lt (le_ofDigitChars rest _) small
      rw [absorb]
      exact (if_pos next).trans (ih small)

/-- The significand of a numeral is what all its digits stand for, if that is less than 2⁶⁴. -/
theorem Numeral.significand_eq {numeral : Numeral}
    (small : digitsValue (numeral.whole ++ numeral.fraction.getD []) < UInt64.size) :
    numeral.significand = (digitsValue (numeral.whole ++ numeral.fraction.getD []),
      -((numeral.fraction.getD []).length : Int)) := by
  rw [digitsValue_eq, Nat.ofDigitChars_append] at small ⊢
  have whole := absorb_eq (lt_of_le_of_lt (le_ofDigitChars _ _) small)
  cases fraction : numeral.fraction with
  | none =>
      simp [significand, whole, fraction]
  | some part =>
      rw [fraction, Option.getD_some] at small
      simp [significand, whole, fraction, absorb_eq small]

/-! ### The numerals of decimals -/

namespace Numeral

/-- Digits around a point. -/
def positional (negative : Bool) (digits : List Char) (exponent : Int) : Numeral :=
  if exponent < 0 then
    ⟨negative, ['0'], some (List.replicate (-exponent - 1).toNat '0' ++ digits), none⟩
  else
    let whole := exponent.toNat + 1
    ⟨negative, digits.take whole ++ List.replicate (whole - digits.length) '0',
      some (if (digits.drop whole).isEmpty then ['0'] else digits.drop whole), none⟩

/-- Digits with an exponent. -/
def scientific (negative : Bool) (digits : List Char) (exponent : Int) : Numeral :=
  ⟨negative, digits.take 1, if digits.tail.isEmpty then none else some digits.tail,
    some (exponent < 0, Nat.toDigits 10 exponent.natAbs)⟩

/-- A text with a sign in front, if it is a negative one. -/
def signed (negative : Bool) (text : List Char) : List Char :=
  if negative then '-' :: text else text

theorem chars_positional (negative : Bool) (digits : List Char) (exponent : Int) :
    (positional negative digits exponent).chars =
      signed negative (Decimal.Layout.positional digits exponent) := by
  rw [positional, Decimal.Layout.positional]
  split <;> simp [chars, signed, fractionChars, exponentChars]

theorem chars_scientific (negative : Bool) {digits : List Char} (nonempty : digits ≠ [])
    (exponent : Int) :
    (scientific negative digits exponent).chars =
      signed negative (numberLayout.scientific digits exponent) := by
  have sign : (if exponent < 0 then "-" else "+").toList = [if exponent < 0 then '-' else '+'] := by
    split <;> rfl
  match digits with
  | [c] =>
    simp [scientific, Decimal.Layout.scientific, chars, signed, fractionChars, exponentChars,
      numberLayout, sign]
  | c :: d :: rest =>
    simp [scientific, Decimal.Layout.scientific, chars, signed, fractionChars, exponentChars,
      numberLayout, sign]

end Numeral

/-- Digits of which the first is not zero. -/
structure AreSignificant (digits : List Char) : Prop extends AreDigits digits where
  first : digits.head? ≠ some '0'

theorem wellFormed_positional (negative : Bool) {digits : List Char} (h : AreSignificant digits)
    (exponent : Int) : (Numeral.positional negative digits exponent).WellFormed := by
  have zeros : ∀ n, ∀ c ∈ List.replicate n '0', c.isDigit = true := by
    intro n c member
    rw [(List.mem_replicate.mp member).2]
    decide
  rw [Numeral.positional]
  split
  · refine ⟨⟨by simp, by simp⟩, fun _ => rfl, ?_, by simp⟩
    rintro _ ⟨⟩
    refine ⟨by simp [h.nonempty], ?_⟩
    intro c member
    rcases List.mem_append.mp member with zero | digit
    · exact zeros _ c zero
    · exact h.isDigit c digit
  · obtain ⟨first, rest, rfl⟩ := List.exists_cons_of_ne_nil h.nonempty
    refine ⟨⟨by simp, ?_⟩, ?_, ?_, by simp⟩
    · intro c member
      rcases List.mem_append.mp member with digit | zero
      · exact h.isDigit c (List.mem_of_mem_take digit)
      · exact zeros _ c zero
    · intro leading
      exact absurd (by simpa using leading) h.first
    · rintro _ ⟨⟩
      split
      · exact ⟨by simp, by simp⟩
      · next more =>
        exact ⟨by simpa using more, fun c member => h.isDigit c (List.mem_of_mem_drop member)⟩

theorem wellFormed_scientific (negative : Bool) {digits : List Char} (h : AreSignificant digits)
    (exponent : Int) : (Numeral.scientific negative digits exponent).WellFormed := by
  obtain ⟨first, rest, rfl⟩ := List.exists_cons_of_ne_nil h.nonempty
  refine ⟨⟨List.cons_ne_nil _ _, ?_⟩, fun _ => rfl, ?_, ?_⟩
  · intro c member
    exact h.isDigit c (List.mem_of_mem_take member)
  · cases rest with
    | nil => rintro _ ⟨⟩
    | cons second rest =>
        rintro _ ⟨⟩
        exact ⟨List.cons_ne_nil _ _, fun c member => h.isDigit c (List.mem_cons_of_mem _ member)⟩
  · rintro _ ⟨⟩
    exact areDigits_toDigits _

end EntityDiagram.Json

namespace EntityDiagram.Decimal.Expansion

/-- The exponent of the first digit of a decimal. -/
def leading (d : Expansion) : Int := d.exponent + ((Nat.toDigits 10 d.digits).length - 1 : Nat)

/-- The digits of a decimal without the zeros at their end. -/
def significantDigits (d : Expansion) : List Char :=
  ((Nat.toDigits 10 d.digits).reverse.dropWhile (· == '0')).reverse

/-- The zeros at the end of the digits of a decimal. -/
def zeros (d : Expansion) : Nat := ((Nat.toDigits 10 d.digits).rtakeWhile (· == '0')).length

theorem toDigits_eq (d : Expansion) :
    Nat.toDigits 10 d.digits = d.significantDigits ++ List.replicate d.zeros '0' := by
  have zeros : (Nat.toDigits 10 d.digits).rtakeWhile (· == '0') = List.replicate d.zeros '0' := by
    refine List.eq_replicate_iff.mpr ⟨rfl, fun c member => ?_⟩
    simpa using List.mem_rtakeWhile_imp member
  rw [← zeros]
  exact List.rdropWhile_append_rtakeWhile.symm

end EntityDiagram.Decimal.Expansion

namespace EntityDiagram.Json

/-- The digits of a positive decimal are significant. -/
theorem areSignificant {d : Decimal.Expansion} (positive : 0 < d.digits) :
    AreSignificant d.significantDigits := by
  have all := d.toDigits_eq
  have first := head?_toDigits positive
  have nonempty : d.significantDigits ≠ [] := by
    intro empty
    rw [empty, List.nil_append] at all
    rw [all] at first
    have some : d.zeros ≠ 0 := by
      intro zero
      rw [zero, List.replicate_zero] at all
      exact Nat.toDigits_ne_nil all
    simp [List.head?_replicate, some] at first
  refine ⟨⟨nonempty, fun c member => ?_⟩, ?_⟩
  · refine (areDigits_toDigits d.digits).isDigit c ?_
    rw [all]
    exact List.mem_append_left _ member
  · rwa [all, List.head?_append_of_ne_nil _ nonempty] at first

/-- What the significant digits stand for. -/
theorem digitsValue_significant (d : Decimal.Expansion) :
    digitsValue d.significantDigits * 10 ^ d.zeros = d.digits := by
  have all : Nat.ofDigitChars 10 (Nat.toDigits 10 d.digits) 0 = d.digits :=
    Nat.ofDigitChars_ten_toDigits
  rw [d.toDigits_eq, Nat.ofDigitChars_append, Nat.ofDigitChars_replicate_zero, mul_comm] at all
  exact all

/-- The numeral of a positive decimal. -/
def Numeral.ofExpansion (negative : Bool) (d : Decimal.Expansion) : Numeral :=
  if numberLayout.positionalFrom ≤ d.leading && d.leading ≤ numberLayout.positionalTo then
    .positional negative d.significantDigits d.leading
  else .scientific negative d.significantDigits d.leading

theorem Numeral.chars_ofExpansion (negative : Bool) {d : Decimal.Expansion}
    (positive : 0 < d.digits) :
    (ofExpansion negative d).chars = signed negative (numberLayout.write d) := by
  have write : numberLayout.write d =
      if numberLayout.positionalFrom ≤ d.leading && d.leading ≤ numberLayout.positionalTo then
        Decimal.Layout.positional d.significantDigits d.leading
      else numberLayout.scientific d.significantDigits d.leading := rfl
  rw [write, ofExpansion]
  split
  · exact chars_positional _ _ _
  · exact chars_scientific _ (areSignificant positive).nonempty _

theorem Numeral.wellFormed_ofExpansion (negative : Bool) {d : Decimal.Expansion}
    (positive : 0 < d.digits) : (ofExpansion negative d).WellFormed := by
  rw [ofExpansion]
  split
  · exact wellFormed_positional _ (areSignificant positive) _
  · exact wellFormed_scientific _ (areSignificant positive) _

/-! ### The numerals of numbers -/

namespace Number

/-- The numeral of a number, if it is finite. -/
def numeral? : Number → Option Numeral
  | .integer value => some ⟨value < 0, Nat.toDigits 10 value.natAbs, none, none⟩
  | .real x =>
    match Decimal.parts x with
    | .finite negative significand exponent narrow =>
      some (if significand = 0 then ⟨negative, ['0'], some ['0'], none⟩
        else .ofExpansion negative (Decimal.shortest significand exponent narrow))
    | _ => none

theorem wellFormed_numeral {n : Number} {numeral : Numeral} (written : n.numeral? = some numeral) :
    numeral.WellFormed := by
  cases n with
  | integer value =>
      cases written
      exact ⟨areDigits_toDigits _, leading_toDigits _, by simp, by simp⟩
  | real x =>
      rw [numeral?] at written
      split at written
      · next negative significand exponent narrow finite =>
        cases written
        split
        · refine ⟨⟨by simp, by simp⟩, fun _ => rfl, ?_, by simp⟩
          rintro _ ⟨⟩
          exact ⟨by simp, by simp⟩
        · next nonzero =>
          have binary := (Decimal.isBinary_of_parts finite nonzero).1
          exact Numeral.wellFormed_ofExpansion _ (Decimal.shortest_value binary _).1
      · cases written

/-- A number is written as its numeral, or as null if it has none. -/
theorem chars_eq (n : Number) : n.chars = (n.numeral?.map Numeral.chars).getD "null".toList := by
  cases n with
  | integer value =>
      rw [Number.chars, Int.toString_eq_repr, Int.repr_eq_if]
      split
      · next nonneg =>
        have sign : ¬ value < 0 := not_lt.mpr nonneg
        have size : value.toNat = value.natAbs := by omega
        simp [numeral?, Numeral.chars, Numeral.fractionChars, Numeral.exponentChars, sign, size]
      · next negative =>
        have sign : value < 0 := not_le.mp negative
        have size : (-value).toNat = value.natAbs := by omega
        simp [numeral?, Numeral.chars, Numeral.fractionChars, Numeral.exponentChars, sign, size,
          String.toList_append]
  | real x =>
      rw [Number.chars, Decimal.Layout.text?, numeral?]
      cases parts : Decimal.parts x with
      | infinite negative => rfl
      | notANumber => rfl
      | finite negative significand exponent narrow =>
          dsimp only
          rw [Option.getD_some, Option.map_some, Option.getD_some, String.toList_ofList]
          by_cases zero : significand = 0
          · simp [zero, Numeral.chars, Numeral.fractionChars, Numeral.exponentChars]
          · have binary := (Decimal.isBinary_of_parts parts zero).1
            rw [if_neg zero, if_neg zero,
              Numeral.chars_ofExpansion negative (Decimal.shortest_value binary _).1]
            rfl

/-- What a number is scanned as, where it is a text of its own. -/
def tree (n : Number) : Tree := (Document.ofText (Value.number n).pretty).root

private theorem scanTree_eq (n : Number) (fuel : Nat) {rest : List Char} (stops : Stops rest) :
    scanTree (fuel + 1) (n.chars ++ rest) = ((n.numeral?.map Tree.number).getD .null, rest) := by
  rw [chars_eq]
  cases written : n.numeral? with
  | none => rfl
  | some numeral => exact (wellFormed_numeral written).scanTree_chars fuel stops

/-- The document that a number is where it is a text of its own. -/
private theorem ofText_number (n : Number) :
    Document.ofText (Value.number n).pretty = ⟨(n.numeral?.map Tree.number).getD .null, true⟩ := by
  have scanned := n.scanTree_eq (2 * n.chars.length + 1) stops_nil
  rw [List.append_nil] at scanned
  have document : Document.ofText (Value.number n).pretty =
      ⟨(scanTree (2 * n.chars.length + 1 + 1) n.chars).1,
        (skipSpace (scanTree (2 * n.chars.length + 1 + 1) n.chars).2).isEmpty⟩ := by
    rw [Value.pretty, Value.chars, Document.ofText, String.toList_ofList]
    rfl
  rw [document, scanned]
  rfl

/-- A number is scanned as its numeral, or as null if it has none. -/
theorem tree_eq (n : Number) : n.tree = (n.numeral?.map Tree.number).getD .null := by
  rw [tree, ofText_number]

/-- A number is scanned in the same way in front of whatever does not belong to it. -/
theorem scanTree_chars (n : Number) (fuel : Nat) {rest : List Char} (stops : Stops rest) :
    scanTree (fuel + 1) (n.chars ++ rest) = (n.tree, rest) := by
  rw [n.scanTree_eq fuel stops, tree_eq]

/-- A number begins with a letter, with its sign or with a digit. -/
theorem exists_head (n : Number) :
    ∃ c rest, n.chars = c :: rest ∧ (c = 'n' ∨ c = '-' ∨ c.isDigit = true) := by
  rw [chars_eq]
  cases written : n.numeral? with
  | none => exact ⟨'n', _, rfl, .inl rfl⟩
  | some numeral =>
      obtain ⟨c, rest, chars, start⟩ := (wellFormed_numeral written).exists_head
      exact ⟨c, rest, chars, .inr start⟩

/-! ### Numbers that are read back -/

/-- Whether a number is read back from its own text. -/
def Survives (n : Number) : Prop :=
  (Document.ofText (Value.number n).pretty).read = .ok (.number n)

/-- A number is read back if its numeral has its value. -/
theorem survives_iff {n : Number} :
    n.Survives ↔ ∃ numeral, n.numeral? = some numeral ∧ numeral.read = .ok n := by
  rw [Survives, ofText_number]
  cases n.numeral? with
  | none => simp [Document.read, Document.decode, Tree.read, orFault]
  | some numeral =>
      have read : Document.read ⟨.number numeral, true⟩ = numeral.read.map Value.number := by
        rw [Document.read, Document.decode, Tree.read]
        cases numeral.read <;> rfl
      simp [read, map_eq_ok_iff]

/-- A number is read back if its text spells it. -/
theorem survives_of_spelled {n : Number} {numeral : Numeral}
    (spelled : Document.ofText (Value.number n).pretty = ⟨.number numeral, true⟩)
    (value : numeral.read = .ok n) : n.Survives := by
  rw [Survives, spelled]
  show (numeral.read.map Value.number >>= fun result => .ok result) = .ok (.number n)
  rw [value, map_ok, bind_ok]

/-- A number that is read back is spelled as one, and the spelling has its value. -/
theorem Survives.tree_eq {n : Number} (survives : n.Survives) :
    ∃ numeral, n.tree = .number numeral ∧ numeral.read = .ok n := by
  obtain ⟨numeral, written, value⟩ := survives_iff.mp survives
  exact ⟨numeral, by rw [Number.tree_eq, written]; rfl, value⟩

/-- A whole number of 64 bits is read back. -/
theorem survives_integer {n : Nat} (small : n < UInt64.size) : (Number.integer n).Survives := by
  refine survives_iff.mpr ⟨⟨false, Nat.toDigits 10 n, none, none⟩, by simp [numeral?], ?_⟩
  have value : digitsValue (Nat.toDigits 10 n) = n := Nat.ofDigitChars_ten_toDigits
  have significand : Numeral.significand ⟨false, Nat.toDigits 10 n, none, none⟩ = _ :=
    Numeral.significand_eq (by simpa [value] using small)
  simp [Numeral.read, Numeral.number?, significand, value]

/-- A number is read back if its text has one digit behind the point, and a tenth of what all the
digits stand for is the number. -/
theorem survives_of_tenths {x : Float} {text : String} {whole : List Char} {digit : Char}
    {n : Nat} (printed : numberLayout.text? x = some text)
    (scanned : Document.ofText text = ⟨.number ⟨false, whole, some [digit], none⟩, true⟩)
    (significand : Numeral.significand ⟨false, whole, some [digit], none⟩ = (n, -1))
    (tenth : Float.ofNat n / powerOfTen 1 = x) : (Number.real x).Survives := by
  have pretty : (Value.number (.real x)).pretty = text := by
    rw [Value.pretty, Value.chars, Number.chars, printed, Option.getD_some, String.ofList_toList]
  have value : Numeral.read ⟨false, whole, some [digit], none⟩ = .ok (.real x) := by
    simp [Numeral.read, Numeral.number?, Numeral.real?, significand, scale?, divide, maxPower,
      tenth]
  refine survives_of_spelled ?_ value
  rw [pretty, scanned]

end Number

end EntityDiagram.Json
