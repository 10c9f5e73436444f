import EntityDiagram.Proofs.Decimal.Rounding
import EntityDiagram.Proofs.Json.Numerals

/-!
# Finite numbers are written in range

A reader refuses a numeral that lies beyond the range of floating-point numbers, and how it computes
the value is not exact. The numeral that a finite number is written as is never refused: around a
point its digits fit into 64 bits, with a negative exponent they are divided, and with a positive
one the product stays below the end of the range by more than rounding can add. Only the six largest
numbers come closer to the end, and they are tried one by one.
-/

namespace EntityDiagram.Json

namespace Numeral

/-- A numeral has a value if it has one as a floating-point number. -/
theorem isSome_number? {numeral : Numeral} (real : numeral.real?.isSome) :
    numeral.number?.isSome := by
  simp only [number?]
  split
  · rfl
  · rwa [Option.isSome_map]

/-- Dividing never leaves the range. -/
private theorem isSome_scale?_of_neg (significand : Nat) {exponent : Int}
    (negative : exponent < 0) : (scale? significand exponent).isSome := by
  simp [scale?, negative]

/-- A numeral with a point and no exponent has a value if its digits fit into 64 bits. -/
private theorem isSome_real?_of_point {numeral : Numeral} (plain : numeral.exponent = none)
    {fraction : List Char} (point : numeral.fraction = some fraction) (nonempty : fraction ≠ [])
    (small : digitsValue (numeral.whole ++ fraction) < UInt64.size) : numeral.real?.isSome := by
  have significand : numeral.significand = _ := significand_eq (by rwa [point])
  have digits : 0 < fraction.length := List.length_pos_iff.mpr nonempty
  rw [real?, significand, plain, point]
  refine isSome_scale?_of_neg _ ?_
  rw [Option.getD_some]
  omega

/-- Digits stand for less than the power of ten with as many zeros. -/
private theorem digitsValue_lt {digits : List Char} (all : ∀ c ∈ digits, c.isDigit = true) :
    digitsValue digits < 10 ^ digits.length := by
  induction digits using List.reverseRecOn with
  | nil => exact Nat.one_pos
  | append_singleton digits c ih =>
      have before := ih fun d member => all d (List.mem_append_left _ member)
      have last : digitValue c ≤ 9 := by
        have digit := all c (List.mem_append_right _ (List.mem_singleton_self c))
        exact Nat.sub_le_of_le_add (Char.isDigit_iff_toNat.mp digit).2
      rw [digitsValue_eq, Nat.ofDigitChars_append, ← digitsValue_eq, List.length_append,
        List.length_singleton, pow_succ]
      show 10 * digitsValue digits + digitValue c < _
      omega

/-- Digits around a point have a value. -/
private theorem isSome_real?_positional (negative : Bool) {digits : List Char}
    (significant : AreSignificant digits) (small : digitsValue digits < UInt64.size)
    {exponent : Int} (range : exponent ≤ 15) :
    (positional negative digits exponent).real?.isSome := by
  rw [positional]
  split
  · refine isSome_real?_of_point rfl rfl (by simp [significant.nonempty]) ?_
    have zeros : digitsValue (['0'] ++ (List.replicate (-exponent - 1).toNat '0' ++ digits)) =
        digitsValue digits := by
      rw [digitsValue_eq, Nat.ofDigitChars_append, Nat.ofDigitChars_append,
        Nat.ofDigitChars_replicate_zero]
      rfl
    exact lt_of_eq_of_lt zeros small
  · next nonneg =>
    dsimp only
    by_cases all : digits.length ≤ exponent.toNat + 1
    · -- At most sixteen digits, filled up with zeros, and one zero more behind the point.
      rw [List.drop_eq_nil_of_le all, List.take_of_length_le all]
      refine isSome_real?_of_point rfl rfl (by simp) (lt_of_lt_of_le (digitsValue_lt ?_) ?_)
      · intro c member
        simp only [List.mem_append, List.mem_replicate] at member
        rcases member with (digit | ⟨-, rfl⟩) | zero
        · exact significant.isDigit c digit
        · decide
        · rw [List.mem_singleton.mp zero]
          decide
      · have few : (digits ++ List.replicate (exponent.toNat + 1 - digits.length) '0' ++
            ['0']).length ≤ 17 := by
          simp only [List.length_append, List.length_replicate, List.length_singleton]
          omega
        exact (Nat.pow_le_pow_right (by decide) few).trans (by decide)
    · have left : exponent.toNat + 1 - digits.length = 0 := by omega
      have right : (digits.drop (exponent.toNat + 1)).isEmpty = false := by simp; omega
      rw [left, right]
      refine isSome_real?_of_point rfl rfl (by simpa using right) ?_
      simpa using small

/-- The significand of digits with an exponent. -/
private theorem significand_scientific (negative : Bool) {digits : List Char}
    (nonempty : digits ≠ []) (small : digitsValue digits < UInt64.size) (exponent : Int) :
    (scientific negative digits exponent).significand =
      (digitsValue digits, -((digits.length - 1 : Nat) : Int)) := by
  have all : (scientific negative digits exponent).whole ++
      (scientific negative digits exponent).fraction.getD [] = digits := by
    match digits with
    | [c] => rfl
    | c :: d :: rest => rfl
  have length : ((scientific negative digits exponent).fraction.getD []).length =
      digits.length - 1 := by
    match digits with
    | [c] => rfl
    | c :: d :: rest => rfl
  rw [significand_eq (by rwa [all]), all, length]

/-- Digits with an exponent are a whole number times the power of ten that is left for the last
digit. -/
private theorem real?_scientific (negative : Bool) {digits : List Char} (nonempty : digits ≠ [])
    (small : digitsValue digits < UInt64.size) (exponent : Int) :
    (scientific negative digits exponent).real? =
      if maxExponent < exponent.natAbs then
        if digitsValue digits ≠ 0 && !decide (exponent < 0) then none else some 0
      else scale? (digitsValue digits) (exponent - (digits.length - 1 : Nat)) := by
  have value : digitsValue (Nat.toDigits 10 exponent.natAbs) = exponent.natAbs :=
    Nat.ofDigitChars_ten_toDigits
  have power : (if decide (exponent < 0) then
        -((digits.length - 1 : Nat) : Int) - (exponent.natAbs : Int)
      else -((digits.length - 1 : Nat) : Int) + (exponent.natAbs : Int)) =
        exponent - (digits.length - 1 : Nat) := by
    split
    · next negative =>
      have sign : exponent < 0 := of_decide_eq_true negative
      omega
    · next positive =>
      have sign : ¬ exponent < 0 := fun negative => positive (decide_eq_true negative)
      omega
  rw [real?, significand_scientific negative nonempty small exponent, ← power]
  simp only [scientific, value]

/-- Such digits have a value if the power is negative, or the product is in range. -/
private theorem isSome_real?_scientific (negative : Bool) {digits : List Char}
    (nonempty : digits ≠ []) (small : digitsValue digits < UInt64.size) {exponent : Int}
    (few : digits.length ≤ 20)
    (range : ∀ power : Nat, exponent = power + (digits.length - 1 : Nat) →
      power ≤ maxPower ∧ (scale? (digitsValue digits) power).isSome) :
    (scientific negative digits exponent).real?.isSome := by
  rw [real?_scientific negative nonempty small]
  by_cases below : exponent < (digits.length - 1 : Nat)
  · split
    · next huge =>
      have sign : exponent < 0 := by
        have limit : maxExponent = 2147483647 := rfl
        omega
      simp [sign]
    · exact isSome_scale?_of_neg _ (by omega)
  · obtain ⟨power, same⟩ := Int.eq_ofNat_of_zero_le (Int.sub_nonneg_of_le (not_lt.mp below))
    obtain ⟨bounded, scaled⟩ := range power (by omega)
    have limit : maxExponent = 2147483647 := rfl
    have most : maxPower = 308 := rfl
    rw [if_neg (by omega), same]
    exact scaled

end Numeral

/-! ### Finite numbers -/

open Decimal

/-- The six largest numbers come so near to the end of the range that they are tried. -/
private theorem isSome_number?_largest (negative : Bool) (k : Fin 6) :
    (Numeral.ofExpansion negative (shortest (2 ^ 53 - 1 - k) 971 false)).number?.isSome := by
  revert negative k
  decide +kernel

/-- All others leave room for rounding. -/
private theorem range_of_binary {significand : Nat} {exponent : Int} (bits : significand < 2 ^ 53)
    (bounded : exponent ≤ 971) (other : exponent = 971 → significand < 2 ^ 53 - 6) :
    (4 * significand + 2) * (2 : ℚ) ^ (exponent - 2) * roundingFactor ^ 5 < rangeEnd := by
  have quarters : rangeEnd = 2 ^ 55 * 2 ^ (969 : Int) := by
    rw [rangeEnd, show (971 : Int) = 969 + 2 from rfl, zpow_add₀ (by norm_num)]
    ring
  rw [quarters, mul_right_comm]
  rcases eq_or_lt_of_le bounded with rfl | less
  · have room : (significand : ℚ) + 7 ≤ 2 ^ 53 := by
      have := other rfl
      exact_mod_cast (by omega : significand + 7 ≤ 2 ^ 53)
    refine mul_lt_mul_of_pos_right ?_ (by positivity)
    calc (4 * significand + 2) * roundingFactor ^ 5
        ≤ (4 * (2 ^ 53 - 7) + 2) * roundingFactor ^ 5 := by
          refine mul_le_mul_of_nonneg_right (by linarith) ?_
          norm_num [roundingFactor]
      _ < 2 ^ 55 := by norm_num [roundingFactor]
  · have room : (significand : ℚ) + 1 ≤ 2 ^ 53 := by exact_mod_cast bits
    have factor : 0 ≤ roundingFactor ^ 5 ∧ roundingFactor ^ 5 < 2 := by norm_num [roundingFactor]
    have product : (4 * significand + 2) * roundingFactor ^ 5 < 2 ^ 55 * 2 :=
      mul_lt_mul'' (by linarith) factor.2 (by positivity) factor.1
    have nonneg : 0 ≤ (4 * significand + 2) * roundingFactor ^ 5 :=
      mul_nonneg (by positivity) factor.1
    have unit : (2 : ℚ) ^ (exponent - 2) ≤ 2 ^ (968 : Int) :=
      zpow_le_zpow_right₀ (by norm_num) (by omega)
    calc (4 * significand + 2) * roundingFactor ^ 5 * (2 : ℚ) ^ (exponent - 2)
        ≤ (4 * significand + 2) * roundingFactor ^ 5 * 2 ^ (968 : Int) :=
          mul_le_mul_of_nonneg_left unit nonneg
      _ < 2 ^ 55 * 2 * 2 ^ (968 : Int) := mul_lt_mul_of_pos_right product (by positivity)
      _ = 2 ^ 55 * 2 ^ (969 : Int) := by
          rw [show (969 : Int) = 968 + 1 from rfl, zpow_add_one₀ (by norm_num)]
          ring

/-- A decimal is what its significant digits stand for times the power of ten of the last one. -/
private theorem value_eq (d : Expansion) {power : Nat} (last : d.exponent + d.zeros = power) :
    d.value = digitsValue d.significantDigits * 10 ^ power := by
  rw [Expansion.value, ← digitsValue_significant d, Nat.cast_mul, Nat.cast_pow, Nat.cast_ofNat,
    mul_assoc, ← zpow_natCast, ← zpow_natCast, ← zpow_add₀ (by norm_num), ← last, add_comm]

/-- The numeral of the shortest decimal of a binary number has a value. -/
private theorem isSome_number?_ofExpansion (negative : Bool) {significand : Nat} {exponent : Int}
    {narrow : Bool} (binary : IsBinary significand narrow) (bounded : exponent ≤ 971)
    (other : exponent = 971 → significand < 2 ^ 53 - 6) :
    (Numeral.ofExpansion negative (shortest significand exponent narrow)).number?.isSome := by
  obtain ⟨positive, below⟩ := shortest_value binary exponent
  have few := (shortest_spec binary exponent).2
  generalize shortest significand exponent narrow = d at *
  have significant := areSignificant positive
  have value := digitsValue_significant d
  have whole : 0 < digitsValue d.significantDigits := by
    refine Nat.pos_of_ne_zero fun zero => ?_
    rw [zero, zero_mul] at value
    omega
  have small : digitsValue d.significantDigits < UInt64.size := by
    have le := Nat.le_mul_of_pos_right (digitsValue d.significantDigits)
      (Nat.pow_pos (by decide : 0 < 10) : 0 < 10 ^ d.zeros)
    have size : 10 ^ 17 + 1 < UInt64.size := by decide
    omega
  refine Numeral.isSome_number? ?_
  rw [Numeral.ofExpansion]
  split
  · next around =>
    have range := (Bool.and_eq_true_iff.mp around).2
    exact Numeral.isSome_real?_positional negative significant small (of_decide_eq_true range)
  · have length : (Nat.toDigits 10 d.digits).length = d.significantDigits.length + d.zeros := by
      rw [d.toDigits_eq, List.length_append, List.length_replicate]
    have short : (Nat.toDigits 10 d.digits).length ≤ 18 :=
      (Nat.length_toDigits_le_iff (by decide) (by decide)).mpr (by omega)
    have some : 0 < d.significantDigits.length := List.length_pos_iff.mpr significant.nonempty
    refine Numeral.isSome_real?_scientific negative significant.nonempty small (by omega) ?_
    intro power same
    have last : d.exponent + d.zeros = power := by
      rw [Expansion.leading] at same
      omega
    have range := range_of_binary binary.bits bounded other
    rw [value_eq d last] at below
    have factor : 1 ≤ roundingFactor ^ 5 := by norm_num [roundingFactor]
    have room : digitsValue d.significantDigits * 10 ^ power * roundingFactor ^ 5 < rangeEnd :=
      lt_of_le_of_lt (mul_le_mul_of_nonneg_right below (by linarith)) range
    exact isSome_scale? whole room

/-- A number that is finite has a numeral, and the numeral has a value. -/
theorem Number.exists_numeral {x : Float} (finite : isFinite x = true) :
    ∃ numeral, (Number.real x).numeral? = some numeral ∧ numeral.number?.isSome := by
  rw [isFinite] at finite
  cases parts : Decimal.parts x with
  | infinite negative =>
      rw [parts] at finite
      cases finite
  | notANumber =>
      rw [parts] at finite
      cases finite
  | finite negative significand exponent narrow =>
      refine ⟨_, by rw [Number.numeral?, parts], ?_⟩
      split
      · cases negative <;> decide +kernel
      · next nonzero =>
        obtain ⟨binary, bounded⟩ := isBinary_of_parts parts nonzero
        by_cases largest : exponent = 971 ∧ 2 ^ 53 - 6 ≤ significand
        · obtain ⟨rfl, large⟩ := largest
          have below := binary.bits
          have wide : narrow = false := by
            refine Bool.eq_false_iff.mpr fun narrow => ?_
            have := binary.narrow_eq narrow
            omega
          obtain ⟨k, small, rfl⟩ : ∃ k < 6, significand = 2 ^ 53 - 1 - k :=
            ⟨2 ^ 53 - 1 - significand, by omega, by omega⟩
          rw [wide]
          exact isSome_number?_largest negative ⟨k, small⟩
        · exact isSome_number?_ofExpansion negative binary bounded fun last => by omega

/-- A number that is not finite has no numeral. -/
theorem Number.numeral?_eq_none {x : Float} (finite : isFinite x = false) :
    (Number.real x).numeral? = none := by
  rw [isFinite] at finite
  rw [Number.numeral?]
  split
  · next parts =>
    rw [parts] at finite
    cases finite
  · rfl

end EntityDiagram.Json
