import EntityDiagram.Decimal.Binary
import EntityDiagram.Decimal.Shortest
import Mathlib.Algebra.Order.Field.Power
import Mathlib.Data.Rat.Floor
import Mathlib.Tactic.Linarith
import Mathlib.Tactic.NormNum
import Mathlib.Tactic.Positivity

/-!
# The shortest decimal is found

Seventeen digits are enough for every binary number with a significand of 53 bits: on the grid of
decimals with so many digits two neighbours are closer to each other than the ends of the interval
around the number. So the search for the shortest decimal ends with one that lies in the interval
and has at most seventeen digits, or is the power of ten above these.
-/

namespace EntityDiagram.Decimal

/-- The number that a decimal stands for. -/
def Expansion.value (d : Expansion) : ℚ := d.digits * (10 : ℚ) ^ d.exponent

private theorem tenTo_eq (n : Nat) : tenTo n = 10 ^ n := rfl

/-- A power of ten, with the part below the point on the other side. -/
private theorem tenTo_toNat_eq (exponent : Int) :
    ((tenTo exponent.toNat : Nat) : ℚ) =
      (10 : ℚ) ^ exponent * ((tenTo (-exponent).toNat : Nat) : ℚ) := by
  rw [tenTo_eq, tenTo_eq, Nat.cast_pow, Nat.cast_pow, Nat.cast_ofNat, ← zpow_natCast,
    ← zpow_natCast, ← zpow_add₀ (by norm_num)]
  congr 1
  omega

private theorem tenTo_pos (n : Nat) : (0 : ℚ) < (tenTo n : Nat) := by
  rw [tenTo_eq]
  positivity

/-- The two sides of a comparison of the decimal with a quotient. -/
private theorem scaled_eq (d : Expansion) (denominator : Nat) :
    ((d.scaled denominator : Nat) : ℚ) =
      d.value * denominator * (tenTo (-d.exponent).toNat : Nat) := by
  rw [Expansion.scaled, Nat.cast_mul, Nat.cast_mul, tenTo_toNat_eq, Expansion.value]
  ring

namespace Expansion

variable {d : Expansion} {n denominator : Nat}

theorem against_le_scaled (positive : 0 < denominator) :
    d.against n ≤ d.scaled denominator ↔ (n : ℚ) / denominator ≤ d.value := by
  have den : (0 : ℚ) < denominator := by exact_mod_cast positive
  rw [← Nat.cast_le (α := ℚ), scaled_eq, against, Nat.cast_mul, div_le_iff₀ den]
  exact mul_le_mul_iff_left₀ (tenTo_pos _)

theorem scaled_le_against (positive : 0 < denominator) :
    d.scaled denominator ≤ d.against n ↔ d.value ≤ (n : ℚ) / denominator := by
  have den : (0 : ℚ) < denominator := by exact_mod_cast positive
  rw [← Nat.cast_le (α := ℚ), scaled_eq, against, Nat.cast_mul, le_div_iff₀ den]
  exact mul_le_mul_iff_left₀ (tenTo_pos _)

end Expansion

namespace Interval

/-- The ends of an interval and the number in it. -/
def least (i : Interval) : ℚ := i.lower / i.denominator

/-- The number in an interval. -/
def middle (i : Interval) : ℚ := i.value / i.denominator

/-- The upper end of an interval. -/
def greatest (i : Interval) : ℚ := i.upper / i.denominator

end Interval

namespace Expansion

variable {d : Expansion} {i : Interval}

/-- A decimal in an interval lies between its ends. -/
theorem value_of_isIn (positive : 0 < i.denominator) (inside : d.isIn i = true) :
    i.least ≤ d.value ∧ d.value ≤ i.greatest := by
  have between : d.against i.lower ≤ d.scaled i.denominator ∧
      d.scaled i.denominator ≤ d.against i.upper := by
    simp only [isIn] at inside
    split at inside <;> simp at inside <;> omega
  exact ⟨(against_le_scaled positive).mp between.1, (scaled_le_against positive).mp between.2⟩

/-- A decimal strictly between the ends of an interval lies in it, whether the ends do or not. -/
theorem isIn_of_value (positive : 0 < i.denominator) (above : i.least < d.value)
    (below : d.value < i.greatest) : d.isIn i = true := by
  have low := (scaled_le_against positive).not.mpr (not_le.mpr above)
  have high := (against_le_scaled positive).not.mpr (not_le.mpr below)
  simp only [isIn]
  split <;> simp <;> omega

end Expansion

/-! ### Neighbours on a grid -/

/-- The largest decimal with an exponent that is not above the number in an interval. -/
private def gridBelow (i : Interval) (exponent : Int) : Expansion :=
  ⟨i.value * tenTo (-exponent).toNat / (i.denominator * tenTo exponent.toNat), exponent⟩

/-- The next decimal with the exponent. -/
private def gridAbove (i : Interval) (exponent : Int) : Expansion :=
  ⟨(gridBelow i exponent).digits + 1, exponent⟩

private theorem gridAbove_value (i : Interval) (exponent : Int) :
    (gridAbove i exponent).value = (gridBelow i exponent).value + (10 : ℚ) ^ exponent := by
  rw [Expansion.value, Expansion.value, gridAbove, Nat.cast_add, Nat.cast_one, add_mul, one_mul]
  rfl

/-- The number in an interval lies between its neighbours. -/
private theorem middle_between {i : Interval} (positive : 0 < i.denominator) (exponent : Int) :
    (gridBelow i exponent).value ≤ i.middle ∧ i.middle < (gridAbove i exponent).value := by
  have unit : 0 < i.denominator * tenTo exponent.toNat :=
    Nat.mul_pos positive (Nat.pow_pos (by decide))
  constructor
  · refine (Expansion.scaled_le_against positive).mp ?_
    have under := Nat.div_mul_le_self (i.value * tenTo (-exponent).toNat)
      (i.denominator * tenTo exponent.toNat)
    calc (gridBelow i exponent).scaled i.denominator
        = (gridBelow i exponent).digits * (i.denominator * tenTo exponent.toNat) := by
          rw [Expansion.scaled, mul_assoc, mul_comm (tenTo _)]
          rfl
      _ ≤ (gridBelow i exponent).against i.value := under
  · refine not_le.mp ((Expansion.scaled_le_against positive).not.mp (not_le.mpr ?_))
    have excess := Nat.lt_div_mul_add (a := i.value * tenTo (-exponent).toNat) unit
    calc (gridAbove i exponent).against i.value
        < (gridBelow i exponent).digits * (i.denominator * tenTo exponent.toNat) +
            i.denominator * tenTo exponent.toNat := excess
      _ = (gridAbove i exponent).scaled i.denominator := by
          rw [Expansion.scaled, mul_assoc, mul_comm (tenTo _), ← Nat.succ_mul]
          rfl

private theorem onGrid?_eq (i : Interval) (exponent : Int) :
    onGrid? i exponent =
      match (gridBelow i exponent).isIn i, (gridAbove i exponent).isIn i with
      | false, false => none
      | true, false => some (gridBelow i exponent)
      | false, true => some (gridAbove i exponent)
      | true, true =>
        if (gridBelow i exponent).distance i < (gridAbove i exponent).distance i then
          some (gridBelow i exponent)
        else if (gridAbove i exponent).distance i < (gridBelow i exponent).distance i then
          some (gridAbove i exponent)
        else if (gridBelow i exponent).digits % 2 == 0 then some (gridBelow i exponent)
        else some (gridAbove i exponent) := rfl

/-- A decimal found on a grid lies in the interval and is one of the two neighbours. -/
private theorem onGrid?_eq_some {i : Interval} {exponent : Int} {d : Expansion}
    (found : onGrid? i exponent = some d) :
    d.isIn i = true ∧ (d = gridBelow i exponent ∨ d = gridAbove i exponent) := by
  rw [onGrid?_eq] at found
  split at found
  · cases found
  · cases found
    exact ⟨‹_›, .inl rfl⟩
  · cases found
    exact ⟨‹_›, .inr rfl⟩
  · next below above =>
    split_ifs at found <;> cases found
    · exact ⟨below, .inl rfl⟩
    · exact ⟨above, .inr rfl⟩
    · exact ⟨below, .inl rfl⟩
    · exact ⟨above, .inr rfl⟩

/-- On a grid that is finer than an interval one of the neighbours lies in it. -/
private theorem isSome_onGrid? {i : Interval} (positive : 0 < i.denominator) {exponent : Int}
    (above : i.least < i.middle) (below : i.middle < i.greatest)
    (finer : (10 : ℚ) ^ exponent < i.greatest - i.least) : (onGrid? i exponent).isSome := by
  obtain ⟨left, right⟩ := middle_between positive exponent
  by_cases low : i.least < (gridBelow i exponent).value
  · have inside := Expansion.isIn_of_value positive low (left.trans_lt below)
    rw [onGrid?_eq, inside]
    cases (gridAbove i exponent).isIn i with
    | false => rfl
    | true => dsimp only; split_ifs <;> rfl
  · have step := gridAbove_value i exponent
    have high : (gridAbove i exponent).value < i.greatest := by linarith
    have inside := Expansion.isIn_of_value positive (above.trans right) high
    rw [onGrid?_eq, inside]
    cases (gridBelow i exponent).isIn i with
    | false => rfl
    | true => dsimp only; split_ifs <;> rfl

/-! ### The magnitude of a number -/

/-- The number of digits tells between which powers of ten a number lies. -/
private theorem tenTo_digitCount {n : Nat} (positive : 0 < n) :
    10 ^ (digitCount n - 1) ≤ n ∧ n < 10 ^ digitCount n := by
  have some : 0 < digitCount n := Nat.length_toDigits_pos
  have all := (Nat.length_toDigits_le_iff (n := n) (by decide : 1 < 10) some).mp le_rfl
  refine ⟨?_, all⟩
  rcases Nat.eq_or_lt_of_le (Nat.succ_le_of_lt some) with one | more
  · rw [← one]
    exact positive
  · refine not_lt.mp fun less => ?_
    have short := (Nat.length_toDigits_le_iff (by decide : 1 < 10) (by omega)).mpr less
    have same : (Nat.toDigits 10 n).length = digitCount n := rfl
    omega

/-- A quotient of at least one lies between the powers of ten that its digits before the point
tell. -/
private theorem tenTo_digitCount_div {a b : Nat} (positive : 0 < b) (large : b ≤ a) :
    (10 : ℚ) ^ ((digitCount (a / b) : Int) - 1) ≤ (a : ℚ) / b ∧
      (a : ℚ) / b ≤ (10 : ℚ) ^ (digitCount (a / b) : Int) := by
  obtain ⟨low, high⟩ := tenTo_digitCount (Nat.div_pos large positive)
  have counted : 0 < digitCount (a / b) := Nat.length_toDigits_pos
  have den : (0 : ℚ) < b := by exact_mod_cast positive
  have power : (10 : ℚ) ^ ((digitCount (a / b) : Int) - 1) =
      ((10 ^ (digitCount (a / b) - 1) : Nat) : ℚ) := by
    rw [Nat.cast_pow, Nat.cast_ofNat, ← zpow_natCast]
    congr 1
    omega
  rw [power, zpow_natCast, le_div_iff₀ den, div_le_iff₀ den]
  constructor
  · exact_mod_cast (Nat.le_div_iff_mul_le positive).mp low
  · exact_mod_cast ((Nat.div_lt_iff_lt_mul positive).mp high).le

/-- A positive quotient lies between the power of ten of its magnitude and the one before. -/
private theorem tenTo_magnitude {numerator denominator : Nat} (above : 0 < numerator)
    (below : 0 < denominator) :
    (10 : ℚ) ^ (magnitude numerator denominator - 1) ≤ (numerator : ℚ) / denominator ∧
      (numerator : ℚ) / denominator ≤ (10 : ℚ) ^ magnitude numerator denominator := by
  rw [magnitude]
  split
  · next large => exact tenTo_digitCount_div below large
  · next small =>
    -- The reciprocal is at least one.
    obtain ⟨low, high⟩ := tenTo_digitCount_div above (not_le.mp small).le
    have num : (0 : ℚ) < numerator := by exact_mod_cast above
    have den : (0 : ℚ) < denominator := by exact_mod_cast below
    have flip : (numerator : ℚ) / denominator = ((denominator : ℚ) / numerator)⁻¹ :=
      (inv_div _ _).symm
    have positive : (0 : ℚ) < (denominator : ℚ) / numerator := div_pos den num
    rw [flip, show (1 - (digitCount (denominator / numerator) : Int) - 1) =
        -(digitCount (denominator / numerator) : Int) by omega,
      show (1 - (digitCount (denominator / numerator) : Int)) =
        -((digitCount (denominator / numerator) : Int) - 1) by omega, zpow_neg, zpow_neg]
    exact ⟨inv_anti₀ positive high, inv_anti₀ (by positivity) low⟩

/-! ### The interval around a binary number -/

namespace Interval

variable {significand : Nat} {exponent : Int} {narrow : Bool}

theorem denominator_pos : 0 < (Interval.of significand exponent narrow).denominator := by
  show 0 < 1 <<< (2 - exponent).toNat
  rw [Nat.one_shiftLeft]
  exact Nat.two_pow_pos _

/-- A whole number of quarters of the unit of a binary number. -/
private theorem quarters (n : Nat) (exponent : Int) :
    ((n * 1 <<< (exponent - 2).toNat : Nat) : ℚ) / ((1 <<< (2 - exponent).toNat : Nat) : ℚ) =
      n * (2 : ℚ) ^ (exponent - 2) := by
  rw [Nat.one_shiftLeft, Nat.one_shiftLeft, Nat.cast_mul, Nat.cast_pow, Nat.cast_pow,
    Nat.cast_ofNat, mul_div_assoc, ← zpow_natCast, ← zpow_natCast, ← zpow_sub₀ (by norm_num)]
  congr 2
  omega

theorem middle_of :
    (Interval.of significand exponent narrow).middle =
      4 * significand * (2 : ℚ) ^ (exponent - 2) := by
  rw [middle, Interval.of, quarters]
  push_cast
  rfl

theorem greatest_of :
    (Interval.of significand exponent narrow).greatest =
      (4 * significand + 2) * (2 : ℚ) ^ (exponent - 2) := by
  rw [greatest, Interval.of, quarters]
  push_cast
  rfl

theorem least_of (positive : 0 < significand) :
    (Interval.of significand exponent narrow).least =
      (4 * significand - if narrow then 1 else 2) * (2 : ℚ) ^ (exponent - 2) := by
  rw [least, Interval.of, quarters, Nat.cast_sub (by split <;> omega)]
  push_cast
  rfl

theorem least_lt_middle (positive : 0 < significand) :
    (Interval.of significand exponent narrow).least <
      (Interval.of significand exponent narrow).middle := by
  rw [least_of positive, middle_of]
  refine mul_lt_mul_of_pos_right ?_ (by positivity)
  cases narrow <;> norm_num

theorem middle_lt_greatest :
    (Interval.of significand exponent narrow).middle <
      (Interval.of significand exponent narrow).greatest := by
  rw [middle_of, greatest_of]
  exact mul_lt_mul_of_pos_right (by norm_num) (by positivity)

end Interval

/-! ### Seventeen digits -/

/-- The binary numbers around which the search is made: of 53 bits, and with a nearer neighbour
below only at a power of two. -/
structure IsBinary (significand : Nat) (narrow : Bool) : Prop where
  positive : 0 < significand
  bits : significand < 2 ^ 53
  narrow_eq : narrow = true → significand = 2 ^ 52

variable {significand : Nat} {exponent : Int} {narrow : Bool}

/-- The magnitude from which the search for the shortest decimal starts. -/
private def top (significand : Nat) (exponent : Int) (narrow : Bool) : Int :=
  magnitude (Interval.of significand exponent narrow).value
    (Interval.of significand exponent narrow).denominator

private theorem middle_top (positive : 0 < significand) :
    (10 : ℚ) ^ (top significand exponent narrow - 1) ≤
        (Interval.of significand exponent narrow).middle ∧
      (Interval.of significand exponent narrow).middle ≤
        (10 : ℚ) ^ top significand exponent narrow := by
  refine tenTo_magnitude ?_ Interval.denominator_pos
  rw [Interval.of, Nat.one_shiftLeft]
  positivity

/-- The grid of decimals with seventeen digits is finer than the interval. -/
private theorem finer (binary : IsBinary significand narrow) :
    (10 : ℚ) ^ (top significand exponent narrow - 17) <
      (Interval.of significand exponent narrow).greatest -
        (Interval.of significand exponent narrow).least := by
  have low : (10 : ℚ) ^ (top significand exponent narrow - 1) ≤ _ :=
    (middle_top binary.positive).1
  have unit : (0 : ℚ) < (2 : ℚ) ^ (exponent - 2) := by positivity
  have step : (10 : ℚ) ^ (top significand exponent narrow - 17) =
      (10 : ℚ) ^ (top significand exponent narrow - 1) / 10 ^ 16 := by
    rw [← zpow_natCast, ← zpow_sub₀ (by norm_num)]
    congr 1
    omega
  rw [Interval.middle_of] at low
  rw [step, Interval.greatest_of, Interval.least_of binary.positive, ← sub_mul,
    div_lt_iff₀ (by positivity)]
  have bits : (significand : ℚ) < 2 ^ 53 := by exact_mod_cast binary.bits
  have quarters : (4 * significand : ℚ) <
      (4 * significand + 2 - (4 * significand - if narrow then 1 else 2)) * 10 ^ 16 := by
    cases narrow with
    | false =>
      norm_num
      linarith
    | true =>
      rw [binary.narrow_eq rfl]
      norm_num
  calc (10 : ℚ) ^ (top significand exponent narrow - 1)
      ≤ 4 * significand * (2 : ℚ) ^ (exponent - 2) := low
    _ < (4 * significand + 2 - (4 * significand - if narrow then 1 else 2)) * 10 ^ 16 *
          (2 : ℚ) ^ (exponent - 2) := mul_lt_mul_of_pos_right quarters unit
    _ = _ := mul_right_comm _ _ _

/-- A decimal that the search comes upon has at most seventeen digits, or is the next power of
ten. -/
private theorem digits_le_of_onGrid? (positive : 0 < significand) {n : Nat} (few : n < maxDigits)
    {d : Expansion}
    (found : onGrid? (Interval.of significand exponent narrow)
      (top significand exponent narrow - (n + 1)) = some d) : d.digits ≤ 10 ^ 17 + 1 := by
  have high : _ ≤ (10 : ℚ) ^ top significand exponent narrow := (middle_top positive).2
  have left : (gridBelow (Interval.of significand exponent narrow)
      (top significand exponent narrow - (n + 1))).value ≤ _ :=
    (middle_between Interval.denominator_pos _).1
  have power : (10 : ℚ) ^ top significand exponent narrow =
      10 ^ (n + 1) * (10 : ℚ) ^ (top significand exponent narrow - (n + 1)) := by
    rw [← zpow_natCast, ← zpow_add₀ (by norm_num)]
    congr 1
    omega
  rw [power] at high
  have digits := le_of_mul_le_mul_right (left.trans high) (by positivity)
  have grid : (gridBelow (Interval.of significand exponent narrow)
      (top significand exponent narrow - (n + 1))).digits ≤ 10 ^ 17 := by
    refine le_trans (b := 10 ^ (n + 1)) (by exact_mod_cast digits) ?_
    exact Nat.pow_le_pow_right (by decide) few
  rcases (onGrid?_eq_some found).2 with rfl | rfl
  · omega
  · exact Nat.succ_le_succ grid

/-- The shortest decimal lies in the interval around its number, and has not too many digits. -/
theorem shortest_spec (binary : IsBinary significand narrow) (exponent : Int) :
    (shortest significand exponent narrow).isIn (Interval.of significand exponent narrow) = true ∧
      (shortest significand exponent narrow).digits ≤ 10 ^ 17 + 1 := by
  have some : ((List.range maxDigits).findSome? fun n : Nat =>
      onGrid? (Interval.of significand exponent narrow)
        (top significand exponent narrow - (n + 1))).isSome := by
    refine List.findSome?_isSome_iff.mpr ⟨16, by decide, ?_⟩
    exact isSome_onGrid? Interval.denominator_pos (Interval.least_lt_middle binary.positive)
      Interval.middle_lt_greatest (finer binary)
  obtain ⟨d, found⟩ := Option.isSome_iff_exists.mp some
  have same : shortest significand exponent narrow = d := by
    show (List.findSome? _ _).getD _ = d
    exact (congrArg (Option.getD · _) found).trans rfl
  obtain ⟨n, member, on⟩ := List.exists_of_findSome?_eq_some found
  rw [same]
  exact ⟨(onGrid?_eq_some on).1,
    digits_le_of_onGrid? binary.positive (List.mem_range.mp member) on⟩

/-- The shortest decimal is positive, and not above the upper end of the interval. -/
theorem shortest_value (binary : IsBinary significand narrow) (exponent : Int) :
    0 < (shortest significand exponent narrow).digits ∧
      (shortest significand exponent narrow).value ≤
        (4 * significand + 2) * (2 : ℚ) ^ (exponent - 2) := by
  obtain ⟨low, high⟩ := Expansion.value_of_isIn Interval.denominator_pos
    (shortest_spec binary exponent).1
  rw [Interval.greatest_of] at high
  refine ⟨Nat.pos_of_ne_zero fun zero => ?_, high⟩
  have one : (1 : ℚ) ≤ significand := by exact_mod_cast binary.positive
  have above : 0 < (Interval.of significand exponent narrow).least := by
    rw [Interval.least_of binary.positive]
    refine mul_pos ?_ (by positivity)
    split <;> linarith
  rw [Expansion.value, zero, Nat.cast_zero, zero_mul] at low
  exact absurd low (not_le.mpr above)

/-- The parts of a floating-point number that is not zero are those of a binary number with 53
bits. -/
theorem isBinary_of_parts {x : Float} {negative : Bool}
    (finite : parts x = .finite negative significand exponent narrow) (nonzero : significand ≠ 0) :
    IsBinary significand narrow ∧ exponent ≤ 971 := by
  have hidden : hiddenBit = 2 ^ 52 := by decide
  have fraction : x.toBits.toNat % hiddenBit < 2 ^ 52 := hidden ▸ Nat.mod_lt _ (by decide)
  have field : (x.toBits.toNat >>> 52) % 2048 < 2048 := Nat.mod_lt _ (by decide)
  unfold parts at finite
  dsimp only at finite
  split at finite
  · split at finite <;> cases finite
  · next other =>
    split at finite
    · cases finite
      exact ⟨⟨Nat.pos_of_ne_zero nonzero, by omega, fun narrow => by cases narrow⟩, by omega⟩
    · cases finite
      have below : (x.toBits.toNat >>> 52) % 2048 ≠ 2047 := by simpa using other
      refine ⟨⟨Nat.pos_of_ne_zero nonzero, by omega, fun narrow => ?_⟩, by omega⟩
      have zero : x.toBits.toNat % hiddenBit = 0 := by
        simpa using (Bool.and_eq_true_iff.mp narrow).1
      omega

end EntityDiagram.Decimal
