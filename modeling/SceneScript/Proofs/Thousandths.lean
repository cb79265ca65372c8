import Mathlib.Tactic.FieldSimp
import SceneScript.Proofs.Doubles

/- A finite coordinate is written as the nearest multiple of a thousandth, of two the even one,
   whether it has places or not. So it is half a thousandth off at most, whole numbers are exact,
   and the order of coordinates is kept. -/
namespace SceneScript.Number

/-- The thousandths that a number is rounded to: every other multiple is farther away, or as far,
    and then the first is even. -/
def RoundsTo (q : ℚ) (k : ℤ) : Prop :=
  ∀ j : ℤ, j ≠ k →
    |q - k / 1000| < |q - j / 1000| ∨ |q - k / 1000| = |q - j / 1000| ∧ k % 2 = 0

section Rounding
variable {p q : ℚ} {j k : ℤ}

theorem rounds_to_of_near (near : |1000 * q - k| ≤ 1 / 2)
    (even : |1000 * q - k| = 1 / 2 → k % 2 = 0) : RoundsTo q k := by
  intro j other
  have scaled (i : ℤ) : |1000 * q - i| = 1000 * |q - i / 1000| := by
    have factor : 1000 * q - i = 1000 * (q - i / 1000) := by ring
    rw [factor, abs_mul, abs_of_pos (by norm_num)]
  have apart : (1 : ℚ) ≤ |(j : ℚ) - k| := by
    have distinct : (1 : ℤ) ≤ |j - k| := Int.one_le_abs (sub_ne_zero.mpr other)
    exact_mod_cast distinct
  have detour := abs_sub_le (j : ℚ) (1000 * q) k
  rw [abs_sub_comm (j : ℚ) (1000 * q), scaled, scaled] at detour
  rw [scaled] at near even
  rcases lt_or_eq_of_le near with inside | tie
  · exact Or.inl (by linarith)
  · rcases eq_or_ne (|q - k / 1000|) (|q - j / 1000|) with same | different
    · exact Or.inr ⟨same, even tie⟩
    · exact Or.inl (lt_of_le_of_ne (by linarith) different)

theorem near_of_rounds_to (rounds : RoundsTo q k) :
    |q - k / 1000| ≤ 1 / 2000 ∧ (|q - k / 1000| = 1 / 2000 → k % 2 = 0) := by
  have next := rounds (k + 1) (by omega)
  have last := rounds (k - 1) (by omega)
  push_cast at next last
  have up : q - (k + 1) / 1000 = q - k / 1000 - 1 / 1000 := by ring
  have down : q - (k - 1) / 1000 = q - k / 1000 + 1 / 1000 := by ring
  rw [up] at next
  rw [down] at last
  generalize q - k / 1000 = off at next last ⊢
  have upper : off ≤ 1 / 2000 := by
    have nearer : |off| ≤ |off - 1 / 1000| := next.elim le_of_lt fun same => same.1.le
    by_contra far
    rw [abs_of_pos (by linarith)] at nearer
    rcases abs_cases (off - 1 / 1000) with ⟨same, _⟩ | ⟨same, _⟩ <;> linarith
  have lower : -(1 / 2000) ≤ off := by
    have nearer : |off| ≤ |off + 1 / 1000| := last.elim le_of_lt fun same => same.1.le
    by_contra far
    rw [abs_of_neg (by linarith)] at nearer
    rcases abs_cases (off + 1 / 1000) with ⟨same, _⟩ | ⟨same, _⟩ <;> linarith
  refine ⟨abs_le.mpr ⟨lower, upper⟩, fun tie => ?_⟩
  rcases (abs_eq (by norm_num)).mp tie with rfl | rfl
  · exact (next.resolve_left (by norm_num)).2
  · exact (last.resolve_left (by norm_num)).2

/-- Rounding keeps the order: two numbers could only change places around one half, and there the
    even neighbour is taken for both. -/
theorem rounds_to_monotone (first : RoundsTo q k) (second : RoundsTo p j) (order : q ≤ p) :
    k ≤ j := by
  obtain ⟨near, even⟩ := near_of_rounds_to first
  obtain ⟨other_near, other_even⟩ := near_of_rounds_to second
  by_contra crossed
  have step : (j : ℚ) + 1 ≤ k := by exact_mod_cast (show j + 1 ≤ k by omega)
  obtain ⟨_, upper⟩ := abs_le.mp other_near
  obtain ⟨lower, _⟩ := abs_le.mp near
  have tie : q - k / 1000 = -(1 / 2000) := by linarith
  have other_tie : p - j / 1000 = 1 / 2000 := by linarith
  have next : (k : ℚ) = j + 1 := by linarith
  have even_first := even (by rw [tie]; norm_num)
  have even_second := other_even (by rw [other_tie]; norm_num)
  have count : k = j + 1 := by exact_mod_cast next
  omega

theorem rounds_to_signed (negative : Bool) (rounds : RoundsTo q k) :
    RoundsTo (signed negative q) (if negative then -k else k) := by
  cases negative with
  | false => exact rounds
  | true =>
    intro j other
    have mirrored := rounds (-j) fun same => other (by rw [if_pos rfl, ← same, neg_neg])
    have reflect (i : ℤ) : |q - (-i : ℤ) / 1000| = |-q - i / 1000| := by
      rw [← abs_neg]
      congr 1
      push_cast
      ring
    have own := reflect (-k)
    rw [neg_neg] at own
    rw [reflect, own] at mirrored
    refine mirrored.imp id fun ⟨same, even⟩ => ⟨same, ?_⟩
    rw [if_pos rfl]
    omega

theorem half_compare (rest : ℕ) {denominator : ℕ} (positive : 0 < denominator) :
    (denominator < 2 * rest ↔ (1 / 2 : ℚ) < rest / denominator) ∧
      (2 * rest = denominator ↔ (rest / denominator : ℚ) = 1 / 2) := by
  have unit : (0 : ℚ) < denominator := Nat.cast_pos.mpr positive
  constructor
  · rw [lt_div_iff₀ unit, ← Nat.cast_lt (α := ℚ)]
    push_cast
    constructor <;> intro <;> linarith
  · rw [div_eq_iff unit.ne', ← Nat.cast_inj (R := ℚ)]
    push_cast
    constructor <;> intro <;> linarith

theorem divHalfEven_near (numerator : ℕ) {denominator : ℕ} (positive : 0 < denominator) :
    |(numerator / denominator : ℚ) - divHalfEven numerator denominator| ≤ 1 / 2 ∧
      (|(numerator / denominator : ℚ) - divHalfEven numerator denominator| = 1 / 2 →
        divHalfEven numerator denominator % 2 = 0) := by
  have unit : (0 : ℚ) < denominator := Nat.cast_pos.mpr positive
  obtain ⟨above, tied⟩ := half_compare (numerator % denominator) positive
  have parts : (numerator / denominator : ℚ) =
      (numerator / denominator : ℕ) + (numerator % denominator : ℕ) / denominator := by
    have division := Nat.div_add_mod numerator denominator
    have cast : (numerator : ℚ) = denominator * (numerator / denominator : ℕ) +
        (numerator % denominator : ℕ) := by exact_mod_cast division.symm
    rw [cast]
    field_simp
  have part : ((numerator % denominator : ℕ) / denominator : ℚ) < 1 :=
    (div_lt_one unit).mpr (Nat.cast_lt.mpr (Nat.mod_lt _ positive))
  have least : 0 ≤ ((numerator % denominator : ℕ) / denominator : ℚ) := by positivity
  unfold divHalfEven
  simp only [Bool.or_eq_true, decide_eq_true_eq, Bool.and_eq_true, beq_iff_eq, above, tied]
  rw [parts]
  generalize ((numerator % denominator : ℕ) / denominator : ℚ) = t at part least
  generalize numerator / denominator = quotient
  split
  · rename_i up
    have off : |(quotient : ℚ) + t - (quotient + 1 : ℕ)| = 1 - t := by
      rw [abs_sub_comm, abs_of_nonneg (by push_cast; linarith)]
      push_cast
      ring
    rw [off]
    refine ⟨by rcases up with more | ⟨same, _⟩ <;> linarith, fun tie => ?_⟩
    rcases up with more | ⟨_, odd⟩
    · linarith
    · omega
  · rename_i down
    obtain ⟨no_more, even⟩ := not_or.mp down
    rw [add_sub_cancel_left, abs_of_nonneg least]
    refine ⟨not_lt.mp no_more, fun tie => ?_⟩
    have not_odd : ¬ quotient % 2 = 1 := fun odd => even ⟨tie, odd⟩
    omega

end Rounding

section Coordinates
variable {negative : Bool} {m n : ℕ} {e : ℤ}

theorem magnitude_quotient (m : ℕ) (e : ℤ) :
    magnitude m e = (m * 2 ^ e.toNat : ℕ) / (2 ^ (-e).toNat : ℕ) := by
  have power := pow_toNat 2 two_pos e
  have unit : (2 : ℚ) ^ (-e).toNat ≠ 0 := by positivity
  push_cast
  rw [magnitude, power, eq_div_iff unit]
  ring

theorem magnitude_whole_iff :
    magnitude m e = n ↔ m * 2 ^ e.toNat = n * 2 ^ (-e).toNat := by
  have unit : ((2 ^ (-e).toNat : ℕ) : ℚ) ≠ 0 := by positivity
  rw [magnitude_quotient, div_eq_iff unit]
  exact_mod_cast Iff.rfl

theorem whole_part (whole : magnitude m e = n) : Binary.wholePart m e = n := by
  rw [Binary.wholePart, Nat.pow_eq, Nat.pow_eq, magnitude_whole_iff.mp whole]
  exact Nat.mul_div_cancel n (by positivity)

theorem whole_iff : Binary.isWhole m e = true ↔ ∃ n : ℕ, magnitude m e = n := by
  rw [Binary.isWhole, Bool.or_eq_true, decide_eq_true_eq, beq_iff_eq, Nat.pow_eq]
  constructor
  · rintro (up | divides)
    · refine ⟨m * 2 ^ e.toNat, magnitude_whole_iff.mpr ?_⟩
      rw [Int.toNat_of_nonpos (show -e ≤ 0 by omega), pow_zero, mul_one]
    · refine ⟨m / 2 ^ (-e).toNat * 2 ^ e.toNat, magnitude_whole_iff.mpr ?_⟩
      rw [mul_right_comm, Nat.div_mul_cancel (Nat.dvd_of_mod_eq_zero divides)]
  · rintro ⟨n, whole⟩
    rcases Int.le_total 0 e with up | down
    · exact Or.inl up
    · have multiple := magnitude_whole_iff.mp whole
      rw [Int.toNat_of_nonpos down, pow_zero, mul_one] at multiple
      rw [multiple]
      exact Or.inr (Nat.mul_mod_left n _)

theorem thousandths_rounds (negative : Bool) (m : ℕ) (e : ℤ) :
    ∃ k : ℤ, (thousandths negative m e).value = k / 1000 ∧
      RoundsTo (signed negative (magnitude m e)) k := by
  let count := divHalfEven (m * 1000 * Nat.pow 2 e.toNat) (Nat.pow 2 (-e).toNat)
  have unit : 0 < Nat.pow 2 (-e).toNat := Nat.pow_pos (by decide)
  obtain ⟨near, even⟩ := divHalfEven_near (m * 1000 * Nat.pow 2 e.toNat) unit
  have scaled : ((m * 1000 * Nat.pow 2 e.toNat : ℕ) / (Nat.pow 2 (-e).toNat : ℕ) : ℚ) =
      1000 * magnitude m e := by
    rw [magnitude_quotient, Nat.pow_eq, Nat.pow_eq]
    push_cast
    ring
  rw [scaled] at near even
  have rounds : RoundsTo (magnitude m e) count :=
    rounds_to_of_near (mod_cast near) (mod_cast even)
  refine ⟨_, ?_, rounds_to_signed negative rounds⟩
  have own : (thousandths negative m e).value = signed negative (count / 1000) := by
    have unit : (10 : ℚ) ^ (-3 : ℤ) = 1 / 1000 := by norm_num
    rw [Decimal.value, thousandths, unit, mul_one_div]
  rw [own]
  cases negative
  · rfl
  · rw [signed, if_pos rfl, if_pos rfl]
    push_cast
    ring

theorem rounds_itself_to (k : ℤ) : RoundsTo (k / 1000) k := by
  have none_left : |1000 * (k / 1000 : ℚ) - k| = 0 := by
    rw [abs_eq_zero]
    ring
  refine rounds_to_of_near ?_ fun half => ?_
  · rw [none_left]
    norm_num
  · rw [none_left] at half
    norm_num at half

theorem coordinate_decimal_rounds (negative : Bool) (m : ℕ) (e : ℤ) :
    (∃ k : ℤ, (coordinateDecimal negative m e).value = k / 1000 ∧
        RoundsTo (signed negative (magnitude m e)) k) ∧
      (Binary.isWhole m e = true ∧ Binary.wholePart m e < 10 ^ 15 →
        (coordinateDecimal negative m e).exponent = 0) ∧
      (¬ (Binary.isWhole m e = true ∧ Binary.wholePart m e < 10 ^ 15) →
        (coordinateDecimal negative m e).exponent = -3) := by
  rw [coordinateDecimal, Nat.pow_eq]
  split
  · rename_i short
    obtain ⟨n, whole⟩ := whole_iff.mp short.1
    refine ⟨?_, fun _ => rfl, fun long => absurd short long⟩
    rw [whole_part whole, whole]
    have own : (⟨negative && n != 0, n, 0⟩ : Decimal).value = signed negative n := by
      rw [Decimal.value, zpow_zero, mul_one]
      rcases eq_or_ne n 0 with rfl | units
      · cases negative <;> simp [signed]
      · rw [bne_iff_ne.mpr units, Bool.and_true]
    have multiple : signed negative (n : ℚ) =
        ((if negative then -(1000 * n) else 1000 * n : ℤ) : ℚ) / 1000 := by
      cases negative
      all_goals
        simp only [signed, Bool.false_eq_true, ↓reduceIte]
        push_cast
        ring
    exact ⟨_, own.trans multiple, multiple ▸ rounds_itself_to _⟩
  · rename_i long
    exact ⟨thousandths_rounds negative m e, fun short => absurd short long, fun _ => rfl⟩

end Coordinates

section Texts
variable {x : Float}

theorem short_iff {negative : Bool} {m : ℕ} {e : ℤ}
    (decoded : Binary.ofFloat x = .finite negative m e) :
    (∃ n : ℤ, value x = n ∧ |n| < 10 ^ 15) ↔
      Binary.isWhole m e = true ∧ Binary.wholePart m e < 10 ^ 15 := by
  have own := decoded_value decoded
  constructor
  · rintro ⟨n, same, small⟩
    have whole := magnitude_of_whole decoded same
    rw [← Int.natCast_natAbs] at small
    rw [whole_part whole]
    exact ⟨whole_iff.mpr ⟨_, whole⟩, mod_cast small⟩
  · rintro ⟨is_whole, small⟩
    obtain ⟨n, whole⟩ := whole_iff.mp is_whole
    rw [whole_part whole] at small
    rw [whole] at own
    cases negative with
    | false => exact ⟨n, own, by rw [Nat.abs_cast]; exact_mod_cast small⟩
    | true =>
      refine ⟨-n, own.trans (Int.cast_neg _).symm, ?_⟩
      rw [abs_neg, Nat.abs_cast]
      exact_mod_cast small

theorem coordinate_read (finite : x.isFinite = true) :
    Decimal.ofChars? (coordinate x).toList = some (coordinateValue x) ∧
      (∃ k : ℤ, (coordinateValue x).value = k / 1000 ∧ RoundsTo (value x) k) ∧
      ((∃ n : ℤ, value x = n ∧ |n| < 10 ^ 15) → (coordinateValue x).exponent = 0) ∧
      ((¬ ∃ n : ℤ, value x = n ∧ |n| < 10 ^ 15) → (coordinateValue x).exponent = -3) := by
  obtain ⟨negative, m, e, decoded⟩ := (Binary.finite_iff x).mp finite
  obtain ⟨text, places, _⟩ := coordinate_of_finite finite
  have own : coordinateValue x = coordinateDecimal negative m e := by
    rw [coordinateValue, decoded]
  obtain ⟨rounds, without, three⟩ := coordinate_decimal_rounds negative m e
  have short := short_iff decoded
  rw [← own, ← short] at without three
  rw [← own, ← decoded_value decoded] at rounds
  refine ⟨?_, rounds, without, three⟩
  rw [coordinate, String.toList_ofList, text]
  exact ofChars_toChars places

theorem whole_exact {n k : ℤ} (rounds : RoundsTo n k) : (k / 1000 : ℚ) = n := by
  obtain ⟨near, _⟩ := near_of_rounds_to rounds
  obtain ⟨lower, upper⟩ := abs_le.mp near
  have above : k < 1000 * n + 1 := by
    have cast : (k : ℚ) < 1000 * n + 1 := by linarith
    exact_mod_cast cast
  have below : 1000 * n < k + 1 := by
    have cast : (1000 * n : ℚ) < k + 1 := by linarith
    exact_mod_cast cast
  have same : k = 1000 * n := by omega
  rw [same]
  push_cast
  ring

end Texts

/-- The text of a finite coordinate denotes the multiple of a thousandth that is nearest to it, a
    half going to the even neighbour: without places if it is whole and below `10 ^ 15`, else with
    three. So it is half a thousandth off at most, whole numbers are exact in both forms, and a
    smaller coordinate is never written as a larger number. -/
theorem coordinate_rounds (u v : Float) (finite : u.isFinite = true)
    (other : v.isFinite = true) :
    ∃ p q : Decimal, Decimal.ofChars? (coordinate u).toList = some p ∧
      Decimal.ofChars? (coordinate v).toList = some q ∧
      (∃ k : ℤ, p.value = k / 1000 ∧ RoundsTo (value u) k) ∧
      |p.value - value u| ≤ 1 / 2000 ∧
      (∀ n : ℤ, value u = n → p.value = value u) ∧
      ((∃ n : ℤ, value u = n ∧ |n| < 10 ^ 15) → p.exponent = 0) ∧
      ((¬ ∃ n : ℤ, value u = n ∧ |n| < 10 ^ 15) → p.exponent = -3) ∧
      (value u ≤ value v → p.value ≤ q.value) := by
  obtain ⟨read, ⟨k, own, rounds⟩, without, three⟩ := coordinate_read finite
  obtain ⟨other_read, ⟨j, other_own, other_rounds⟩, _⟩ := coordinate_read other
  refine ⟨_, _, read, other_read, ⟨k, own, rounds⟩, ?_, fun n whole => ?_, without, three,
    fun order => ?_⟩
  · rw [own, abs_sub_comm]
    exact (near_of_rounds_to rounds).1
  · rw [own, whole]
    rw [whole] at rounds
    exact whole_exact rounds
  · rw [own, other_own]
    have counts : (k : ℚ) ≤ j := Int.cast_le.mpr (rounds_to_monotone rounds other_rounds order)
    linarith

theorem half_coordinate_rounds :
    (0.0625 : Float).isFinite = true ∧ (0.9996 : Float).isFinite = true ∧
      coordinate 0.0625 = "0.062" ∧ coordinate 0.9996 = "1.000" ∧ RoundsTo (1 / 16) 62 ∧
      |(62 / 1000 : ℚ) - 1 / 16| ≤ 1 / 2000 := by
  have finite : (0.0625 : Float).isFinite = true := by decide +kernel
  have other : (0.9996 : Float).isFinite = true := by decide +kernel
  have spelled : coordinate 0.0625 = "0.062" := by decide +kernel
  have other_spelled : coordinate 0.9996 = "1.000" := by decide +kernel
  have decoded : Binary.ofFloat 0.0625 = .finite false 4503599627370496 (-56) := by decide +kernel
  have parsed : Decimal.ofChars? "0.062".toList = some ⟨false, 62, -3⟩ := by decide +kernel
  obtain ⟨p, q, read, _, ⟨k, own, rounds⟩, near, _⟩ := coordinate_rounds 0.0625 0.9996 finite other
  rw [spelled, parsed] at read
  obtain rfl := Option.some.inj read
  have meant : (⟨false, 62, -3⟩ : Decimal).value = 62 / 1000 := by
    norm_num [Decimal.value, signed]
  have sixteenth : value 0.0625 = 1 / 16 := by
    rw [decoded_value decoded, magnitude, signed]
    norm_num
  have count : k = 62 := by
    rw [meant] at own
    have cast : (k : ℚ) = 62 := by linarith
    exact_mod_cast cast
  rw [sixteenth] at rounds near
  rw [meant] at near
  exact ⟨finite, other, spelled, other_spelled, count ▸ rounds, near⟩

end SceneScript.Number
