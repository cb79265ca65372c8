import Mathlib.Algebra.Order.Field.Power
import Mathlib.Tactic.Linarith
import Mathlib.Tactic.Ring
import SceneScript.Proofs.Coordinates

/- Doubles as exact numbers. From every other double a double keeps at least its own gap, so a
   number less than half a gap away has it as its nearest double, and one half a gap away if its
   significand is even. -/
namespace SceneScript.Number

section Values

def signed (negative : Bool) (q : ℚ) : ℚ :=
  if negative then -q else q

def magnitude (significand : ℕ) (exponent : ℤ) : ℚ :=
  significand * 2 ^ exponent

def Binary.value : Binary → ℚ
  | finite negative significand exponent => signed negative (magnitude significand exponent)
  | _ => 0

def value (x : Float) : ℚ :=
  (Binary.ofFloat x).value

def Decimal.value (d : Decimal) : ℚ :=
  signed d.negative (d.digits * 10 ^ d.exponent)

theorem abs_signed (negative : Bool) (q : ℚ) : |signed negative q| = |q| := by
  cases negative
  · rfl
  · exact abs_neg q

theorem signed_signed (negative : Bool) (q : ℚ) : signed negative (signed negative q) = q := by
  cases negative
  · rfl
  · exact neg_neg q

theorem signed_not (negative : Bool) (q : ℚ) : signed (!negative) q = -signed negative q := by
  cases negative
  · rfl
  · exact (neg_neg q).symm

theorem signed_sub (negative : Bool) (p q : ℚ) :
    signed negative (p - q) = signed negative p - signed negative q := by
  cases negative
  · rfl
  · exact neg_sub' p q

theorem distance_signed (negative : Bool) (p q : ℚ) :
    |signed negative p - q| = |p - signed negative q| := by
  rw [← abs_signed negative (p - signed negative q), signed_sub, signed_signed]

theorem decoded_value {x : Float} {negative : Bool} {m : ℕ} {e : ℤ}
    (decoded : Binary.ofFloat x = .finite negative m e) :
    value x = signed negative (magnitude m e) := by
  rw [value, decoded]
  rfl

theorem magnitude_nonneg (significand : ℕ) (exponent : ℤ) : 0 ≤ magnitude significand exponent := by
  rw [magnitude]
  positivity

theorem abs_value {x : Float} {negative : Bool} {m : ℕ} {e : ℤ}
    (decoded : Binary.ofFloat x = .finite negative m e) : |value x| = magnitude m e := by
  rw [decoded_value decoded, abs_signed, abs_of_nonneg (magnitude_nonneg m e)]

theorem magnitude_of_whole {x : Float} {negative : Bool} {m : ℕ} {e n : ℤ}
    (decoded : Binary.ofFloat x = .finite negative m e) (whole : value x = n) :
    magnitude m e = n.natAbs := by
  rw [← abs_value decoded, whole, Nat.cast_natAbs, Int.cast_abs]

theorem pow_toNat (base : ℚ) (positive : 0 < base) (exponent : ℤ) :
    base ^ exponent.toNat = base ^ exponent * base ^ (-exponent).toNat := by
  have split : (exponent.toNat : ℤ) = exponent + (-exponent).toNat := by omega
  rw [← zpow_natCast, ← zpow_natCast, ← zpow_add₀ positive.ne', split]

end Values

/-- What the significand and the exponent of a finite double are like: all 53 bits are used unless
    the exponent is the least. -/
structure Canonical (significand : ℕ) (exponent : ℤ) : Prop where
  bits : significand < 2 ^ 53
  least : -1074 ≤ exponent
  largest : exponent ≤ 971
  full : exponent = -1074 ∨ 2 ^ 52 ≤ significand

theorem Binary.word_canonical {word significand : ℕ} {negative : Bool} {exponent : ℤ}
    (read : ofWord word = finite negative significand exponent) :
    Canonical significand exponent := by
  obtain ⟨bits, largest⟩ := word_bounds read
  refine ⟨bits, ?_, largest, ?_⟩
  all_goals
    unfold ofWord at read
    simp only [Nat.pow_eq, Int.ofNat_eq_natCast] at read
    split at read
    · split at read <;> contradiction
    · split at read <;> cases read <;> omega

/-- The distance to the next smaller double; it is half as wide below a power of two. -/
def gap (significand : ℕ) (exponent : ℤ) : ℚ :=
  if significand = 2 ^ 52 ∧ -1074 < exponent then 2 ^ (exponent - 1) else 2 ^ exponent

section Spacing
variable {m m' : ℕ} {e e' : ℤ}

theorem two_pow_pred (e : ℤ) : (2 : ℚ) ^ e = 2 * 2 ^ (e - 1) := by
  rw [← zpow_one_add₀ two_ne_zero, add_sub_cancel]

theorem two_pow_quarter (e : ℤ) : (2 : ℚ) ^ e = 4 * 2 ^ (e - 2) := by
  rw [two_pow_pred e, two_pow_pred (e - 1), show e - 1 - 1 = e - 2 by ring]
  ring

theorem magnitude_multiple (m' : ℕ) (order : e ≤ e') :
    ∃ k : ℕ, magnitude m' e' = k * 2 ^ e := by
  obtain ⟨n, rfl⟩ := Int.le.dest order
  refine ⟨m' * 2 ^ n, ?_⟩
  rw [magnitude, zpow_add₀ two_ne_zero, zpow_natCast, Nat.cast_mul, Nat.cast_pow, Nat.cast_two]
  ring

theorem magnitude_below (canonical : Canonical m' e') (order : e' < e) :
    magnitude m' e' ≤ (2 ^ 53 - 1) * 2 ^ (e - 1) := by
  have bits : (m' : ℚ) ≤ 2 ^ 53 - 1 := by
    have bound : m' + 1 ≤ 2 ^ 53 := canonical.bits
    have cast : ((m' + 1 : ℕ) : ℚ) ≤ (2 ^ 53 : ℕ) := Nat.cast_le.mpr bound
    push_cast at cast
    linarith
  have power : (2 : ℚ) ^ e' ≤ 2 ^ (e - 1) := zpow_le_zpow_right₀ one_le_two (by omega)
  exact mul_le_mul bits power (zpow_pos two_pos e').le (by norm_num)

theorem full_of_larger (canonical : Canonical m e) (other : Canonical m' e') (order : e' < e) :
    2 ^ 52 ≤ m := by
  have least := other.least
  exact canonical.full.resolve_left (by omega)

theorem next_above (canonical : Canonical m e) (other : Canonical m' e')
    (above : magnitude m e < magnitude m' e') : magnitude m e + 2 ^ e ≤ magnitude m' e' := by
  have unit : (0 : ℚ) < 2 ^ e := zpow_pos two_pos _
  rcases lt_or_ge e' e with smaller | order
  · have full : ((2 ^ 52 : ℕ) : ℚ) ≤ m := Nat.cast_le.mpr (full_of_larger canonical other smaller)
    have bound := magnitude_below other smaller
    have half := two_pow_pred e
    rw [magnitude] at above
    push_cast at full
    nlinarith
  · obtain ⟨k, multiple⟩ := magnitude_multiple m' order
    rw [multiple] at above ⊢
    rw [magnitude] at above ⊢
    have count : m < k := Nat.cast_lt.mp (lt_of_mul_lt_mul_right above unit.le)
    have next : ((m + 1 : ℕ) : ℚ) ≤ k := Nat.cast_le.mpr count
    push_cast at next
    nlinarith

theorem gap_le (m : ℕ) (e : ℤ) : gap m e ≤ 2 ^ e := by
  rw [gap]
  split
  · have half : (0 : ℚ) < 2 ^ (e - 1) := zpow_pos two_pos _
    linarith [two_pow_pred e]
  · exact le_rfl

theorem gap_pos (m : ℕ) (e : ℤ) : 0 < gap m e := by
  rw [gap]
  split <;> exact zpow_pos two_pos _

theorem next_below (canonical : Canonical m e) (other : Canonical m' e')
    (below : magnitude m' e' < magnitude m e) : magnitude m' e' + gap m e ≤ magnitude m e := by
  have unit : (0 : ℚ) < 2 ^ e := zpow_pos two_pos _
  have own : magnitude m e = m * 2 ^ e := rfl
  rcases lt_or_ge e' e with smaller | order
  · have full := full_of_larger canonical other smaller
    have bound := magnitude_below other smaller
    have half := two_pow_pred e
    have least := other.least
    rw [gap]
    split
    · rename_i narrow
      rw [own, narrow.1]
      push_cast
      linarith
    · rename_i wide
      have more : ((2 ^ 52 + 1 : ℕ) : ℚ) ≤ m := Nat.cast_le.mpr (by omega)
      push_cast at more
      nlinarith
  · obtain ⟨k, multiple⟩ := magnitude_multiple m' order
    have narrow := gap_le m e
    rw [multiple, own] at below
    have count : k < m := Nat.cast_lt.mp (lt_of_mul_lt_mul_right below unit.le)
    have next : ((k + 1 : ℕ) : ℚ) ≤ m := Nat.cast_le.mpr count
    push_cast at next
    nlinarith

theorem magnitude_injective (canonical : Canonical m e) (other : Canonical m' e')
    (same : magnitude m e = magnitude m' e') : m = m' ∧ e = e' := by
  have apart {n n' : ℕ} {f f' : ℤ} (first : Canonical n f) (second : Canonical n' f')
      (order : f' < f) : magnitude n f ≠ magnitude n' f' := by
    have full : ((2 ^ 52 : ℕ) : ℚ) ≤ n := Nat.cast_le.mpr (full_of_larger first second order)
    have bound := magnitude_below second order
    have half := two_pow_pred f
    have unit : (0 : ℚ) < 2 ^ (f - 1) := zpow_pos two_pos _
    have own : magnitude n f = n * 2 ^ f := rfl
    push_cast at full
    intro equal
    nlinarith
  obtain rfl : e = e' := by
    rcases lt_trichotomy e e' with smaller | equal | larger
    · exact absurd same.symm (apart other canonical smaller)
    · exact equal
    · exact absurd same (apart canonical other larger)
  have equal := mul_right_cancel₀ (zpow_pos two_pos e).ne' same
  exact ⟨Nat.cast_injective equal, rfl⟩

end Spacing

section Nearest

/-- Whether a number lies in the interval of those that are rounded to a magnitude: at most half a
    gap away, and at its ends only if the significand is even. -/
structure Rounds (q : ℚ) (m : ℕ) (e : ℤ) : Prop where
  above : magnitude m e - gap m e / 2 ≤ q
  below : q ≤ magnitude m e + 2 ^ e / 2
  ends : q = magnitude m e - gap m e / 2 ∨ q = magnitude m e + 2 ^ e / 2 → m % 2 = 0

theorem rounds_itself (m : ℕ) (e : ℤ) : Rounds (magnitude m e) m e := by
  have lower := gap_pos m e
  have upper : (0 : ℚ) < 2 ^ e := zpow_pos two_pos _
  refine ⟨by linarith, by linarith, ?_⟩
  rintro (equal | equal) <;> linarith

/-- The double that a number is read as: every other one is farther away, or as far, and then the
    significand is even. Numbers from half a unit above the largest double on are read as
    infinities. -/
structure ReadAs (q : ℚ) (x : Float) : Prop where
  finite : x.isFinite = true
  range : |q| < 2 ^ 1024 - 2 ^ 970
  nearest : ∀ y : Float, y.isFinite = true → value y ≠ value x →
    |q - value x| < |q - value y| ∨
      |q - value x| = |q - value y| ∧ ∃ negative significand exponent,
        Binary.ofFloat x = .finite negative significand exponent ∧ significand % 2 = 0

variable {q w : ℚ} {m m' : ℕ} {e e' : ℤ}

theorem zero_canonical : Canonical 0 (-1074) :=
  ⟨by decide, le_rfl, by decide, Or.inl rfl⟩

theorem magnitude_zero (e : ℤ) : magnitude 0 e = 0 := by
  rw [magnitude, Nat.cast_zero, zero_mul]

theorem spaced_below (canonical : Canonical m e) (other : Canonical m' e')
    (own : |w| = magnitude m' e') (below : w < magnitude m e) : w + gap m e ≤ magnitude m e := by
  rcases le_or_gt 0 w with positive | negative
  · rw [abs_of_nonneg positive] at own
    rw [own] at below ⊢
    exact next_below canonical other below
  · rcases eq_or_lt_of_le (magnitude_nonneg m e) with none_left | above_zero
    · -- Below zero the next double is as far away as above it.
      have narrow := gap_le m e
      have away : magnitude m e < magnitude m' e' := by
        rw [← none_left, ← own]
        exact abs_pos.mpr negative.ne
      have spaced := next_above canonical other away
      rw [← own, abs_of_neg negative] at spaced
      linarith
    · rw [← magnitude_zero (-1074)] at above_zero
      have spaced := next_below canonical zero_canonical above_zero
      rw [magnitude_zero] at spaced
      linarith

theorem spaced_above (canonical : Canonical m e) (other : Canonical m' e')
    (own : |w| = magnitude m' e') (above : magnitude m e < w) : magnitude m e + 2 ^ e ≤ w := by
  have positive : 0 ≤ w := (magnitude_nonneg m e).trans above.le
  rw [abs_of_nonneg positive] at own
  rw [own] at above ⊢
  exact next_above canonical other above

theorem nearer_of_half {v g : ℚ} (spaced : w + g ≤ v) (wide : 0 < g) (close : v - g / 2 ≤ q) :
    |q - v| < |q - w| ∨ |q - v| = |q - w| ∧ q = v - g / 2 := by
  have beyond : w < q := by linarith
  rw [abs_of_pos (sub_pos.mpr beyond)]
  rcases le_or_gt v q with right | left
  · rw [abs_of_nonneg (sub_nonneg.mpr right)]
    exact Or.inl (by linarith)
  · rw [abs_of_neg (sub_neg.mpr left)]
    rcases eq_or_lt_of_le close with tie | inside
    · rcases eq_or_lt_of_le spaced with next | farther
      · exact Or.inr ⟨by linarith, tie.symm⟩
      · exact Or.inl (by linarith)
    · exact Or.inl (by linarith)

theorem nearest_magnitude (rounds : Rounds q m e) (canonical : Canonical m e)
    (other : Canonical m' e') (own : |w| = magnitude m' e') (apart : w ≠ magnitude m e) :
    |q - magnitude m e| < |q - w| ∨ |q - magnitude m e| = |q - w| ∧ m % 2 = 0 := by
  rcases lt_or_gt_of_ne apart with below | above
  · have spaced := spaced_below canonical other own below
    exact (nearer_of_half spaced (gap_pos m e) rounds.above).imp id fun ⟨tie, at_end⟩ =>
      ⟨tie, rounds.ends (Or.inl at_end)⟩
  · have spaced := spaced_above canonical other own above
    have mirrored := nearer_of_half (q := -q) (w := -w) (v := -magnitude m e) (g := 2 ^ e)
      (by linarith) (zpow_pos two_pos e) (by linarith [rounds.below])
    simp only [← neg_sub', abs_neg] at mirrored
    exact mirrored.imp id fun ⟨tie, at_end⟩ => ⟨tie, rounds.ends (Or.inr (by linarith))⟩

/-- The interval of the largest double ends below half a unit above it, as it is odd. -/
theorem rounds_range (rounds : Rounds q m e) (canonical : Canonical m e) :
    q < 2 ^ 1024 - 2 ^ 970 := by
  have unit : (0 : ℚ) < 2 ^ e := zpow_pos two_pos _
  have power : (2 : ℚ) ^ e ≤ 2 ^ 971 := by
    rw [← zpow_natCast]
    exact zpow_le_zpow_right₀ one_le_two canonical.largest
  have half : magnitude m e + 2 ^ e / 2 = (m + 1 / 2) * 2 ^ e := by
    rw [magnitude]
    ring
  have top : (2 : ℚ) ^ 1024 - 2 ^ 970 = (2 ^ 53 - 1 / 2) * 2 ^ 971 := by
    have full : (2 : ℚ) ^ 1024 = 2 ^ 53 * 2 ^ 971 := pow_add 2 53 971
    have double : (2 : ℚ) ^ 971 = 2 * 2 ^ 970 := pow_succ' 2 970
    rw [full, double]
    generalize (2 : ℚ) ^ 970 = last
    ring
  have bits : ((m + 1 : ℕ) : ℚ) ≤ (2 ^ 53 : ℕ) := Nat.cast_le.mpr canonical.bits
  push_cast at bits
  have bound : (m + 1 / 2) * (2 : ℚ) ^ e ≤ (2 ^ 53 - 1 / 2) * 2 ^ 971 :=
    mul_le_mul (by linarith) power unit.le (by norm_num)
  rw [top]
  rcases lt_or_eq_of_le rounds.below with inside | at_end
  · exact (half ▸ inside).trans_le bound
  · have even := rounds.ends (Or.inr at_end)
    have odd : m ≠ 2 ^ 53 - 1 := by omega
    have bits := canonical.bits
    have smaller : ((m + 2 : ℕ) : ℚ) ≤ (2 ^ 53 : ℕ) := Nat.cast_le.mpr (by omega)
    push_cast at smaller
    rw [at_end, half]
    exact mul_lt_mul (by linarith) power unit (by norm_num)

theorem read_as_of_rounds {x : Float} {negative : Bool}
    (decoded : Binary.ofFloat x = .finite negative m e) (rounds : Rounds |q| m e)
    (sign : q = signed negative |q|) : ReadAs q x := by
  have canonical := Binary.word_canonical decoded
  have own := decoded_value decoded
  refine ⟨(Binary.finite_iff x).mpr ⟨_, _, _, decoded⟩, rounds_range rounds canonical, ?_⟩
  intro y finite apart
  obtain ⟨other_sign, m', e', other⟩ := (Binary.finite_iff y).mp finite
  have length : |signed negative (value y)| = magnitude m' e' := by
    rw [abs_signed, abs_value other]
  have different : signed negative (value y) ≠ magnitude m e := by
    intro same
    rw [own, ← same, signed_signed] at apart
    exact apart rfl
  have nearer := nearest_magnitude rounds canonical (Binary.word_canonical other) length different
  rw [sign, own, distance_signed, distance_signed, signed_signed]
  exact nearer.imp id fun ⟨tie, even⟩ => ⟨tie, negative, m, e, decoded, even⟩

theorem gap_multiple (even : m % 2 = 0) :
    ∃ k : ℕ, magnitude m e = k * gap m e ∧ k % 2 = 0 := by
  rw [gap, magnitude]
  split
  · rename_i narrow
    refine ⟨2 * m, ?_, by omega⟩
    rw [two_pow_pred e]
    push_cast
    ring
  · exact ⟨m, rfl, even⟩

/-- Intervals of different magnitudes are disjoint: a common end would make both significands even,
    and there is no double between the two. -/
theorem rounds_disjoint (first : Rounds q m e) (second : Rounds q m' e')
    (canonical : Canonical m e) (other : Canonical m' e') :
    ¬ magnitude m e < magnitude m' e' := by
  intro order
  have up := next_above canonical other order
  have down := next_below other canonical order
  have upper := first.below
  have lower := second.above
  have one_gap : gap m' e' = 2 ^ e := by linarith
  have neighbours : magnitude m' e' = (m + 1) * 2 ^ e := by
    have own : magnitude m e = m * 2 ^ e := rfl
    linarith
  have even : m % 2 = 0 := first.ends (Or.inr (by linarith))
  have other_even : m' % 2 = 0 := second.ends (Or.inl (by linarith))
  obtain ⟨k, multiple, even_multiple⟩ := gap_multiple (e := e') other_even
  rw [multiple, one_gap] at neighbours
  have count := mul_right_cancel₀ (zpow_pos two_pos e).ne' neighbours
  have next : k = m + 1 := by exact_mod_cast count
  omega

theorem rounds_unique (first : Rounds q m e) (second : Rounds q m' e')
    (canonical : Canonical m e) (other : Canonical m' e') : m = m' ∧ e = e' := by
  have same : magnitude m e = magnitude m' e' :=
    le_antisymm (not_lt.mp (rounds_disjoint second first other canonical))
      (not_lt.mp (rounds_disjoint first second canonical other))
  exact magnitude_injective canonical other same

end Nearest

section Words

theorem word_parts {word significand : ℕ} {negative : Bool} {exponent : ℤ}
    (decoded : Binary.ofWord word = .finite negative significand exponent) :
    (word / 2 ^ 63 % 2 == 1) = negative ∧ word % 2 ^ 52 = significand % 2 ^ 52 ∧
      word / 2 ^ 52 % 2 ^ 11 = if significand < 2 ^ 52 then 0 else (exponent + 1075).toNat := by
  have fraction : word % 2 ^ 52 < 2 ^ 52 := Nat.mod_lt _ (by decide)
  unfold Binary.ofWord at decoded
  simp only [Nat.pow_eq, Int.ofNat_eq_natCast] at decoded
  split at decoded
  · split at decoded <;> contradiction
  · split at decoded
    · rename_i least
      cases decoded
      rw [if_pos fraction]
      exact ⟨rfl, by omega, least⟩
    · cases decoded
      rw [if_neg (by omega)]
      exact ⟨rfl, by omega, by omega⟩

theorem word_injective {first second significand : ℕ} {negative : Bool} {exponent : ℤ}
    (bits : first < 2 ^ 64) (other_bits : second < 2 ^ 64)
    (decoded : Binary.ofWord first = .finite negative significand exponent)
    (other : Binary.ofWord second = .finite negative significand exponent) : first = second := by
  obtain ⟨sign, fraction, field⟩ := word_parts decoded
  obtain ⟨other_sign, other_fraction, other_field⟩ := word_parts other
  have same_field := field.trans other_field.symm
  have same_fraction := fraction.trans other_fraction.symm
  have same_sign := sign.trans other_sign.symm
  have same_bit : first / 2 ^ 63 % 2 = 1 ↔ second / 2 ^ 63 % 2 = 1 := by
    simpa only [beq_eq_beq] using same_sign
  omega

theorem decoded_injective {x y : Float} {negative : Bool} {m : ℕ} {e : ℤ}
    (decoded : Binary.ofFloat x = .finite negative m e)
    (other : Binary.ofFloat y = .finite negative m e) : x = y := by
  have words := word_injective x.toBits.toNat_lt y.toBits.toNat_lt decoded other
  obtain ⟨⟨bits, _⟩⟩ := x
  obtain ⟨⟨other_bits, _⟩⟩ := y
  obtain rfl : bits = other_bits := UInt64.toNat_inj.mp words
  rfl

theorem value_injective {x y : Float} (finite : x.isFinite = true) (other : y.isFinite = true)
    (same : value x = value y) : x = y ∨ value x = 0 := by
  obtain ⟨negative, m, e, decoded⟩ := (Binary.finite_iff x).mp finite
  obtain ⟨other_negative, m', e', other_decoded⟩ := (Binary.finite_iff y).mp other
  have canonical := Binary.word_canonical decoded
  have other_canonical := Binary.word_canonical other_decoded
  have length : magnitude m e = magnitude m' e' := by
    rw [← abs_value decoded, same, abs_value other_decoded]
  obtain ⟨rfl, rfl⟩ := magnitude_injective canonical other_canonical length
  by_cases sign : negative = other_negative
  · subst sign
    left
    exact decoded_injective decoded other_decoded
  · right
    have mirrored : value y = -value x := by
      rw [decoded_value decoded, decoded_value other_decoded,
        Bool.eq_not_of_ne (Ne.symm sign), signed_not]
    linarith

end Words

end SceneScript.Number
