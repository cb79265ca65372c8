import Mathlib.Algebra.Order.Floor.Semifield
import Mathlib.Analysis.Real.Pi.Bounds
import SceneScript.Animation
import SceneScript.Proofs.Doubles

/- Radians are written in degrees and seconds in whole milliseconds. There is one way to do so: the
   factor is the double nearest to `180 / π`, and a half of a millisecond goes away from zero. -/
namespace SceneScript

namespace Number

section Packing
open Float.Model Float.Model.UnpackedFloat
variable {m : ℕ} {e : ℤ}

theorem full_log (canonical : Canonical m e) (full : 2 ^ 52 ≤ m) : m.log2 = 52 :=
  (Nat.log2_eq_iff (by omega)).mpr ⟨full, canonical.bits⟩

theorem target_exponent (m : ℕ) (e : ℤ) :
    Format.binary64.targetExponent (totalExponent m e) = max (m.log2 + 1 + e - 53) (-1074) :=
  rfl

theorem target_itself (canonical : Canonical m e) (full : 2 ^ 52 ≤ m) :
    Format.binary64.targetExponent (totalExponent m e) = e := by
  have least := canonical.least
  rw [target_exponent, full_log canonical full]
  omega

theorem shift_itself (canonical : Canonical m e) (full : 2 ^ 52 ≤ m) :
    shiftToTargetExponent Format.binary64 m e .exact = (⟨m, false, false⟩, e) := by
  unfold shiftToTargetExponent shiftToExponent
  dsimp only
  rw [target_itself canonical full, Int.sub_self]
  exact congrArg (Prod.mk _) (Int.add_zero e)

theorem round_itself (s : Sign) (canonical : Canonical m e) (full : 2 ^ 52 ≤ m)
    (positive : 0 < m) :
    roundWithAccuracy Format.binary64 s m e .exact = .finite s m e positive := by
  unfold roundWithAccuracy
  rw [shift_itself canonical full]
  dsimp only
  -- Nothing was cut off, so the second shift is the first one again.
  rw [show ExtendedMantissa.roundedMantissa ⟨m, false, false⟩ = m from rfl,
    shift_itself canonical full]
  exact dif_neg positive.ne'

theorem packed_sign (s : Sign) (e : BitVec 11) (m : BitVec 52) :
    Sign.ofBitVec (unpackSign (packComponents Format.binary64 s e m)) = s := by
  have bit : unpackSign (packComponents Format.binary64 s e m) = s.toBitVec := by
    change (s.toBitVec ++ e ++ m).extractLsb' 63 1 = s.toBitVec
    rw [BitVec.extractLsb'_append_eq_of_le (by decide),
      BitVec.extractLsb'_append_eq_of_le (by decide)]
    exact BitVec.extractLsb'_eq_self
  rw [bit]
  cases s <;> rfl

theorem finite_same {s t : Sign} {k : ℕ} {f : ℤ} {positive : 0 < m} {filled : 0 < k} (sign : s = t)
    (mantissa : m = k) (exponent : e = f) :
    UnpackedFloat.finite s m e positive = .finite t k f filled := by
  subst sign mantissa exponent
  rfl

theorem unpack_pack (s : Sign) (canonical : Canonical m e) (full : 2 ^ 52 ≤ m)
    (positive : 0 < m) :
    UnpackedFloat.unpack Format.binary64
        (UnpackedFloat.pack Format.binary64 (.finite s m e positive)) =
      .finite s m e positive := by
  have log := full_log canonical full
  obtain ⟨bits, least, largest, _⟩ := canonical
  have field : (e + Format.binary64.exponentBias + (52 : ℕ)).toNat = (e + 1075).toNat := by
    change (e + 1023 + 52).toNat = (e + 1075).toNat
    omega
  have packed : UnpackedFloat.pack Format.binary64 (.finite s m e positive) =
      packComponents Format.binary64 s (BitVec.ofNat 11 (e + 1075).toNat) (BitVec.ofNat 52 m) := by
    unfold UnpackedFloat.pack
    dsimp only
    rw [log, field, if_neg (show ¬ 2 ^ 11 ≤ (e + 1075).toNat + 1 by omega)]
    exact if_pos rfl
  have exponent : (BitVec.ofNat 11 (e + 1075).toNat).toNat = (e + 1075).toNat := by
    rw [BitVec.toNat_ofNat]
    omega
  have significand : (1#1 ++ BitVec.ofNat 52 m).toNat = m := by
    have fraction : m % 2 ^ 52 < 2 ^ 52 := Nat.mod_lt _ (by decide)
    rw [BitVec.toNat_append, BitVec.toNat_ofNat]
    refine (Nat.two_pow_add_eq_or_of_lt fraction 1).symm.trans ?_
    omega
  have apart {field : BitVec 11} (special : field.toNat = 0 ∨ field.toNat = 2047) :
      BitVec.ofNat 11 (e + 1075).toNat ≠ field := by
    rintro rfl
    omega
  rw [packed]
  unfold UnpackedFloat.unpack
  dsimp only
  rw [unpackExponent_packComponents, if_neg (apart (.inr rfl)), if_neg (apart (.inl rfl))]
  refine finite_same (packed_sign ..) ?_ ?_
  · rw [unpackMantissa_packComponents, significand]
  · rw [exponent]
    change ((e + 1075).toNat : ℤ) - (1023 + 52) = e
    omega

variable {n : ℕ}

theorem whole_canonical (positive : 0 < n) (small : n < 2 ^ 53) :
    Canonical (n * 2 ^ (52 - n.log2)) (n.log2 - 52) ∧ 2 ^ 52 ≤ n * 2 ^ (52 - n.log2) ∧
      magnitude (n * 2 ^ (52 - n.log2)) (n.log2 - 52) = n := by
  have log : n.log2 ≤ 52 := Nat.le_of_lt_succ ((Nat.log2_lt positive.ne').mpr small)
  obtain ⟨lower, upper⟩ := (Nat.log2_eq_iff positive.ne').mp rfl
  have full := Nat.mul_le_mul_right (2 ^ (52 - n.log2)) lower
  have bits := Nat.mul_lt_mul_of_pos_right upper (Nat.two_pow_pos (52 - n.log2))
  rw [← Nat.pow_add, show n.log2 + (52 - n.log2) = 52 by omega] at full
  rw [← Nat.pow_add, show n.log2 + 1 + (52 - n.log2) = 53 by omega] at bits
  refine ⟨⟨bits, by omega, by omega, Or.inr full⟩, full, ?_⟩
  have power : ((52 - n.log2 : ℕ) : ℤ) + (n.log2 - 52) = 0 := by omega
  rw [magnitude, Nat.cast_mul, Nat.cast_pow, Nat.cast_two, mul_assoc, ← zpow_natCast,
    ← zpow_add₀ two_ne_zero, power, zpow_zero, mul_one]

theorem round_whole (positive : 0 < n) (small : n < 2 ^ 53) (filled : 0 < n * 2 ^ (52 - n.log2)) :
    UnpackedFloat.round Format.binary64 .positive n 0 =
      .finite .positive (n * 2 ^ (52 - n.log2)) (n.log2 - 52) filled := by
  obtain ⟨canonical, full, _⟩ := whole_canonical positive small
  have log : n.log2 ≤ 52 := Nat.le_of_lt_succ ((Nat.log2_lt positive.ne').mpr small)
  have target : Format.binary64.targetExponent (totalExponent n 0) = n.log2 - 52 := by
    rw [target_exponent]
    omega
  have shift : (0 - ((n.log2 : ℤ) - 52)).toNat = 52 - n.log2 := by omega
  have lowered : (0 : ℤ) - ((52 - n.log2 : ℕ) : ℤ) = n.log2 - 52 := by omega
  unfold UnpackedFloat.round decreaseExponent
  dsimp only
  rw [target, shift, lowered, Nat.shiftLeft_eq]
  exact round_itself .positive canonical full filled

theorem whole_unpacked (positive : 0 < n) (small : n < 2 ^ 53)
    (filled : 0 < n * 2 ^ (52 - n.log2)) :
    n.toUInt64.toFloat.toModel.unpack =
      .finite .positive (n * 2 ^ (52 - n.log2)) (n.log2 - 52) filled := by
  obtain ⟨canonical, full, _⟩ := whole_canonical positive small
  have word : n.toUInt64.toNat = n := UInt64.toNat_ofNat_of_lt (small.trans (by decide))
  have above : compare (n : ℤ) 0 = .gt := Int.compare_eq_gt.mpr (by omega)
  have rounded : UnpackedFloat.ofUInt64 Format.binary64 n.toUInt64 =
      .finite .positive (n * 2 ^ (52 - n.log2)) (n.log2 - 52) filled := by
    unfold UnpackedFloat.ofUInt64 UnpackedFloat.ofNat UnpackedFloat.ofInt UnpackedFloat.normalize
    rw [word, above]
    exact round_whole positive small filled
  change UnpackedFloat.unpack Format.binary64
    (UnpackedFloat.pack Format.binary64 (UnpackedFloat.ofUInt64 Format.binary64 n.toUInt64)) = _
  rw [rounded, unpack_pack .positive canonical full]

theorem whole_double (negative : Bool) (small : n < 2 ^ 53) :
    ∃ m e, Binary.ofFloat (if negative then -n.toUInt64.toFloat else n.toUInt64.toFloat) =
        .finite negative m e ∧ magnitude m e = n := by
  rcases Nat.eq_zero_or_pos n with rfl | positive
  · refine ⟨0, -1074, ?_, by rw [magnitude_zero, Nat.cast_zero]⟩
    cases negative <;> decide +kernel
  · obtain ⟨canonical, full, value⟩ := whole_canonical positive small
    have filled : 0 < n * 2 ^ (52 - n.log2) := by omega
    have unpacked := whole_unpacked positive small filled
    refine ⟨_, _, ?_, value⟩
    rw [Binary.ofFloat_unpack]
    cases negative with
    | false => exact congrArg Binary.ofUnpacked unpacked
    | true =>
      change Binary.ofUnpacked (UnpackedFloat.unpack Format.binary64 (UnpackedFloat.pack
        Format.binary64 n.toUInt64.toFloat.toModel.unpack.neg)) = _
      rw [unpacked]
      exact congrArg Binary.ofUnpacked (unpack_pack .negative canonical full filled)

end Packing

section Rounding

/-- A double rounded to a whole number, a half going away from zero: it keeps the sign, and its
    magnitude is the whole part of what is one half more. What is not finite stays. -/
def RoundedAway (x y : Float) : Prop :=
  match Binary.ofFloat x with
  | .finite negative m e => ∃ m' e', Binary.ofFloat y = .finite negative m' e' ∧
      magnitude m' e' = ⌊magnitude m e + 1 / 2⌋₊
  | _ => y = x

theorem rounded_away_unique {x y z : Float} (first : RoundedAway x y)
    (second : RoundedAway x z) : y = z := by
  unfold RoundedAway at first second
  cases decoded : Binary.ofFloat x with
  | finite negative m e =>
    simp only [decoded] at first second
    obtain ⟨m₁, e₁, own, value⟩ := first
    obtain ⟨m₂, e₂, other, same⟩ := second
    obtain ⟨rfl, rfl⟩ := magnitude_injective (Binary.word_canonical own)
      (Binary.word_canonical other) (value.trans same.symm)
    exact decoded_injective own other
  | _ =>
    simp only [decoded] at first second
    rw [first, second]

theorem floor_whole (m k : ℕ) : magnitude m k = ⌊magnitude m k + 1 / 2⌋₊ := by
  have whole : magnitude m k = (m * 2 ^ k : ℕ) := by
    rw [magnitude, zpow_natCast, Nat.cast_mul, Nat.cast_pow, Nat.cast_two]
  have floor : ⌊magnitude m k + 1 / 2⌋₊ = m * 2 ^ k := by
    rw [whole, Nat.floor_eq_iff (by positivity)]
    constructor <;> linarith
  rw [floor, whole]

theorem floor_quotient (m places : ℕ) :
    ⌊magnitude m (-places) + 1 / 2⌋₊ = (2 * m + 2 ^ places) / (2 * 2 ^ places) := by
  rw [← Nat.floor_div_eq_div (K := ℚ)]
  congr 1
  rw [magnitude, zpow_neg, zpow_natCast]
  push_cast
  field_simp

theorem round_half_away (x : Float) : RoundedAway x (roundHalfAway x) := by
  unfold RoundedAway roundHalfAway
  cases decoded : Binary.ofFloat x with
  | finite negative m e =>
    dsimp only
    split
    · rename_i whole
      obtain ⟨k, rfl⟩ := Int.eq_ofNat_of_zero_le whole
      exact ⟨m, k, decoded, floor_whole m k⟩
    · rename_i below
      obtain ⟨places, rfl⟩ := Int.exists_eq_neg_ofNat (Int.le_of_not_le below)
      have bits := (Binary.word_canonical decoded).bits
      have small : (2 * m + 2 ^ places) / (2 * 2 ^ places) < 2 ^ 53 := by
        have unit : 1 < 2 ^ places := Nat.one_lt_two_pow (by omega)
        rw [Nat.div_lt_iff_lt_mul (by omega)]
        omega
      rw [floor_quotient, Int.neg_neg, Int.toNat_natCast, Nat.pow_eq]
      exact whole_double negative small
  | _ => rfl

end Rounding

section Degrees
open Real

/-- The double nearest to a real number: every other one is farther away. -/
def Nearest (r : ℝ) (x : Float) : Prop :=
  x.isFinite = true ∧
    ∀ y : Float, y.isFinite = true → value y ≠ value x → |r - value x| < |r - value y|

theorem nearest_value {r : ℝ} {x y : Float} (first : Nearest r x) (second : Nearest r y) :
    value x = value y := by
  by_contra apart
  exact lt_asymm (first.2 y second.1 (Ne.symm apart)) (second.2 x first.1 apart)

theorem degrees_per_radian_decoded :
    Binary.ofFloat 57.29577951308232 = .finite false 8063664102031864 (-47) := by
  decide +kernel

theorem degrees_per_radian_value : value 57.29577951308232 = 8063664102031864 / 2 ^ 47 := by
  rw [decoded_value degrees_per_radian_decoded, signed, magnitude]
  norm_num

theorem degrees_per_radian_near :
    |180 / π - value 57.29577951308232| < 1 / 2 ^ 48 := by
  have lower := pi_gt_d20
  have upper := pi_lt_d20
  rw [degrees_per_radian_value, abs_lt]
  push_cast
  constructor
  · have above : (8063664102031864 / 2 ^ 47 - 1 / 2 ^ 48 : ℝ) < 180 / π := by
      rw [lt_div_iff₀ pi_pos]
      norm_num at lower upper ⊢
      linarith
    linarith
  · have below : 180 / π < (8063664102031864 / 2 ^ 47 + 1 / 2 ^ 48 : ℝ) := by
      rw [div_lt_iff₀ pi_pos]
      norm_num at lower upper ⊢
      linarith
    linarith

theorem degrees_per_radian_spaced {y : Float} (finite : y.isFinite = true)
    (apart : value y ≠ value 57.29577951308232) :
    1 / 2 ^ 47 ≤ |value 57.29577951308232 - value y| := by
  obtain ⟨negative, m, e, decoded⟩ := (Binary.finite_iff y).mp finite
  have own := abs_value decoded
  have other := Binary.word_canonical decoded
  have canonical := Binary.word_canonical degrees_per_radian_decoded
  have meant : value 57.29577951308232 = magnitude 8063664102031864 (-47) :=
    decoded_value degrees_per_radian_decoded
  have unit : (2 : ℚ) ^ (-47 : ℤ) = 1 / 2 ^ 47 := by norm_num
  rw [meant] at apart ⊢
  rw [le_abs]
  rcases lt_or_gt_of_ne apart with below | above
  · have spaced := spaced_below canonical other own below
    rw [gap, if_neg (by decide), unit] at spaced
    exact Or.inl (by linarith)
  · have spaced := spaced_above canonical other own above
    rw [unit] at spaced
    exact Or.inr (by linarith)

theorem degrees_per_radian_nearest : Nearest (180 / π) 57.29577951308232 := by
  refine ⟨(Binary.finite_iff _).mpr ⟨_, _, _, degrees_per_radian_decoded⟩, ?_⟩
  intro y finite apart
  have near := degrees_per_radian_near
  have spaced := (Rat.cast_le (K := ℝ)).mpr (degrees_per_radian_spaced finite apart)
  push_cast at spaced
  have detour := abs_sub_le (value 57.29577951308232 : ℝ) (180 / π) (value y)
  rw [abs_sub_comm _ (180 / π)] at detour
  linarith

end Degrees

end Number

open Number

/-- How a script writes what a document gives in other units. -/
structure Conversions where
  degreesPerRadian : Float
  milliseconds : Float → Float
  nearest : Nearest (180 / Real.pi) degreesPerRadian
  rounded : ∀ seconds, RoundedAway (seconds * 1000) (milliseconds seconds)

namespace Conversions

theorem factor (u : Conversions) : u.degreesPerRadian = 57.29577951308232 := by
  have same := nearest_value u.nearest degrees_per_radian_nearest
  rcases value_injective u.nearest.1 degrees_per_radian_nearest.1 same with equal | zero
  · exact equal
  · rw [same, degrees_per_radian_value] at zero
    norm_num at zero

theorem duration (u : Conversions) (seconds : Float) :
    u.milliseconds seconds = Animation.milliseconds seconds :=
  rounded_away_unique (u.rounded seconds) (round_half_away (seconds * 1000))

instance : Unique Conversions where
  default := ⟨SceneScript.degreesPerRadian, Animation.milliseconds, degrees_per_radian_nearest,
    fun seconds => round_half_away (seconds * 1000)⟩
  uniq u := by
    obtain ⟨factor, milliseconds, nearest, rounded⟩ := u
    congr
    · exact Conversions.factor ⟨factor, milliseconds, nearest, rounded⟩
    · funext seconds
      exact Conversions.duration ⟨factor, milliseconds, nearest, rounded⟩ seconds

end Conversions

end SceneScript
