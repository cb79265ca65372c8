import SceneScript.Number.Coordinate
import SceneScript.Proofs.Numerals

/- A finite double is written as a decimal that reads back as itself: an optional sign, digits, and
   three places or none. No such decimal is too large for a double, so no coordinate is refused by
   a reader for its size. -/
namespace SceneScript.Number
open Json.Reading

namespace Binary

def ofUnpacked : Float.Model.UnpackedFloat → Binary
  | .notANumber => nan
  | .infinity s => infinite (s == .negative)
  | .zero s => finite (s == .negative) 0 (-1074)
  | .finite s m e _ => finite (s == .negative) m e

open Float.Model Float.Model.UnpackedFloat in
theorem ofWord_unpack (bits : BitVec 64) :
    ofWord bits.toNat = ofUnpacked (UnpackedFloat.unpack Format.binary64 bits) := by
  have mantissa : (@unpackMantissa Format.binary64 bits).toNat = bits.toNat % 2 ^ 52 := by
    simp [unpackMantissa]
  have exponent : (@unpackExponent Format.binary64 bits).toNat =
      bits.toNat / 2 ^ 52 % 2 ^ 11 := by
    simp [unpackExponent, Nat.shiftRight_eq_div_pow]
  have sign : (Sign.ofBitVec (@unpackSign Format.binary64 bits) == .negative) =
      (bits.toNat / 2 ^ 63 % 2 == 1) := by
    have bit : (@unpackSign Format.binary64 bits).toNat = bits.toNat / 2 ^ 63 % 2 := by
      change (bits.extractLsb' 63 1).toNat = _
      simp [Nat.shiftRight_eq_div_pow]
    rw [← bit]
    generalize @unpackSign Format.binary64 bits = s
    decide +revert
  have top : @unpackExponent Format.binary64 bits = -1#_ ↔
      bits.toNat / 2 ^ 52 % 2 ^ 11 = 2 ^ 11 - 1 := by
    rw [← BitVec.toNat_inj, exponent]
    rfl
  have least : @unpackExponent Format.binary64 bits = 0#_ ↔
      bits.toNat / 2 ^ 52 % 2 ^ 11 = 0 := by
    rw [← BitVec.toNat_inj, exponent]
    rfl
  have nothing : @unpackMantissa Format.binary64 bits = 0#_ ↔ bits.toNat % 2 ^ 52 = 0 := by
    rw [← BitVec.toNat_inj, mantissa]
    rfl
  unfold ofWord UnpackedFloat.unpack
  dsimp only
  conv_lhs => simp only [Nat.pow_eq, ← top, ← least, ← nothing]
  by_cases special : @unpackExponent Format.binary64 bits = -1#_
  · rw [if_pos special, if_pos special]
    by_cases zero : @unpackMantissa Format.binary64 bits = 0#_
    · rw [if_pos zero, if_pos zero]
      exact congrArg infinite sign.symm
    · rw [if_neg zero, if_neg zero]
      rfl
  rw [if_neg special, if_neg special]
  by_cases none_left : @unpackExponent Format.binary64 bits = 0#_
  · rw [if_pos none_left, if_pos none_left, ← sign]
    by_cases zero : @unpackMantissa Format.binary64 bits = 0#_
    · rw [dif_pos zero, nothing.mp zero]
      rfl
    · rw [dif_neg zero, ← mantissa, none_left]
      rfl
  · rw [if_neg none_left, if_neg none_left, ← sign]
    have significand : (1#1 ++ @unpackMantissa Format.binary64 bits).toNat =
        bits.toNat % 2 ^ 52 + 2 ^ 52 := by
      have fraction : bits.toNat % 2 ^ 52 < 2 ^ 52 := Nat.mod_lt _ (by decide)
      rw [BitVec.toNat_append, mantissa, Nat.add_comm]
      exact (Nat.two_pow_add_eq_or_of_lt fraction 1).symm
    rw [← significand, ← exponent]
    rfl

theorem ofFloat_unpack (x : Float) : ofFloat x = ofUnpacked x.toModel.unpack :=
  ofWord_unpack x.toBits.toBitVec

theorem finite_iff (x : Float) :
    x.isFinite = true ↔
      ∃ negative significand exponent, ofFloat x = finite negative significand exponent := by
  rw [ofFloat_unpack, show x.isFinite = x.toModel.unpack.isFinite from rfl]
  cases x.toModel.unpack with
  | notANumber | infinity s => exact ⟨nofun, nofun⟩
  | zero s | finite s m e => exact ⟨fun _ => ⟨_, _, _, rfl⟩, fun _ => rfl⟩

/-- A finite double has a significand of 53 bits, and its exponent is at most 971. -/
theorem word_bounds {word significand : Nat} {negative : Bool} {exponent : Int}
    (value : ofWord word = finite negative significand exponent) :
    significand < 2 ^ 53 ∧ exponent ≤ 971 := by
  have fraction : word % 2 ^ 52 < 2 ^ 52 := Nat.mod_lt _ (by decide)
  have field : word / 2 ^ 52 % 2 ^ 11 < 2 ^ 11 := Nat.mod_lt _ (by decide)
  unfold ofWord at value
  simp only [Nat.pow_eq, Int.ofNat_eq_natCast] at value
  split at value
  · split at value <;> contradiction
  · rename_i top
    split at value <;> cases value <;> omega
end Binary

theorem digitsValue_toDigits (n : Nat) : digitsValue (Nat.toDigits 10 n) = n := by
  rw [digitsValue, ← Nat.ofDigitChars_eq_foldl, Nat.ofDigitChars_ten_toDigits]

theorem digitsValue_padded (n length : Nat) :
    digitsValue ((Nat.toDigits 10 n).leftpad length '0') = n := by
  rw [digitsValue, ← Nat.ofDigitChars_eq_foldl, List.leftpad, Nat.ofDigitChars_append,
    Nat.ofDigitChars_replicate_zero, Nat.mul_zero, Nat.ofDigitChars_ten_toDigits]

theorem places_written (digits : Nat) {places : Nat} (some_places : places ≠ 0) :
    ∃ whole fraction, Decimal.positional digits (-places) = whole ++ '.' :: fraction ∧
      whole ≠ [] ∧ fraction.length = places ∧
      (∀ c ∈ whole ++ fraction, c.isDigit = true) ∧ digitsValue (whole ++ fraction) = digits := by
  let written := (Nat.toDigits 10 digits).leftpad (places + 1) '0'
  have length : written.length = max (places + 1) (Nat.toDigits 10 digits).length :=
    List.length_leftpad
  have negative : ¬ (0 : Int) ≤ -places := by omega
  have count : (- -(places : Int)).toNat = places := by omega
  refine ⟨written.take (written.length - places), written.drop (written.length - places), ?_,
    ?_, ?_, ?_, ?_⟩
  · rw [Decimal.positional, if_neg negative, count]
  · intro empty
    have none_left := congrArg List.length empty
    simp only [List.length_take, List.length_nil] at none_left
    omega
  · rw [List.length_drop]
    omega
  · rw [List.take_append_drop]
    exact fun c => padded_digits c
  · rw [List.take_append_drop]
    exact digitsValue_padded digits (places + 1)

def point (places : List Char) : List Char :=
  if places = [] then [] else '.' :: places

/-- How a decimal without a power of ten above one is written: digits, and its places behind a
    point. -/
structure Written (d : Decimal) (whole places : List Char) : Prop where
  text : d.toChars = (if d.negative then ['-'] else []) ++ (whole ++ point places)
  filled : whole ≠ []
  numeric : ∀ c ∈ whole ++ places, c.isDigit = true
  value : digitsValue (whole ++ places) = d.digits
  exponent : d.exponent = -places.length

theorem written_of_places {d : Decimal} (down : d.exponent ≤ 0) :
    ∃ whole places, Written d whole places := by
  obtain ⟨negative, digits, exponent⟩ := d
  obtain ⟨places, rfl⟩ := Int.exists_eq_neg_ofNat down
  by_cases none_needed : places = 0
  · subst places
    refine ⟨Nat.toDigits 10 digits, [], ?_, Nat.toDigits_ne_nil, ?_, ?_, rfl⟩
    · simp [Decimal.toChars, Decimal.positional, point]
    · simpa using digits_are_digits digits
    · rw [List.append_nil]
      exact digitsValue_toDigits digits
  · obtain ⟨whole, fraction, text, filled, length, all_digits, value⟩ :=
      places_written digits none_needed
    have pointed : point fraction = '.' :: fraction :=
      if_neg fun empty => none_needed (by rw [← length, empty]; rfl)
    refine ⟨whole, fraction, ?_, filled, all_digits, value, by rw [length]⟩
    rw [Decimal.toChars, text, pointed]

namespace Written
variable {d : Decimal} {whole places : List Char}

theorem whole_head (written : Written d whole places) :
    ∃ c cs, whole = c :: cs ∧ c.isDigit = true := by
  obtain ⟨c, cs, rfl⟩ := List.exists_cons_of_ne_nil written.filled
  exact ⟨c, cs, rfl, written.numeric c (by simp)⟩

theorem whole_read (written : Written d whole places) {rest : List Char} (ended : Ended rest) :
    digits (whole ++ (point places ++ rest)) = (whole, point places ++ rest) := by
  refine digits_read (fun c member => written.numeric c (by simp [member])) fun c head => ?_
  unfold point at head
  split at head
  · exact (ended c head).1
  · obtain rfl := Option.some.inj head
    rfl

theorem places_read (written : Written d whole places) {rest : List Char} (ended : Ended rest) :
    digits (places ++ rest) = (places, rest) :=
  digits_read (fun c member => written.numeric c (by simp [member])) fun c head => (ended c head).1

theorem unsigned_read (written : Written d whole places) (negative : Bool) :
    Decimal.ofUnsigned? negative (whole ++ point places) =
      some ⟨negative, d.digits, d.exponent⟩ := by
  have ended : Ended [] := by
    rintro c ⟨⟩
  have front := written.whole_read ended
  have back := written.places_read ended
  rw [List.append_nil] at front back
  obtain ⟨taken, dropped⟩ := Prod.mk.inj front
  obtain ⟨taken_places, dropped_places⟩ := Prod.mk.inj back
  rw [Decimal.ofUnsigned?, taken, dropped]
  by_cases none_written : places = []
  · subst places
    simp [point, written.filled, exponentOfChars?, ← written.value, written.exponent]
  · rw [point, if_neg none_written]
    simp [taken_places, dropped_places, written.filled, exponentOfChars?, ← written.value,
      written.exponent]

end Written

theorem take_sign_digit {c : Char} (digit : c.isDigit = true) (cs : List Char) :
    takeSign (c :: cs) = (false, c :: cs) := by
  rw [takeSign] <;> rintro _ ⟨⟩ <;> contradiction

theorem ofChars_toChars {d : Decimal} (down : d.exponent ≤ 0) :
    Decimal.ofChars? d.toChars = some d := by
  obtain ⟨whole, places, written⟩ := written_of_places down
  obtain ⟨c, cs, head, digit⟩ := written.whole_head
  rw [written.text, Decimal.ofChars?]
  cases sign : d.negative with
  | true =>
    refine (written.unsigned_read true).trans ?_
    rw [← sign]
  | false =>
    have unsigned := written.unsigned_read false
    rw [head, List.cons_append] at unsigned
    simp only [Bool.false_eq_true, ↓reduceIte, List.nil_append, head, List.cons_append,
      take_sign_digit digit, unsigned]
    rw [← sign]

theorem order_le {d : Decimal} {length : Nat} (positive : 0 < length)
    (below : d.digits < 10 ^ length) : d.order ≤ length + d.exponent := by
  have short := (Nat.length_toDigits_le_iff (by decide) positive).mpr below
  rw [Decimal.order]
  omega

def coordinateValue (x : Float) : Decimal :=
  match Binary.ofFloat x with
  | .finite negative significand exponent => coordinateDecimal negative significand exponent
  | _ => default

theorem divHalfEven_le (numerator denominator : Nat) :
    divHalfEven numerator denominator ≤ numerator / denominator + 1 := by
  unfold divHalfEven
  dsimp only
  split <;> omega

theorem divHalfEven_one (n : Nat) : divHalfEven n 1 = n := by
  simp [divHalfEven, Nat.mod_one]

theorem finite_of_bound {d : Decimal} (order : d.order ≤ 309)
    (bound : d.digits * Nat.pow 10 d.exponent.toNat <
      (Nat.pow 2 1024 - Nat.pow 2 970) * Nat.pow 10 (-d.exponent).toNat) : d.isFinite = true := by
  rw [Decimal.isFinite, decide_eq_true bound]
  rcases Int.lt_or_le d.order 309 with small | large
  · have low : d.order ≤ 308 := by omega
    simp [low]
  · have top : d.order = 309 := by omega
    simp [top]

theorem thousandths_digits {significand limit : Nat} {exponent : Int} (bits : significand < 2 ^ 53)
    (range : exponent ≤ 971) (negative : Bool)
    (largest : (2 ^ 53 - 1) * 1000 * 2 ^ 971 < limit) :
    (thousandths negative significand exponent).digits < limit := by
  simp only [thousandths, Nat.pow_eq]
  rcases Int.le_total 0 exponent with up | down
  · have whole : (-exponent).toNat = 0 := by omega
    have scaled : significand * 1000 ≤ (2 ^ 53 - 1) * 1000 := by omega
    have power : 2 ^ exponent.toNat ≤ 2 ^ 971 :=
      pow_le_pow_right' (by decide) (show exponent.toNat ≤ 971 by omega)
    rw [whole, Nat.pow_zero, divHalfEven_one]
    exact Nat.lt_of_le_of_lt (Nat.mul_le_mul scaled power) largest
  · have unit : exponent.toNat = 0 := by omega
    rw [unit, Nat.pow_zero, Nat.mul_one]
    calc divHalfEven (significand * 1000) (2 ^ (-exponent).toNat)
        ≤ significand * 1000 / 2 ^ (-exponent).toNat + 1 := divHalfEven_le _ _
      _ ≤ significand * 1000 + 1 := Nat.succ_le_succ (Nat.div_le_self _ _)
      _ ≤ 2 ^ 53 * 1000 := by omega
      _ ≤ (2 ^ 53 - 1) * 1000 * 2 ^ 971 := by decide +kernel
      _ < limit := largest

theorem thousandths_finite {significand : Nat} {exponent : Int} (bits : significand < 2 ^ 53)
    (range : exponent ≤ 971) (negative : Bool) :
    (thousandths negative significand exponent).isFinite = true := by
  obtain ⟨limit, is_limit⟩ : ∃ limit, (Nat.pow 2 1024 - Nat.pow 2 970) * 1000 = limit := ⟨_, rfl⟩
  have largest : (2 ^ 53 - 1) * 1000 * 2 ^ 971 < limit := is_limit ▸ by decide +kernel
  have short : limit < 10 ^ 312 := is_limit ▸ by decide +kernel
  have bound := thousandths_digits bits range negative largest
  have order : (thousandths negative significand exponent).order ≤ (312 : Nat) + (-3 : Int) :=
    order_le (by decide) (Nat.lt_trans bound short)
  have unit : Nat.pow 10 (-3 : Int).toNat = 1 := rfl
  have scale : Nat.pow 10 (-(-3) : Int).toNat = 1000 := rfl
  refine finite_of_bound order ?_
  rw [thousandths] at bound ⊢
  rw [unit, scale, Nat.mul_one, is_limit]
  exact bound

theorem whole_finite {negative : Bool} {whole : Nat} (below : whole < 10 ^ 15) :
    (⟨negative, whole, 0⟩ : Decimal).isFinite = true := by
  have order : (⟨negative, whole, 0⟩ : Decimal).order ≤ (15 : Nat) + (0 : Int) :=
    order_le (by decide) below
  have low : (⟨negative, whole, 0⟩ : Decimal).order ≤ 308 := by omega
  rw [Decimal.isFinite, decide_eq_true low, Bool.or_true, Bool.true_or]

structure Coordinate (x : Float) : Prop where
  text : coordinateChars x = (coordinateValue x).toChars
  places : (coordinateValue x).exponent ≤ 0
  finite : (coordinateValue x).isFinite = true

theorem coordinate_of_finite {x : Float} (finite : x.isFinite = true) : Coordinate x := by
  obtain ⟨negative, significand, exponent, value⟩ := (Binary.finite_iff x).mp finite
  obtain ⟨bits, range⟩ := Binary.word_bounds value
  have decimal : coordinateValue x = coordinateDecimal negative significand exponent := by
    rw [coordinateValue, value]
  refine ⟨by rw [coordinateChars, value, decimal], ?_, ?_⟩
  · rw [decimal, coordinateDecimal]
    split <;> simp [thousandths]
  · rw [decimal, coordinateDecimal]
    split
    · rename_i small
      exact whole_finite small.2
    · exact thousandths_finite bits range negative

theorem infinite_chars {x : Float} (special : x.isFinite = false) :
    coordinateChars x ∈ ["NaN".toList, "inf".toList, "-inf".toList] := by
  unfold coordinateChars
  split
  · decide
  · rename_i negative _
    cases negative <;> decide
  · rename_i negative significand exponent value
    rw [(Binary.finite_iff x).mpr ⟨_, _, _, value⟩] at special
    contradiction

end SceneScript.Number
