import Mathlib.Tactic.FieldSimp
import Mathlib.Tactic.LinearCombination
import SceneScript.Proofs.Doubles

/- The text of a finite number is a numeral without a power of ten, and the number is the double
   that this numeral is read as. So different numbers have different texts. -/
namespace SceneScript.Number
open Json.Reading

section Grid
open Shortest
variable {m digits : ℕ} {e scale : ℤ}

theorem interval_low (positive : m ≠ 0) :
    ((interval m e).low : ℚ) * 2 ^ (e - 2) = magnitude m e - gap m e / 2 := by
  have quarter := two_pow_quarter e
  have half : (2 : ℚ) ^ (e - 1) = 2 * 2 ^ (e - 2) := by
    rw [two_pow_pred (e - 1), show e - 1 - 1 = e - 2 by ring]
  have cut (n : ℕ) (small : n ≤ 2) : ((4 * m - n : ℕ) : ℚ) = 4 * m - n := by
    rw [Nat.cast_sub (by omega)]
    push_cast
    rfl
  simp only [interval, gap, magnitude, Nat.pow_eq]
  split
  · rw [cut 1 (by decide), half, quarter]
    push_cast
    ring
  · rw [cut 2 (by decide), quarter]
    push_cast
    ring

theorem interval_high :
    ((interval m e).high : ℚ) * 2 ^ (e - 2) = magnitude m e + 2 ^ e / 2 := by
  simp only [interval, magnitude]
  rw [two_pow_quarter e]
  push_cast
  ring

theorem grid_point (digits : ℕ) (e scale : ℤ) :
    (digits * (step e scale).1 : ℚ) * 2 ^ (e - 2) = digits * 10 ^ scale * (step e scale).2 := by
  have inverse : (2 : ℚ) ^ (2 - e) * 2 ^ (e - 2) = 1 := by
    rw [← zpow_add₀ two_ne_zero, show 2 - e + (e - 2) = 0 by ring, zpow_zero]
  have decimal := pow_toNat 10 (by norm_num) scale
  have binary := pow_toNat 2 two_pos (2 - e)
  rw [neg_sub] at binary
  simp only [step, Nat.pow_eq]
  push_cast
  rw [decimal, binary]
  linear_combination (digits * 10 ^ scale * 10 ^ (-scale).toNat * 2 ^ (e - 2).toNat : ℚ) * inverse

theorem grid_compare (quarters digits : ℕ) (e scale : ℤ) :
    (quarters * (step e scale).2 ≤ digits * (step e scale).1 ↔
        (quarters : ℚ) * 2 ^ (e - 2) ≤ digits * 10 ^ scale) ∧
      (digits * (step e scale).1 ≤ quarters * (step e scale).2 ↔
        (digits : ℚ) * 10 ^ scale ≤ quarters * 2 ^ (e - 2)) := by
  have unit : (0 : ℚ) < 2 ^ (e - 2) := zpow_pos two_pos _
  have positive : (0 : ℚ) < (step e scale).2 := by
    simp only [step, Nat.pow_eq]
    positivity
  have point : ((digits * (step e scale).1 : ℕ) : ℚ) * 2 ^ (e - 2) =
      digits * 10 ^ scale * (step e scale).2 := by
    rw [Nat.cast_mul]
    exact grid_point digits e scale
  have bound : ((quarters * (step e scale).2 : ℕ) : ℚ) * 2 ^ (e - 2) =
      quarters * 2 ^ (e - 2) * (step e scale).2 := by
    push_cast
    ring
  have same_order {a b : ℕ} {p q : ℚ} (left : (a : ℚ) * 2 ^ (e - 2) = p * (step e scale).2)
      (right : (b : ℚ) * 2 ^ (e - 2) = q * (step e scale).2) : a ≤ b ↔ p ≤ q := by
    rw [← Nat.cast_le (α := ℚ), ← mul_le_mul_iff_of_pos_right unit, left, right,
      mul_le_mul_iff_of_pos_right positive]
  exact ⟨same_order bound point, same_order point bound⟩

theorem holds_bounds {i : Interval} {s : ℕ × ℕ} (holds : i.holds s digits = true) :
    i.low * s.2 ≤ digits * s.1 ∧ digits * s.1 ≤ i.high * s.2 ∧
      (digits * s.1 ≤ i.low * s.2 ∨ i.high * s.2 ≤ digits * s.1 → i.closed = true) := by
  unfold Interval.holds at holds
  split at holds
  · rename_i closed
    simp only [Bool.and_eq_true, decide_eq_true_eq] at holds
    exact ⟨holds.1, holds.2, fun _ => closed⟩
  · simp only [Bool.and_eq_true, decide_eq_true_eq] at holds
    exact ⟨holds.1.le, holds.2.le, fun at_end => by omega⟩

theorem holds_rounds (positive : m ≠ 0)
    (holds : (interval m e).holds (step e scale) digits = true) :
    Rounds (digits * 10 ^ scale) m e := by
  obtain ⟨low, high, ends⟩ := holds_bounds holds
  obtain ⟨low_iff, low_end⟩ := grid_compare (interval m e).low digits e scale
  obtain ⟨high_end, high_iff⟩ := grid_compare (interval m e).high digits e scale
  rw [interval_low positive] at low_iff low_end
  rw [interval_high] at high_end high_iff
  refine ⟨low_iff.mp low, high_iff.mp high, fun at_end => ?_⟩
  have outside := at_end.imp (fun same => low_end.mpr same.le) fun same => high_end.mpr same.ge
  exact beq_iff_eq.mp (ends outside)

theorem search_holds {tries : ℕ} {found : ℕ × ℤ} (searched : search m e tries scale = some found) :
    (interval m e).holds (step e found.2) found.1 = true := by
  induction tries generalizing scale with
  | zero => contradiction
  | succ tries ih =>
    rw [search] at searched
    split at searched
    · rename_i digits on_grid
      obtain rfl := Option.some.inj searched
      exact on_grid_holds on_grid
    · exact ih searched

theorem exact_value (m : ℕ) (e : ℤ) :
    ((exact m e).1 : ℚ) * 10 ^ (exact m e).2 = magnitude m e := by
  rw [exact, magnitude]
  split
  · rename_i up
    have whole := pow_toNat 2 two_pos e
    have none_left : (-e).toNat = 0 := by omega
    rw [none_left, pow_zero, mul_one] at whole
    push_cast [Nat.pow_eq]
    rw [whole, mul_one]
  · rename_i down
    have places : (5 : ℚ) ^ (-e).toNat = 5 ^ (-e) := by
      rw [← zpow_natCast, Int.toNat_of_nonneg (by omega)]
    have tenth : (10 : ℚ) ^ e = 5 ^ e * 2 ^ e := by
      rw [← mul_zpow]
      norm_num
    push_cast [Nat.pow_eq]
    rw [places, tenth, zpow_neg]
    field_simp

end Grid

section Reduced

theorem reduce_value (d : Decimal) : d.reduce.negative = d.negative ∧
    (d.reduce.digits * 10 ^ d.reduce.exponent : ℚ) = d.digits * 10 ^ d.exponent ∧
    d.exponent ≤ d.reduce.exponent := by
  induction d using Decimal.reduce.induct with
  | case1 d more ih =>
    rw [Decimal.reduce, dif_pos more]
    obtain ⟨sign, same, longer⟩ := ih
    have tenfold : (d.digits : ℚ) = (d.digits / 10 : ℕ) * 10 :=
      mod_cast (Nat.div_mul_cancel (Nat.dvd_of_mod_eq_zero more.2)).symm
    refine ⟨sign, ?_, (Int.le_add_one le_rfl).trans longer⟩
    rw [same, tenfold, zpow_add_one₀ (by norm_num)]
    ring
  | case2 d last =>
    rw [Decimal.reduce, dif_neg last]
    exact ⟨rfl, rfl, le_rfl⟩

theorem reduce_last {d : Decimal} (positive : d.reduce.digits ≠ 0) :
    d.reduce.digits % 10 ≠ 0 := by
  induction d using Decimal.reduce.induct with
  | case1 d more ih =>
    rw [Decimal.reduce, dif_pos more] at positive ⊢
    exact ih positive
  | case2 d last =>
    rw [Decimal.reduce, dif_neg last] at positive ⊢
    exact fun zero => last ⟨positive, zero⟩

theorem shortest_rounds {m : ℕ} (positive : m ≠ 0) (negative : Bool) (e : ℤ) :
    Rounds ((shortest negative m e).digits * 10 ^ (shortest negative m e).exponent) m e := by
  rw [shortest]
  dsimp only
  let start := Shortest.ceiling m e
  cases searched : Shortest.search m e 24 start with
  | none =>
    rw [(reduce_value _).2.1]
    exact (exact_value m e).symm ▸ rounds_itself m e
  | some found =>
    rw [(reduce_value _).2.1]
    exact holds_rounds positive (search_holds searched)

end Reduced

/-- A numeral without a power of ten: digits without superfluous zeros in front, and places that do
    not end in a zero. -/
structure Numeral (cs : List Char) (negative : Bool) (whole places : List Char) : Prop where
  text : cs = (if negative then ['-'] else []) ++ (whole ++ point places)
  whole : IsWhole whole
  digits : ∀ c ∈ places, c.isDigit = true
  last : places.getLast? ≠ some '0'

section Numerals

theorem nothing_ended : Ended [] := by
  rintro c ⟨⟩

theorem point_fraction {places : List Char} (digits : ∀ c ∈ places, c.isDigit = true) :
    IsFraction (point places) := by
  unfold point
  split
  · exact Or.inl rfl
  · rename_i filled
    exact Or.inr ⟨places, rfl, filled, digits⟩

theorem numeral_taken {cs whole places : List Char} {negative : Bool}
    (numeral : Numeral cs negative whole places) : number? cs = some (cs, []) := by
  have read := number_read negative numeral.whole (point_fraction numeral.digits) nothing_ended
  rw [List.append_nil, ← numeral.text] at read
  exact read

theorem zeros_written {n : ℕ} (positive : n ≠ 0) (zeros : ℕ) :
    Nat.toDigits 10 (n * 10 ^ zeros) = Nat.toDigits 10 n ++ List.replicate zeros '0' := by
  induction zeros with
  | zero => simp
  | succ zeros ih =>
    have more : n * 10 ^ (zeros + 1) = 10 * (n * 10 ^ zeros) := by ring
    have filled : 0 < n * 10 ^ zeros := by positivity
    rw [more, Nat.toDigits_of_base_le (by decide) (by omega), Nat.mul_div_cancel_left _ (by decide),
      Nat.mul_mod_right, ih, List.append_assoc, List.replicate_succ']
    rfl

def Decimal.spread (d : Decimal) : Decimal :=
  ⟨d.negative, d.digits * 10 ^ d.exponent.toNat, min d.exponent 0⟩

theorem spread_chars {d : Decimal} (positive : d.digits ≠ 0) : d.spread.toChars = d.toChars := by
  rw [Decimal.toChars, Decimal.toChars, Decimal.spread, Decimal.positional, Decimal.positional]
  rcases Int.le_total 0 d.exponent with up | down
  · rw [min_eq_right up, if_pos le_rfl, if_pos up, zeros_written positive]
    simp
  · rw [min_eq_left down, Int.toNat_of_nonpos down, pow_zero, mul_one]

theorem spread_value (d : Decimal) : d.spread.value = d.value := by
  have scaled : (d.digits * 10 ^ d.exponent.toNat : ℕ) * (10 : ℚ) ^ min d.exponent 0 =
      d.digits * 10 ^ d.exponent := by
    rcases Int.le_total 0 d.exponent with up | down
    · have whole := pow_toNat 10 (by norm_num) d.exponent
      rw [Int.toNat_of_nonpos (show -d.exponent ≤ 0 by omega), pow_zero, mul_one] at whole
      push_cast
      rw [min_eq_right up, zpow_zero, mul_one, whole]
    · rw [min_eq_left down, Int.toNat_of_nonpos down, pow_zero, mul_one]
  rw [Decimal.value, Decimal.value, ← scaled]
  rfl

theorem digitsValue_last (cs : List Char) (c : Char) :
    digitsValue (cs ++ [c]) = 10 * digitsValue cs + (c.toNat - '0'.toNat) := by
  rw [digitsValue, List.foldl_append]
  rfl

/-- Of the two ways to cut a numeral in parts, by its value and by its grammar, both end the whole
    part at the first character that is no digit. -/
theorem Written.numeral {d : Decimal} {whole places : List Char} (written : Written d whole places)
    (positive : d.digits ≠ 0) (last : d.digits % 10 ≠ 0 ∨ d.exponent = 0) :
    Numeral d.toChars d.negative whole places := by
  have digits : ∀ c ∈ places, c.isDigit = true := fun c member =>
    written.numeric c (List.mem_append_right _ member)
  refine ⟨written.text, ?_, digits, ?_⟩
  · obtain ⟨front, back, text, valid, fraction⟩ := Decimal.positional_parts positive d.exponent
    have same : whole ++ point places = front ++ back := by
      have own := written.text
      rw [Decimal.toChars, text] at own
      exact (List.append_cancel_left own).symm
    have ended : ∀ c, back.head? = some c → c.isDigit = false := by
      rcases fraction with rfl | ⟨ds, rfl, _⟩
      · rintro c ⟨⟩
      · rintro c ⟨⟩
        rfl
    have first := written.whole_read nothing_ended
    have second := digits_read valid.digits ended
    rw [List.append_nil, same, second] at first
    exact (Prod.mk.inj first).1 ▸ valid
  · intro zero
    obtain ⟨front, rfl⟩ := List.getLast?_eq_some_iff.mp zero
    have value := written.value
    rw [← List.append_assoc, digitsValue_last] at value
    have exponent := written.exponent
    rw [List.length_append, List.length_singleton] at exponent
    rcases last with last | last
    · omega
    · omega

theorem decimal_numeral {d : Decimal} (last : d.digits % 10 ≠ 0) :
    (∃ whole places, Numeral d.toChars d.negative whole places) ∧
      ∃ r, Decimal.ofChars? d.toChars = some r ∧ r.value = d.value := by
  have positive : d.digits ≠ 0 := fun zero => last (by rw [zero])
  have down : d.spread.exponent ≤ 0 := min_le_right _ _
  rw [← spread_chars positive]
  refine ⟨?_, d.spread, ofChars_toChars down, spread_value d⟩
  obtain ⟨whole, places, written⟩ := written_of_places down
  refine ⟨whole, places, written.numeral ?_ ?_⟩
  · exact Nat.mul_ne_zero positive (by positivity)
  · rcases Int.le_total 0 d.exponent with up | down
    · exact Or.inr (min_eq_right up)
    · left
      rw [Decimal.spread, Int.toNat_of_nonpos down, pow_zero, mul_one]
      exact last

end Numerals

section Whole
open Shortest
variable {m n : ℕ} {e scale : ℤ}

theorem search_stops {tries : ℕ} {start : ℤ} (above : scale ≤ start) (near : start < scale + tries)
    {digits : ℕ} (present : onGrid? m e scale = some digits) :
    ∃ digits place, search m e tries start = some (digits, place) ∧ scale ≤ place := by
  induction tries generalizing start with
  | zero => omega
  | succ tries ih =>
    rw [search]
    split
    · exact ⟨_, _, rfl, above⟩
    · rename_i none_here
      have passed : start ≠ scale := by
        rintro rfl
        rw [present] at none_here
        contradiction
      exact ih (by omega) (by omega)

theorem step_positive (e scale : ℤ) : 0 < (step e scale).1 ∧ 0 < (step e scale).2 := by
  simp only [step, Nat.pow_eq]
  constructor <;> positivity

theorem on_whole_grid (positive : m ≠ 0) (whole : magnitude m e = n) :
    onGrid? m e 0 = some n := by
  obtain ⟨grid, quarter⟩ := step_positive e 0
  have same : 4 * m * (step e 0).2 = n * (step e 0).1 := by
    have unit : (0 : ℚ) < 2 ^ (e - 2) := zpow_pos two_pos _
    have cast : ((4 * m * (step e 0).2 : ℕ) : ℚ) * 2 ^ (e - 2) =
        (n * (step e 0).1 : ℕ) * 2 ^ (e - 2) := by
      push_cast
      rw [grid_point, zpow_zero, mul_one, ← whole, magnitude, two_pow_quarter e]
      ring
    exact Nat.cast_injective (mul_right_cancel₀ unit.ne' cast)
  have low : (interval m e).low < 4 * m := by
    simp only [interval]
    split <;> omega
  have high : 4 * m < (interval m e).high := Nat.lt_add_of_pos_right (by decide)
  have above := Nat.mul_lt_mul_of_pos_right low quarter
  have below := Nat.mul_lt_mul_of_pos_right high quarter
  rw [same] at above below
  have holds : (interval m e).holds (step e 0) n = true := by
    unfold Interval.holds
    split
    · simp only [decide_eq_true above.le, decide_eq_true below.le, Bool.and_self]
    · simp only [decide_eq_true above, decide_eq_true below, Bool.and_self]
  rw [onGrid?]
  simp only [same, Nat.mul_div_cancel n grid, Nat.mul_mod_left, Nat.mul_zero,
    if_neg (Nat.not_le.mpr grid), if_pos holds]

theorem whole_exponent (canonical : Canonical m e) (whole : magnitude m e = n)
    (small : n < 10 ^ 15) : e ≤ 0 := by
  by_contra positive
  have full := canonical.full.resolve_left (by omega)
  have unit : (1 : ℚ) ≤ 2 ^ e := one_le_zpow₀ one_le_two (by omega)
  have least : (m : ℚ) ≤ n := by
    rw [← whole, magnitude]
    exact le_mul_of_one_le_right (Nat.cast_nonneg m) unit
  have bound : m ≤ n := Nat.cast_le.mp least
  omega

theorem rounds_whole (canonical : Canonical m e) (whole : magnitude m e = n) (small : n < 10 ^ 15)
    {k : ℕ} (rounds : Rounds k m e) : k = n := by
  have unit : (2 : ℚ) ^ e ≤ 1 :=
    zpow_le_one_of_nonpos₀ one_le_two (whole_exponent canonical whole small)
  have narrow := gap_le m e
  have above := rounds.above
  have below := rounds.below
  rw [whole] at above below
  have upper : (k : ℚ) < (n + 1 : ℕ) := by
    push_cast
    linarith
  have lower : (n : ℚ) < (k + 1 : ℕ) := by
    push_cast
    linarith
  have := Nat.cast_lt.mp upper
  have := Nat.cast_lt.mp lower
  omega

/-- The search comes to the grid of whole numbers, so it ends there at the latest. -/
theorem whole_places (canonical : Canonical m e) (positive : m ≠ 0) (whole : magnitude m e = n)
    (small : n < 10 ^ 15) (negative : Bool) : 0 ≤ (shortest negative m e).exponent := by
  obtain ⟨k, rfl⟩ := Int.exists_eq_neg_ofNat (whole_exponent canonical whole small)
  have scaled : m = n * 2 ^ k := by
    have unit : (2 : ℚ) ^ k ≠ 0 := by positivity
    rw [magnitude, zpow_neg, zpow_natCast] at whole
    have product : (m : ℚ) = n * 2 ^ k := by
      rw [← whole, inv_mul_cancel_right₀ unit]
    exact_mod_cast product
  have some_units : n ≠ 0 := by
    rintro rfl
    exact positive (by rw [scaled, Nat.zero_mul])
  have least : k ≤ m.log2 := by
    rw [Nat.le_log2 positive, scaled]
    exact Nat.le_mul_of_pos_left _ (Nat.pos_of_ne_zero some_units)
  have most : m.log2 < 50 + k := by
    rw [Nat.log2_lt positive, scaled, pow_add]
    exact Nat.mul_lt_mul_of_pos_right (by omega) (by positivity)
  have start : 0 ≤ ceiling m (-k) ∧ ceiling m (-k) < 0 + (24 : ℕ) := by
    rw [ceiling, Int.fdiv_eq_ediv_of_nonneg _ (by decide)]
    omega
  obtain ⟨digits, place, found, whole_place⟩ :=
    search_stops start.1 start.2 (on_whole_grid positive whole)
  rw [shortest, found]
  exact whole_place.trans (reduce_value _).2.2

theorem whole_chars (canonical : Canonical m e) (positive : m ≠ 0) (whole : magnitude m e = n)
    (small : n < 10 ^ 15) (negative : Bool) :
    (shortest negative m e).toChars = (if negative then ['-'] else []) ++ Nat.toDigits 10 n := by
  have up := whole_places canonical positive whole small negative
  have sign : (shortest negative m e).negative = negative := (reduce_value _).1
  have rounds := shortest_rounds positive negative e
  have digits := shortest_positive negative positive e
  obtain ⟨zeros, exponent⟩ := Int.eq_ofNat_of_zero_le up
  rw [exponent, zpow_natCast] at rounds
  have own : (shortest negative m e).digits * 10 ^ zeros = n :=
    rounds_whole canonical whole small (mod_cast rounds)
  rw [Decimal.toChars, Decimal.positional, sign, exponent, if_pos (Int.natCast_nonneg zeros),
    Int.toNat_natCast, ← zeros_written digits, own]

end Whole

section Texts
variable {x y : Float} {negative : Bool} {m : ℕ} {e : ℤ}

theorem finite_chars (decoded : Binary.ofFloat x = .finite negative m e) :
    toChars x = if m = 0 then ['0'] else (shortest negative m e).toChars := by
  rw [toChars, decoded]

theorem zero_numeral : Numeral ['0'] false ['0'] [] :=
  ⟨rfl, ⟨by simp, by simp, fun _ => rfl⟩, by simp, by simp⟩

theorem finite_numeral (decoded : Binary.ofFloat x = .finite negative m e) :
    (∃ negative whole places, Numeral (toChars x) negative whole places) ∧
      ∃ d, Decimal.ofChars? (toChars x) = some d ∧ Rounds |d.value| m e ∧
        d.value = signed negative |d.value| := by
  rw [finite_chars decoded]
  split
  · rename_i zero
    subst zero
    have none_left : (⟨false, 0, 0⟩ : Decimal).value = 0 := by simp [Decimal.value, signed]
    refine ⟨⟨_, _, _, zero_numeral⟩, ⟨false, 0, 0⟩, by decide, ?_, ?_⟩
    · rw [none_left, abs_zero, ← magnitude_zero e]
      exact rounds_itself 0 e
    · rw [none_left, abs_zero]
      cases negative <;> simp [signed]
  · rename_i positive
    have last : (shortest negative m e).digits % 10 ≠ 0 :=
      reduce_last (shortest_positive negative positive e)
    obtain ⟨⟨whole, places, numeral⟩, d, read, same⟩ := decimal_numeral last
    have sign : (shortest negative m e).negative = negative := (reduce_value _).1
    have length : |d.value| =
        (shortest negative m e).digits * 10 ^ (shortest negative m e).exponent := by
      rw [same, Decimal.value, abs_signed, abs_of_nonneg (by positivity)]
    refine ⟨⟨_, _, _, numeral⟩, d, read, ?_, ?_⟩
    · rw [length]
      exact shortest_rounds positive negative e
    · rw [length, same, Decimal.value, sign]

theorem special_unread (special : y.isFinite = false) : number? (toChars y) = none := by
  have words : ∀ word ∈ wordNumbers, number? word = none := by decide
  apply words
  unfold toChars
  split
  · decide
  · rename_i negative _
    cases negative <;> decide
  · rename_i negative significand exponent decoded
    rw [(Binary.finite_iff y).mpr ⟨_, _, _, decoded⟩] at special
    contradiction

theorem text_injective (finite : x.isFinite = true) (other : y.isFinite = true)
    (same : toChars y = toChars x) : y = x ∨ value x = 0 ∧ value y = 0 := by
  obtain ⟨negative, m, e, decoded⟩ := (Binary.finite_iff x).mp finite
  obtain ⟨other_negative, m', e', other_decoded⟩ := (Binary.finite_iff y).mp other
  obtain ⟨_, d, read, rounds, sign⟩ := finite_numeral decoded
  obtain ⟨_, d', other_read, other_rounds, other_sign⟩ := finite_numeral other_decoded
  rw [same, read] at other_read
  obtain rfl := Option.some.inj other_read
  have canonical := Binary.word_canonical decoded
  obtain ⟨rfl, rfl⟩ := rounds_unique rounds other_rounds canonical
    (Binary.word_canonical other_decoded)
  have own := decoded_value decoded
  have own' := decoded_value other_decoded
  by_cases signs : negative = other_negative
  · rw [signs, ← own'] at own
    exact (value_injective finite other own).imp Eq.symm fun zero => ⟨zero, own ▸ zero⟩
  · -- Only zero is read the same with both signs.
    have none_left : |d.value| = 0 := by
      rw [Bool.eq_not_of_ne (Ne.symm signs), signed_not, ← sign] at other_sign
      exact abs_eq_zero.mpr (by linarith)
    have zero : m = 0 := by
      rw [none_left, ← magnitude_zero (-1074)] at rounds
      exact (rounds_unique rounds (rounds_itself 0 (-1074)) canonical zero_canonical).1
    rw [own, own', zero, magnitude_zero]
    right
    cases negative <;> cases other_negative <;> simp [signed]

theorem whole_text {n : ℤ} (finite : x.isFinite = true) (whole : value x = n)
    (small : |n| < 10 ^ 15) : text x = toString n := by
  obtain ⟨negative, m, e, decoded⟩ := (Binary.finite_iff x).mp finite
  have canonical := Binary.word_canonical decoded
  have own := decoded_value decoded
  obtain ⟨k, size⟩ : ∃ k, n.natAbs = k := ⟨_, rfl⟩
  have length : magnitude m e = k := size ▸ magnitude_of_whole decoded whole
  have below : k < 10 ^ 15 := by
    rw [← Int.natCast_natAbs, size] at small
    exact_mod_cast small
  rw [text, finite_chars decoded]
  split
  · rename_i zero
    rw [zero, magnitude_zero] at length
    have none_left : k = 0 := Nat.cast_eq_zero.mp length.symm
    rw [Int.natAbs_eq_zero.mp (size.trans none_left)]
    rfl
  · rename_i positive
    have units : k ≠ 0 := by
      rintro rfl
      rw [Nat.cast_zero, ← magnitude_zero (-1074)] at length
      exact positive (magnitude_injective canonical zero_canonical length).1
    rw [whole_chars canonical positive length below negative, Int.toString_eq_repr, Int.repr_eq_if]
    rw [whole, length] at own
    cases negative with
    | false =>
      have same : n = k := by
        have cast : (n : ℚ) = (k : ℚ) := own
        exact_mod_cast cast
      rw [same, if_pos (Int.natCast_nonneg k), Int.toNat_natCast]
      exact Nat.toString_eq_ofList_toDigits.symm
    | true =>
      have same : n = -k := by
        have cast : (n : ℚ) = -(k : ℚ) := own
        exact_mod_cast cast
      rw [same, if_neg (show ¬ 0 ≤ -(k : ℤ) by omega), neg_neg, Int.toNat_natCast]
      rw [if_pos rfl, String.ofList_append]
      exact congrArg ("-" ++ ·) Nat.toString_eq_ofList_toDigits.symm

end Texts

/-- The text of a finite number is a numeral without a power of ten: a minus or none, digits without
    superfluous zeros in front, and perhaps places, the last of which is no zero; the reader takes
    all of it for one number. The number is the double that this numeral is read as, by rounding to
    the nearest one and of two to the even one. A whole number below `10 ^ 15` is written as such,
    so zero has no sign. Therefore no other number has this text, zeros apart, and neither have
    `NaN` and the infinities. -/
theorem text_reads_back (x : Float) (finite : x.isFinite = true) :
    (∃ negative whole places, Numeral (text x).toList negative whole places) ∧
      number? (text x).toList = some ((text x).toList, []) ∧
      (∃ d, Decimal.ofChars? (text x).toList = some d ∧ ReadAs d.value x) ∧
      (∀ n : ℤ, value x = n → |n| < 10 ^ 15 → text x = toString n) ∧
      ∀ y : Float, text y = text x →
        y.isFinite = true ∧ (y = x ∨ value x = 0 ∧ value y = 0) := by
  obtain ⟨negative, m, e, decoded⟩ := (Binary.finite_iff x).mp finite
  obtain ⟨numeral, d, read, rounds, sign⟩ := finite_numeral decoded
  have chars (y : Float) : (text y).toList = toChars y := String.toList_ofList
  have taken : number? (toChars x) = some (toChars x, []) := by
    obtain ⟨_, _, _, numeral⟩ := numeral
    exact numeral_taken numeral
  rw [chars]
  refine ⟨numeral, taken, ⟨d, read, read_as_of_rounds decoded rounds sign⟩,
    fun n => whole_text finite, fun y same => ?_⟩
  have same_chars : toChars y = toChars x := by
    rw [← chars, same, chars]
  cases other : y.isFinite with
  | false =>
    have unread := special_unread other
    rw [same_chars, taken] at unread
    contradiction
  | true => exact ⟨rfl, text_injective finite other same_chars⟩

/-- The double nearest to `10 ^ 23` is another number, and still has this text. -/
theorem power_reads_back :
    (1e23 : Float).isFinite = true ∧ text 1e23 = "100000000000000000000000" ∧
      value 1e23 ≠ 10 ^ 23 ∧ ReadAs (10 ^ 23) 1e23 := by
  have finite : (1e23 : Float).isFinite = true := by decide +kernel
  have spelled : text 1e23 = "100000000000000000000000" := by decide +kernel
  have decoded : Binary.ofFloat 1e23 = .finite false 5960464477539062 24 := by decide +kernel
  have parsed : Decimal.ofChars? "100000000000000000000000".toList = some ⟨false, 10 ^ 23, 0⟩ := by
    decide +kernel
  obtain ⟨_, _, ⟨d, read, read_as⟩, _⟩ := text_reads_back 1e23 finite
  rw [spelled, parsed] at read
  obtain rfl := Option.some.inj read
  have meant : (⟨false, 10 ^ 23, 0⟩ : Decimal).value = 10 ^ 23 := by
    norm_num [Decimal.value, signed]
  refine ⟨finite, spelled, ?_, meant ▸ read_as⟩
  rw [decoded_value decoded, magnitude, signed]
  norm_num

end SceneScript.Number
