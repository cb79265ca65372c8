import Mathlib.Tactic.Positivity
import SceneScript.Json.Tree
import SceneScript.Number.Shortest

/- The text of a number is one token of the reader: digits that start with no zero but a single
   one, a fraction or none, and no exponent; or one of the words. -/
namespace SceneScript

namespace Json.Reading

structure IsWhole (cs : List Char) : Prop where
  filled : cs ≠ []
  digits : ∀ c ∈ cs, c.isDigit = true
  zero : cs.head? = some '0' → cs = ['0']

def IsFraction (cs : List Char) : Prop :=
  cs = [] ∨ ∃ ds, cs = '.' :: ds ∧ ds ≠ [] ∧ ∀ c ∈ ds, c.isDigit = true

/-- What ends a number: nothing that would make it longer. -/
def Ended (rest : List Char) : Prop :=
  ∀ c, rest.head? = some c → c.isDigit = false ∧ c ≠ '.' ∧ c ≠ 'e' ∧ c ≠ 'E'

theorem digits_read {ds rest : List Char} (all_digits : ∀ c ∈ ds, c.isDigit = true)
    (ended : ∀ c, rest.head? = some c → c.isDigit = false) : digits (ds ++ rest) = (ds, rest) := by
  have none_taken : rest.takeWhile Char.isDigit = [] := by
    cases rest with
    | nil => rfl
    | cons c rest => simp [ended c rfl]
  have none_dropped : rest.dropWhile Char.isDigit = rest := by
    cases rest with
    | nil => rfl
    | cons c rest => simp [ended c rfl]
  rw [digits, List.takeWhile_append_of_pos all_digits, List.dropWhile_append_of_pos all_digits,
    none_taken, none_dropped, List.append_nil]

theorem whole_read {whole rest : List Char} (valid : IsWhole whole)
    (ended : ∀ c, rest.head? = some c → c.isDigit = false) :
    wholeDigits? (whole ++ rest) = some (whole, rest) := by
  have split := digits_read valid.digits ended
  cases whole with
  | nil => exact absurd rfl valid.filled
  | cons c cs =>
    by_cases zero : c = '0'
    · subst c
      obtain ⟨⟩ := valid.zero rfl
      cases rest with
      | nil => rfl
      | cons d rest => simp [wholeDigits?, ended d rfl]
    · rw [List.cons_append] at split ⊢
      rw [wholeDigits?]
      · rw [split]
        rfl
      · rintro _ same
        exact zero (List.cons.inj same).1

theorem fraction_read {fraction rest : List Char} (valid : IsFraction fraction)
    (ended : Ended rest) : fractionDigits? (fraction ++ rest) = some (fraction, rest) := by
  rcases valid with rfl | ⟨ds, rfl, filled, all_digits⟩
  · rw [List.nil_append, fractionDigits?]
    rintro _ rfl
    exact (ended '.' rfl).2.1 rfl
  · rw [List.cons_append, fractionDigits?, digits_read all_digits fun c head => (ended c head).1]
    cases ds with
    | nil => contradiction
    | cons d ds => rfl

theorem exponent_read {rest : List Char} (ended : Ended rest) :
    exponentDigits? rest = some ([], rest) := by
  cases rest with
  | nil => rfl
  | cons c rest =>
    exact if_neg (not_or.mpr (ended c rfl).2.2)

theorem number_read (negative : Bool) {whole fraction rest : List Char} (valid : IsWhole whole)
    (places : IsFraction fraction) (ended : Ended rest) :
    number? ((if negative then ['-'] else []) ++ (whole ++ (fraction ++ rest))) =
      some ((if negative then ['-'] else []) ++ (whole ++ fraction), rest) := by
  have point : ∀ c, (fraction ++ rest).head? = some c → c.isDigit = false := by
    rcases places with rfl | ⟨ds, rfl, _⟩
    · exact fun c head => (ended c head).1
    · rintro c ⟨⟩
      rfl
  have whole_rest := whole_read valid point
  cases negative with
  | true =>
    simp only [number?, ↓reduceIte, List.cons_append, List.nil_append, whole_rest,
      Option.bind_eq_bind, Option.bind_some, fraction_read places ended, exponent_read ended,
      List.append_nil]
  | false =>
    have no_minus : ∀ more, whole ++ (fraction ++ rest) ≠ '-' :: more := by
      intro more same
      cases whole with
      | nil => exact valid.filled rfl
      | cons c cs =>
        obtain ⟨rfl, _⟩ := List.cons.inj same
        simpa using valid.digits '-' List.mem_cons_self
    simp only [Bool.false_eq_true, ↓reduceIte, List.nil_append]
    rw [number?]
    · simp only [whole_rest, Option.bind_eq_bind, Option.bind_some, fraction_read places ended,
        exponent_read ended, List.append_nil, List.nil_append]
    · exact no_minus

end Json.Reading

namespace Number
open Json.Reading

theorem digits_no_zero {n : Nat} (positive : n ≠ 0) : (Nat.toDigits 10 n).head? ≠ some '0' := by
  induction n using Nat.strongRecOn with
  | ind n ih =>
    by_cases small : n < 10
    · rw [Nat.toDigits_of_lt_base small]
      simpa using positive
    · have front := ih (n / 10) (by omega) (by omega)
      rw [Nat.toDigits_of_base_le (by decide) (by omega), List.head?_append]
      have filled : Nat.toDigits 10 (n / 10) ≠ [] := Nat.toDigits_ne_nil
      obtain ⟨c, _, digits⟩ := List.exists_cons_of_ne_nil filled
      simpa [digits] using front

theorem digits_are_digits (n : Nat) : ∀ c ∈ Nat.toDigits 10 n, c.isDigit = true :=
  fun _ member => Nat.isDigit_of_mem_toDigits (by decide) (by decide) member

theorem padded_digits {digits length : Nat} :
    ∀ c ∈ (Nat.toDigits 10 digits).leftpad length '0', c.isDigit = true := by
  intro c member
  rcases List.mem_append.mp member with zero | own
  · rw [(List.mem_replicate.mp zero).2]
    decide
  · exact digits_are_digits digits c own

namespace Decimal

theorem positional_whole {digits : Nat} (positive : digits ≠ 0) {exponent : Int}
    (up : 0 ≤ exponent) : IsWhole (positional digits exponent) := by
  have filled : Nat.toDigits 10 digits ≠ [] := Nat.toDigits_ne_nil
  obtain ⟨c, cs, spelled⟩ := List.exists_cons_of_ne_nil filled
  have no_zero := digits_no_zero positive
  rw [positional, if_pos up]
  refine ⟨by simp [spelled], fun d member => ?_, fun zero => ?_⟩
  · rcases List.mem_append.mp member with own | zero
    · exact digits_are_digits digits d own
    · rw [(List.mem_replicate.mp zero).2]
      decide
  · rw [spelled] at zero no_zero
    exact absurd zero no_zero

theorem padded_whole {digits : Nat} (positive : digits ≠ 0) (places : Nat) :
    let written := (Nat.toDigits 10 digits).leftpad (places + 1) '0'
    IsWhole (written.take (written.length - places)) := by
  intro written
  have length : written.length = max (places + 1) (Nat.toDigits 10 digits).length :=
    List.length_leftpad
  refine ⟨fun empty => ?_, fun c member => padded_digits c (List.mem_of_mem_take member),
    fun zero => ?_⟩
  · have none_left := congrArg List.length empty
    simp only [List.length_take, List.length_nil] at none_left
    omega
  · -- Padding leaves one zero before the point; without padding the first digit is no zero.
    by_cases short : (Nat.toDigits 10 digits).length ≤ places
    · have one : written.length - places = 1 := by omega
      rw [one, List.take_one] at zero ⊢
      cases first : written.head? with
      | none => simp [first] at zero
      | some c => simpa [first] using zero
    · have own : written = Nat.toDigits 10 digits := by
        have no_pad : places + 1 - (Nat.toDigits 10 digits).length = 0 := by omega
        simp only [written, List.leftpad, no_pad, List.replicate_zero, List.nil_append]
      rw [List.head?_take, if_neg (by omega), own] at zero
      exact absurd zero (digits_no_zero positive)

theorem positional_parts {digits : Nat} (positive : digits ≠ 0) (exponent : Int) :
    ∃ whole fraction, positional digits exponent = whole ++ fraction ∧ IsWhole whole ∧
      IsFraction fraction := by
  by_cases up : 0 ≤ exponent
  · exact ⟨_, [], (List.append_nil _).symm, positional_whole positive up, Or.inl rfl⟩
  · refine ⟨_, _, by rw [positional, if_neg up], padded_whole positive _, Or.inr ⟨_, rfl, ?_, ?_⟩⟩
    · intro empty
      have none_left := congrArg List.length empty
      simp only [List.length_drop, List.length_leftpad, List.length_nil] at none_left
      omega
    · exact fun c member => padded_digits c (List.mem_of_mem_drop member)

theorem reduce_positive {d : Decimal} (positive : d.digits ≠ 0) : d.reduce.digits ≠ 0 := by
  induction d using reduce.induct with
  | case1 d more ih =>
    rw [reduce, dif_pos more]
    refine ih ?_
    change d.digits / 10 ≠ 0
    obtain ⟨_, tenfold⟩ := more
    omega
  | case2 d last =>
    rw [reduce, dif_neg last]
    exact positive

end Decimal

namespace Shortest

theorem holds_positive {significand digits : Nat} {exponent scale : Int} (value : significand ≠ 0)
    (holds : (interval significand exponent).holds (step exponent scale) digits = true) :
    digits ≠ 0 := by
  rintro rfl
  have low : 0 < (interval significand exponent).low := by
    unfold interval
    dsimp only
    split <;> omega
  have unit : 0 < (step exponent scale).2 := by
    simp only [step, Nat.pow_eq]
    positivity
  have bound := Nat.mul_pos low unit
  unfold Interval.holds at holds
  rw [Nat.zero_mul] at holds
  split at holds
  · simp only [Bool.and_eq_true, decide_eq_true_eq] at holds
    omega
  · simp at holds

theorem on_grid_holds {significand digits : Nat} {exponent scale : Int}
    (found : onGrid? significand exponent scale = some digits) :
    (interval significand exponent).holds (step exponent scale) digits = true := by
  have first_held (i : Interval) (s : Nat × Nat) (nearer farther : Nat)
      (found : (if i.holds s nearer then some nearer
        else if i.holds s farther then some farther else none) = some digits) :
      i.holds s digits = true := by
    split at found
    · rename_i held
      exact Option.some.inj found ▸ held
    · split at found
      · rename_i held
        exact Option.some.inj found ▸ held
      · contradiction
  exact first_held _ _ _ _ found

theorem search_positive {significand : Nat} {exponent : Int} (value : significand ≠ 0)
    {tries : Nat} {scale : Int} {found : Nat × Int}
    (searched : search significand exponent tries scale = some found) : found.1 ≠ 0 := by
  induction tries generalizing scale with
  | zero => contradiction
  | succ tries ih =>
    rw [search] at searched
    split at searched
    · rename_i digits on_grid
      obtain rfl := Option.some.inj searched
      exact holds_positive value (on_grid_holds on_grid)
    · exact ih searched

theorem exact_positive {significand : Nat} (value : significand ≠ 0) (exponent : Int) :
    (exact significand exponent).1 ≠ 0 := by
  simp only [exact, Nat.pow_eq]
  split <;> positivity

end Shortest

theorem shortest_positive (negative : Bool) {significand : Nat} (value : significand ≠ 0)
    (exponent : Int) : (shortest negative significand exponent).digits ≠ 0 := by
  rw [shortest]
  refine Decimal.reduce_positive ?_
  dsimp only
  let start := Shortest.ceiling significand exponent
  cases searched : Shortest.search significand exponent 24 start with
  | none => exact Shortest.exact_positive value exponent
  | some found => exact Shortest.search_positive value searched

theorem toChars_parts (x : Float) :
    toChars x ∈ wordNumbers ∨ ∃ (negative : Bool) (whole fraction : List Char),
      toChars x = (if negative then ['-'] else []) ++ (whole ++ fraction) ∧ IsWhole whole ∧
        IsFraction fraction := by
  unfold toChars
  split
  · exact Or.inl (by decide)
  · rename_i negative _
    exact Or.inl (by cases negative <;> decide)
  · rename_i negative significand exponent _
    right
    by_cases zero : significand = 0
    · have single : IsWhole ['0'] := ⟨by simp, by simp, fun _ => rfl⟩
      exact ⟨false, ['0'], [], if_pos zero, single, Or.inl rfl⟩
    · obtain ⟨whole, fraction, parts, valid, places⟩ := Decimal.positional_parts
        (shortest_positive negative zero exponent) (shortest negative significand exponent).exponent
      refine ⟨(shortest negative significand exponent).negative, whole, fraction, ?_, valid, places⟩
      rw [if_neg zero, Decimal.toChars, parts]

end Number

namespace Json.Reading

theorem word_read {word : List Char} (member : word ∈ wordNumbers) (fuel : Nat) (rest : List Char) :
    value? true (fuel + 1) (word ++ rest) = some (.number word, rest) := by
  simp only [wordNumbers, List.mem_cons, List.not_mem_nil, or_false] at member
  rcases member with rfl | rfl | rfl <;> rfl

theorem digit_apart {d c : Char} (digit : d.isDigit = true) (other : c.isDigit = false) :
    d ≠ c := by
  rintro rfl
  rw [digit] at other
  contradiction

theorem value_atom {dialect : Bool} {c : Char} (quote : c ≠ '"') (bracket : c ≠ '[')
    (brace : c ≠ '\x7b') (fuel : Nat) (rest : List Char) :
    value? dialect (fuel + 1) (c :: rest) = atom? dialect (c :: rest) := by
  rw [value?, if_neg quote, if_neg bracket, if_neg brace]

theorem atom_number {c : Char} {rest : List Char} (plain : c ≠ 'n' ∧ c ≠ 't' ∧ c ≠ 'f')
    (no_word : ∀ word ∈ wordNumbers, ¬ word.isPrefixOf (c :: rest) = true) :
    atom? true (c :: rest) =
      (number? (c :: rest)).map fun (written, rest) => (.number written, rest) := by
  rw [atom?]
  · simp only [↓reduceIte, List.find?_eq_none.mpr no_word]
  · exact fun _ same => plain.1 (List.cons.inj same).1
  · exact fun _ same => plain.2.1 (List.cons.inj same).1
  · exact fun _ same => plain.2.2 (List.cons.inj same).1

theorem numeral_read (negative : Bool) {whole fraction rest : List Char} (valid : IsWhole whole)
    (places : IsFraction fraction) (ended : Ended rest) (fuel : Nat) :
    value? true (fuel + 1) ((if negative then ['-'] else []) ++ (whole ++ (fraction ++ rest))) =
      some (.number ((if negative then ['-'] else []) ++ (whole ++ fraction)), rest) := by
  have read := number_read negative valid places ended
  obtain ⟨d, ds, rfl⟩ := List.exists_cons_of_ne_nil valid.filled
  have digit := valid.digits d List.mem_cons_self
  have apart : ∀ c : Char, c.isDigit = false → d ≠ c := fun c => digit_apart digit
  cases negative with
  | true =>
    simp only [↓reduceIte, List.cons_append, List.nil_append] at read ⊢
    rw [value_atom (by decide) (by decide) (by decide), atom_number (by decide), read]
    · rfl
    · have letter := (apart 'I' rfl).symm
      simp [wordNumbers, letter]
  | false =>
    simp only [Bool.false_eq_true, ↓reduceIte, List.cons_append, List.nil_append] at read ⊢
    rw [value_atom (apart _ rfl) (apart _ rfl) (apart _ rfl),
      atom_number ⟨apart _ rfl, apart _ rfl, apart _ rfl⟩, read]
    · rfl
    · have first := (apart 'N' rfl).symm
      have second := (apart 'I' rfl).symm
      have third := (apart '-' rfl).symm
      simp [wordNumbers, first, second, third]

theorem number_text_read (x : Float) {rest : List Char} (ended : Ended rest) (fuel : Nat) :
    value? true (fuel + 1) (Number.toChars x ++ rest) =
      some (.number (Number.toChars x), rest) := by
  rcases Number.toChars_parts x with word | ⟨negative, whole, fraction, parts, valid, places⟩
  · exact word_read word fuel rest
  · have read := numeral_read negative valid places ended fuel
    rw [parts, List.append_assoc, List.append_assoc]
    exact read

theorem number_text_head (x : Float) :
    ∃ c cs, Number.toChars x = c :: cs ∧ isSpace c = false ∧ c ≠ ']' := by
  rcases Number.toChars_parts x with word | ⟨negative, whole, fraction, parts, valid, _⟩
  · simp only [wordNumbers, List.mem_cons, List.not_mem_nil, or_false] at word
    rcases word with word | word | word <;> exact ⟨_, _, word, rfl, by decide⟩
  · obtain ⟨d, ds, rfl⟩ := List.exists_cons_of_ne_nil valid.filled
    cases negative with
    | true => exact ⟨'-', _, parts, rfl, by decide⟩
    | false =>
      have apart : ∀ c : Char, c.isDigit = false → d ≠ c := fun c =>
        digit_apart (valid.digits d List.mem_cons_self)
      refine ⟨d, _, parts, ?_, apart ']' rfl⟩
      simp [isSpace, apart ' ' rfl, apart '\t' rfl, apart '\n' rfl, apart '\r' rfl]

end Json.Reading

end SceneScript
