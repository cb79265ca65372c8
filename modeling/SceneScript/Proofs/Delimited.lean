import Mathlib.Data.List.TakeWhile
import SceneScript.Proofs.Brackets
import SceneScript.Proofs.Numerals
import SceneScript.Proofs.Quoting

/- A reader that succeeds on a text does so too when something follows the text: it reads the same
   and leaves what follows behind its own rest. Only a number could go on, and only with what does
   not end it. -/
namespace SceneScript.Json.Reading

theorem skip_extends {cs : List Char} (left : skipSpaces cs ≠ []) (after : List Char) :
    skipSpaces (cs ++ after) = skipSpaces cs ++ after := by
  rw [skipSpaces] at left ⊢
  rw [List.dropWhile_append, if_neg (by simpa using left), skipSpaces]

theorem no_digit {after : List Char} (ended : Ended after) {c : Char}
    (head : after.head? = some c) : c.isDigit = false :=
  (ended c head).1

theorem digits_extend (cs : List Char) {after : List Char} (ended : Ended after) :
    digits (cs ++ after) = ((digits cs).1, (digits cs).2 ++ after) := by
  induction cs with
  | nil =>
    have nothing : ∀ c ∈ ([] : List Char), c.isDigit = true := by simp
    have read := digits_read nothing fun _ => no_digit ended
    simpa [digits] using read
  | cons c rest ih =>
    by_cases digit : c.isDigit = true
    · simpa [digits, digit] using ih
    · simp [digits, digit]

theorem whole_extends {cs whole rest after : List Char} (ended : Ended after)
    (read : wholeDigits? cs = some (whole, rest)) :
    wholeDigits? (cs ++ after) = some (whole, rest ++ after) := by
  cases cs with
  | nil => simp [wholeDigits?, digits] at read
  | cons c cs =>
    by_cases zero : c = '0'
    · subst c
      cases cs with
      | nil =>
        obtain ⟨rfl, rfl⟩ : ['0'] = whole ∧ [] = rest := by simpa [wholeDigits?] using read
        cases after with
        | nil => rfl
        | cons d after => simp [wholeDigits?, no_digit ended rfl]
      | cons d cs =>
        by_cases digit : d.isDigit = true
        · simp [wholeDigits?, digit] at read
        · obtain ⟨rfl, rfl⟩ : ['0'] = whole ∧ d :: cs = rest := by
            simpa [wholeDigits?, digit] using read
          simp [wholeDigits?, digit]
    · have other (more : List Char) : wholeDigits? (c :: more) =
          if (digits (c :: more)).1.isEmpty then none else some (digits (c :: more)) := by
        rw [wholeDigits?]
        rintro _ same
        exact zero (List.cons.inj same).1
      rw [other] at read
      rw [List.cons_append, other, ← List.cons_append, digits_extend _ ended]
      split at read
      · contradiction
      · rename_i filled
        rw [Option.some.injEq] at read
        rw [if_neg filled, read]

theorem fraction_extends {cs fraction rest after : List Char} (ended : Ended after)
    (read : fractionDigits? cs = some (fraction, rest)) :
    fractionDigits? (cs ++ after) = some (fraction, rest ++ after) := by
  have none_behind {more : List Char} (apart : ∀ tail, more ≠ '.' :: tail) :
      fractionDigits? more = some ([], more) := by
    rw [fractionDigits?]
    exact fun _ same => apart _ same
  cases cs with
  | nil =>
    obtain ⟨rfl, rfl⟩ : [] = fraction ∧ [] = rest := by simpa [fractionDigits?] using read
    refine none_behind ?_
    rintro tail rfl
    exact (ended '.' rfl).2.1 rfl
  | cons c cs =>
    by_cases point : c = '.'
    · subst c
      rw [fractionDigits?] at read
      rw [List.cons_append, fractionDigits?, digits_extend _ ended]
      dsimp only at read ⊢
      split at read
      · contradiction
      · rename_i filled
        obtain ⟨rfl, rfl⟩ := Prod.mk.inj (Option.some.inj read)
        rw [if_neg filled]
    · have apart (more tail : List Char) : c :: more ≠ '.' :: tail :=
        fun same => point (List.cons.inj same).1
      rw [none_behind (apart cs)] at read
      obtain ⟨rfl, rfl⟩ := Prod.mk.inj (Option.some.inj read)
      exact none_behind (apart _)

def signRun : List Char → List Char × List Char
  | '+' :: rest => (['+'], rest)
  | '-' :: rest => (['-'], rest)
  | rest => ([], rest)

theorem sign_extends {cs : List Char} (filled : cs ≠ []) (after : List Char) :
    signRun (cs ++ after) = ((signRun cs).1, (signRun cs).2 ++ after) := by
  obtain ⟨c, rest, rfl⟩ := List.exists_cons_of_ne_nil filled
  by_cases plus : c = '+'
  · subst c
    rfl
  · by_cases minus : c = '-'
    · subst c
      rfl
    · simp [signRun, plus, minus]

theorem exponent_extends {cs exponent rest after : List Char} (ended : Ended after)
    (read : exponentDigits? cs = some (exponent, rest)) :
    exponentDigits? (cs ++ after) = some (exponent, rest ++ after) := by
  cases cs with
  | nil =>
    obtain ⟨rfl, rfl⟩ : [] = exponent ∧ [] = rest := by simpa [exponentDigits?] using read
    exact exponent_read ended
  | cons c cs =>
    have marked (more : List Char) : exponentDigits? (c :: more) =
        if c = 'e' ∨ c = 'E' then
          if (digits (signRun more).2).1.isEmpty then none
          else some (c :: (signRun more).1 ++ (digits (signRun more).2).1,
            (digits (signRun more).2).2)
        else some ([], c :: more) := rfl
    rw [marked] at read
    rw [List.cons_append, marked]
    by_cases mark : c = 'e' ∨ c = 'E'
    · rw [if_pos mark] at read ⊢
      have filled : cs ≠ [] := by
        rintro rfl
        simp [signRun, digits] at read
      rw [sign_extends filled, digits_extend _ ended]
      split at read
      · contradiction
      · rename_i some_digit
        obtain ⟨rfl, rfl⟩ := Prod.mk.inj (Option.some.inj read)
        rw [if_neg some_digit]
    · rw [if_neg mark] at read ⊢
      obtain ⟨rfl, rfl⟩ := Prod.mk.inj (Option.some.inj read)
      rfl

def unsigned? (sign cs : List Char) : Option (List Char × List Char) := do
  let (whole, rest) ← wholeDigits? cs
  let (fraction, rest) ← fractionDigits? rest
  let (exponent, rest) ← exponentDigits? rest
  some (sign ++ whole ++ fraction ++ exponent, rest)

theorem unsigned_extends {sign cs written rest after : List Char} (ended : Ended after)
    (read : unsigned? sign cs = some (written, rest)) :
    unsigned? sign (cs ++ after) = some (written, rest ++ after) := by
  simp only [unsigned?, Option.bind_eq_bind, Option.bind_eq_some_iff] at read
  obtain ⟨⟨whole, behind⟩, whole_read, ⟨fraction, last⟩, fraction_read, ⟨exponent, left⟩,
    exponent_read, same⟩ := read
  obtain ⟨rfl, rfl⟩ := Prod.mk.inj (Option.some.inj same)
  simp only [unsigned?, Option.bind_eq_bind, whole_extends ended whole_read, Option.bind_some,
    fraction_extends ended fraction_read, exponent_extends ended exponent_read]

theorem number_minus (cs : List Char) : number? ('-' :: cs) = unsigned? ['-'] cs := rfl

theorem number_unsigned {c : Char} (no_minus : c ≠ '-') (cs : List Char) :
    number? (c :: cs) = unsigned? [] (c :: cs) := by
  rw [number?]
  · rfl
  · rintro _ same
    exact no_minus (List.cons.inj same).1

theorem number_extends {cs written rest after : List Char} (ended : Ended after)
    (read : number? cs = some (written, rest)) :
    number? (cs ++ after) = some (written, rest ++ after) := by
  cases cs with
  | nil => simp [number?, wholeDigits?, digits] at read
  | cons c cs =>
    by_cases minus : c = '-'
    · subst c
      rw [number_minus] at read
      rw [List.cons_append, number_minus]
      exact unsigned_extends ended read
    · rw [number_unsigned minus] at read
      rw [List.cons_append, number_unsigned minus]
      exact unsigned_extends ended read

theorem whole_head {cs whole rest : List Char} (read : wholeDigits? cs = some (whole, rest)) :
    ∃ d ds, cs = d :: ds ∧ d.isDigit = true := by
  cases cs with
  | nil => simp [wholeDigits?, digits] at read
  | cons c cs =>
    refine ⟨c, cs, rfl, ?_⟩
    by_contra other
    have no_zero : c ≠ '0' := by
      rintro rfl
      exact other rfl
    rw [wholeDigits?] at read
    · simp [digits, other] at read
    · rintro _ same
      exact no_zero (List.cons.inj same).1

theorem unsigned_head {sign cs written rest : List Char}
    (read : unsigned? sign cs = some (written, rest)) :
    ∃ d ds, cs = d :: ds ∧ d.isDigit = true := by
  simp only [unsigned?, Option.bind_eq_bind, Option.bind_eq_some_iff] at read
  obtain ⟨_, whole, _⟩ := read
  exact whole_head whole

theorem number_no_word {cs written rest : List Char} (read : number? cs = some (written, rest))
    (after : List Char) : wordNumbers.find? (·.isPrefixOf (cs ++ after)) = none := by
  cases cs with
  | nil => simp [number?, wholeDigits?, digits] at read
  | cons c cs =>
    by_cases minus : c = '-'
    · subst c
      rw [number_minus] at read
      obtain ⟨d, ds, rfl, digit⟩ := unsigned_head read
      have letter := (digit_apart (c := 'I') digit rfl).symm
      simp [wordNumbers, letter]
    · rw [number_unsigned minus] at read
      obtain ⟨d, ds, same, digit⟩ := unsigned_head read
      obtain ⟨rfl, rfl⟩ := List.cons.inj same
      have first := (digit_apart (c := 'N') digit rfl).symm
      have second := (digit_apart (c := 'I') digit rfl).symm
      simp [wordNumbers, first, second, Ne.symm minus]

theorem four_digits_extend {cs rest : List Char} {unit : Nat}
    (read : fourDigits? cs = some (unit, rest)) (after : List Char) :
    fourDigits? (cs ++ after) = some (unit, rest ++ after) := by
  match cs, read with
  | a :: b :: c :: d :: cs, read =>
    simp only [fourDigits?, Option.bind_eq_bind, Option.bind_eq_some_iff] at read
    obtain ⟨i, high, j, second, k, third, l, low, same⟩ := read
    obtain ⟨rfl, rfl⟩ := Prod.mk.inj (Option.some.inj same)
    simp only [List.cons_append, fourDigits?, high, second, third, low, Option.bind_eq_bind,
      Option.bind_some]

theorem unitThen_some {unit fuel : Nat} {cs rest : List Char} {us : List Nat}
    (read : Text.unitThen unit fuel cs = some (us, rest)) :
    ∃ others, us = unit :: others ∧ units fuel cs = some (others, rest) := by
  obtain ⟨⟨others, left⟩, behind, same⟩ := Option.map_eq_some_iff.mp read
  obtain ⟨rfl, rfl⟩ := Prod.mk.inj same
  exact ⟨others, rfl, behind⟩

theorem coded_read {cs behind : List Char} {unit : Nat}
    (digits : fourDigits? cs = some (unit, behind)) (fuel : Nat) :
    units (fuel + 1) ('\\' :: 'u' :: cs) = Text.unitThen unit fuel behind := by
  rw [units, digits]
  simp only [Option.bind_eq_bind, Option.bind_some, Text.unitThen]
  cases units fuel behind <;> rfl

theorem unit_cases {fuel : Nat} {c : Char} {cs rest : List Char} {us : List Nat}
    (read : units (fuel + 1) (c :: cs) = some (us, rest)) :
    (c = '"' ∧ us = [] ∧ rest = cs) ∨ ∃ unit others behind,
      us = unit :: others ∧ units fuel behind = some (others, rest) ∧
        ∀ more after, units (more + 1) (c :: cs ++ after) =
          Text.unitThen unit more (behind ++ after) := by
  by_cases quote : c = '"'
  · subst c
    obtain ⟨rfl, rfl⟩ := Prod.mk.inj (Option.some.inj read)
    exact Or.inl ⟨rfl, rfl, rfl⟩
  · right
    by_cases backslash : c = '\\'
    · subst c
      cases cs with
      | nil => simp [units] at read
      | cons d cs =>
        by_cases coded : d = 'u'
        · subst d
          cases digits : fourDigits? cs with
          | none => simp [units, digits] at read
          | some found =>
            obtain ⟨unit, behind⟩ := found
            rw [coded_read digits] at read
            obtain ⟨others, listed, left⟩ := unitThen_some read
            exact ⟨unit, others, behind, listed, left,
              fun more after => coded_read (four_digits_extend digits after) more⟩
        · cases meaning : escaped? d with
          | none =>
            rw [units, meaning] at read
            · contradiction
            · exact coded
          | some unit =>
            rw [Text.letter_read fuel cs meaning] at read
            obtain ⟨others, listed, left⟩ := unitThen_some read
            exact ⟨unit, others, cs, listed, left,
              fun more after => Text.letter_read more (cs ++ after) meaning⟩
    · have visible : ¬ c.toNat < 0x20 := by
        intro control
        rw [units, if_pos (Or.inl control)] at read
        · contradiction
        · exact quote
        · exact fun _ same _ => backslash same
        · exact fun _ _ same _ => backslash same
      rw [Text.plain_read fuel cs quote backslash visible] at read
      obtain ⟨others, listed, left⟩ := unitThen_some read
      exact ⟨c.toNat, others, cs, listed, left,
        fun more after => Text.plain_read more (cs ++ after) quote backslash visible⟩

theorem units_extend {fuel more : Nat} (enough : fuel ≤ more) {cs rest : List Char}
    {us : List Nat} (read : units fuel cs = some (us, rest)) (after : List Char) :
    units more (cs ++ after) = some (us, rest ++ after) := by
  induction fuel generalizing more cs us with
  | zero => simp [units] at read
  | succ fuel ih =>
    obtain ⟨more, rfl⟩ : ∃ n, more = n + 1 := ⟨more - 1, by omega⟩
    cases cs with
    | nil => simp [units] at read
    | cons c cs =>
      rcases unit_cases read with ⟨rfl, rfl, rfl⟩ | ⟨unit, others, behind, rfl, left, same⟩
      · rfl
      · rw [same, Text.unitThen, ih (Nat.le_of_succ_le_succ enough) left]
        rfl

theorem text_extends {cs rest : List Char} {s : Option String} (read : text? cs = some (s, rest))
    (after : List Char) : text? (cs ++ after) = some (s, rest ++ after) := by
  simp only [text?, Option.bind_eq_bind, Option.bind_eq_some_iff] at read
  obtain ⟨⟨us, left⟩, units_read, same⟩ := read
  obtain ⟨rfl, rfl⟩ := Prod.mk.inj (Option.some.inj same)
  have enough : cs.length + 1 ≤ (cs ++ after).length + 1 := by
    rw [List.length_append]
    omega
  simp only [text?, units_extend enough units_read after, Option.bind_eq_bind, Option.bind_some]

theorem word_extends {word cs rest : List Char} (read : dropWord? word cs = some rest)
    (after : List Char) : dropWord? word (cs ++ after) = some (rest ++ after) := by
  rw [dropWord?] at read
  split at read
  · rename_i found
    obtain ⟨behind, rfl⟩ := List.isPrefixOf_iff_prefix.mp found
    obtain rfl := Option.some.inj read
    simp [dropWord?, List.append_assoc]
  · contradiction

theorem word_number_extends {cs word : List Char}
    (found : wordNumbers.find? (·.isPrefixOf cs) = some word) :
    ∃ behind, cs = word ++ behind ∧
      ∀ after, wordNumbers.find? (·.isPrefixOf (cs ++ after)) = some word := by
  have is_first : word.isPrefixOf cs = true := by
    have holds := List.find?_some found
    exact holds
  obtain ⟨behind, rfl⟩ := List.isPrefixOf_iff_prefix.mp is_first
  refine ⟨behind, rfl, fun after => ?_⟩
  have member := List.mem_of_find?_eq_some found
  simp only [wordNumbers, List.mem_cons, List.not_mem_nil, or_false] at member
  rcases member with rfl | rfl | rfl <;> rfl

def numeral? (dialect : Bool) (cs : List Char) : Option (Tree × List Char) :=
  match if dialect then wordNumbers.find? (·.isPrefixOf cs) else none with
  | some word => some (.number word, cs.drop word.length)
  | none => (number? cs).map fun (written, rest) => (.number written, rest)

theorem numeral_word {cs word : List Char}
    (found : wordNumbers.find? (·.isPrefixOf cs) = some word) :
    numeral? true cs = some (.number word, cs.drop word.length) := by
  simp only [numeral?, ↓reduceIte, found]

theorem numeral_extends {dialect : Bool} {cs rest after : List Char} {tree : Tree}
    (ended : Ended after) (read : numeral? dialect cs = some (tree, rest)) :
    numeral? dialect (cs ++ after) = some (tree, rest ++ after) := by
  cases found : if dialect then wordNumbers.find? (·.isPrefixOf cs) else none with
  | some word =>
    cases dialect with
    | false => contradiction
    | true =>
      rw [numeral_word found] at read
      obtain ⟨rfl, rfl⟩ := Prod.mk.inj (Option.some.inj read)
      obtain ⟨behind, rfl, longer⟩ := word_number_extends found
      rw [numeral_word (longer after), List.append_assoc, List.drop_left, List.drop_left]
  | none =>
    simp only [numeral?, found, Option.map_eq_some_iff] at read
    obtain ⟨⟨written, left⟩, number, same⟩ := read
    obtain ⟨rfl, rfl⟩ := Prod.mk.inj same
    have no_word : (if dialect then wordNumbers.find? (·.isPrefixOf (cs ++ after)) else none) =
        none := by
      cases dialect with
      | false => rfl
      | true => exact number_no_word number after
    simp only [numeral?, no_word, number_extends ended number, Option.map_some]

theorem atom_extends {dialect : Bool} {cs rest after : List Char} {tree : Tree}
    (ended : Ended after) (read : atom? dialect cs = some (tree, rest)) :
    atom? dialect (cs ++ after) = some (tree, rest ++ after) := by
  have word_atom {word : List Char} {t : Tree}
      (read : (dropWord? word cs).map (t, ·) = some (tree, rest)) :
      (dropWord? word (cs ++ after)).map (t, ·) = some (tree, rest ++ after) := by
    obtain ⟨left, dropped, same⟩ := Option.map_eq_some_iff.mp read
    obtain ⟨rfl, rfl⟩ := Prod.mk.inj same
    rw [word_extends dropped after, Option.map_some]
  cases cs with
  | nil => simp [atom?, wordNumbers, number?, wholeDigits?, digits] at read
  | cons c cs =>
    by_cases null : c = 'n'
    · subst c
      exact word_atom read
    · by_cases yes : c = 't'
      · subst c
        exact word_atom read
      · by_cases no : c = 'f'
        · subst c
          exact word_atom read
        · have numeral (more : List Char) :
              atom? dialect (c :: more) = numeral? dialect (c :: more) := by
            rw [atom?]
            · rfl
            · exact fun _ same => null (List.cons.inj same).1
            · exact fun _ same => yes (List.cons.inj same).1
            · exact fun _ same => no (List.cons.inj same).1
          rw [numeral] at read
          rw [List.cons_append, numeral]
          exact numeral_extends ended read

theorem value_starts {dialect : Bool} {fuel : Nat} {cs rest : List Char} {tree : Tree}
    (read : value? dialect fuel cs = some (tree, rest)) : cs ≠ [] := by
  rintro rfl
  cases fuel <;> simp [value?] at read

theorem items_start {dialect : Bool} {fuel : Nat} {cs rest : List Char} {items : List Tree}
    (read : items? dialect fuel cs = some (items, rest)) : cs ≠ [] := by
  cases fuel with
  | zero => simp [items?] at read
  | succ fuel =>
    simp only [items?, Option.bind_eq_bind, Option.bind_eq_some_iff] at read
    obtain ⟨⟨item, left⟩, first, _⟩ := read
    exact value_starts first

theorem entries_start {dialect : Bool} {fuel : Nat} {cs rest : List Char}
    {entries : List (Option String × Tree)}
    (read : entries? dialect fuel cs = some (entries, rest)) : cs ≠ [] := by
  rintro rfl
  cases fuel <;> simp [entries?] at read

/-- What the three readers of values do with a fuel, they do with more of it and a text behind. -/
structure Extends (dialect : Bool) (fuel more : Nat) (after : List Char) : Prop where
  value : ∀ {cs rest tree}, value? dialect fuel cs = some (tree, rest) →
    value? dialect more (cs ++ after) = some (tree, rest ++ after)
  items : ∀ {cs rest items}, items? dialect fuel cs = some (items, rest) →
    items? dialect more (cs ++ after) = some (items, rest ++ after)
  entries : ∀ {cs rest entries}, entries? dialect fuel cs = some (entries, rest) →
    entries? dialect more (cs ++ after) = some (entries, rest ++ after)

theorem skip_extends_cons {cs rest : List Char} {c : Char} (skipped : skipSpaces cs = c :: rest)
    (after : List Char) : skipSpaces (cs ++ after) = c :: (rest ++ after) := by
  rw [skip_extends (by simp [skipped]), skipped, List.cons_append]

section
variable {dialect : Bool} {fuel more : Nat} {after : List Char}
  (ended : Ended after) (ext : Extends dialect fuel more after)
include ext

theorem items_step {cs rest : List Char} {items : List Tree}
    (read : items? dialect (fuel + 1) cs = some (items, rest)) :
    items? dialect (more + 1) (cs ++ after) = some (items, rest ++ after) := by
  rw [items?] at read
  obtain ⟨⟨item, left⟩, first, behind⟩ := Option.bind_eq_some_iff.mp read
  have own := ext.value first
  dsimp only at behind
  split at behind
  · rename_i closed
    obtain ⟨rfl, rfl⟩ := Prod.mk.inj (Option.some.inj behind)
    exact items_close own (skip_extends_cons closed after)
  · rename_i comma
    obtain ⟨⟨others, last⟩, next, same⟩ := Option.bind_eq_some_iff.mp behind
    obtain ⟨rfl, rfl⟩ := Prod.mk.inj (Option.some.inj same)
    refine items_comma own (skip_extends_cons comma after) ?_
    rw [skip_extends (items_start next)]
    exact ext.items next
  · contradiction

theorem entries_step {cs rest : List Char} {entries : List (Option String × Tree)}
    (read : entries? dialect (fuel + 1) cs = some (entries, rest)) :
    entries? dialect (more + 1) (cs ++ after) = some (entries, rest ++ after) := by
  obtain ⟨c, cs, rfl⟩ := List.exists_cons_of_ne_nil (entries_start read)
  rw [entries?] at read
  split at read
  · rename_i quote
    subst c
    obtain ⟨⟨key, named⟩, text, behind⟩ := Option.bind_eq_some_iff.mp read
    have key_read := text_extends text after
    dsimp only at behind
    split at behind
    · rename_i colon
      obtain ⟨⟨value, last⟩, first, behind⟩ := Option.bind_eq_some_iff.mp behind
      have own := ext.value first
      rw [← skip_extends (value_starts first)] at own
      dsimp only at behind
      split at behind
      · rename_i closed
        obtain ⟨rfl, rfl⟩ := Prod.mk.inj (Option.some.inj behind)
        exact entries_close key_read (skip_extends_cons colon after) own
          (skip_extends_cons closed after)
      · rename_i comma
        obtain ⟨⟨others, left⟩, next, same⟩ := Option.bind_eq_some_iff.mp behind
        obtain ⟨rfl, rfl⟩ := Prod.mk.inj (Option.some.inj same)
        refine entries_comma key_read (skip_extends_cons colon after) own
          (skip_extends_cons comma after) ?_
        rw [skip_extends (entries_start next)]
        exact ext.entries next
      · contradiction
    · contradiction
  · contradiction

include ended in
theorem value_step {cs rest : List Char} {tree : Tree}
    (read : value? dialect (fuel + 1) cs = some (tree, rest)) :
    value? dialect (more + 1) (cs ++ after) = some (tree, rest ++ after) := by
  obtain ⟨c, cs, rfl⟩ := List.exists_cons_of_ne_nil (value_starts read)
  have apart {d e : Char} {ds : List Char} (skipped : skipSpaces cs = d :: ds) (other : d ≠ e) :
      ∀ tail, skipSpaces (cs ++ after) ≠ e :: tail := by
    intro tail same
    rw [skip_extends_cons skipped] at same
    exact other (List.cons.inj same).1
  rw [value?] at read
  rw [List.cons_append]
  split at read
  · rename_i quote
    subst c
    obtain ⟨⟨s, left⟩, text, same⟩ := Option.map_eq_some_iff.mp read
    obtain ⟨rfl, rfl⟩ := Prod.mk.inj same
    rw [value?, if_pos rfl, text_extends text]
    rfl
  · rename_i quote
    split at read
    · rename_i bracket
      subst c
      split at read
      · rename_i closed
        obtain ⟨rfl, rfl⟩ := Prod.mk.inj (Option.some.inj read)
        exact list_closed (skip_extends_cons closed after)
      · rename_i filled
        obtain ⟨⟨items, left⟩, next, same⟩ := Option.map_eq_some_iff.mp read
        obtain ⟨rfl, rfl⟩ := Prod.mk.inj same
        obtain ⟨d, ds, skipped⟩ := List.exists_cons_of_ne_nil (items_start next)
        refine list_filled (apart skipped fun same => filled ds (same ▸ skipped)) ?_
        rw [skip_extends (items_start next)]
        exact ext.items next
    · rename_i bracket
      split at read
      · rename_i brace
        subst c
        split at read
        · rename_i closed
          obtain ⟨rfl, rfl⟩ := Prod.mk.inj (Option.some.inj read)
          exact object_closed (skip_extends_cons closed after)
        · rename_i filled
          obtain ⟨⟨entries, left⟩, next, same⟩ := Option.map_eq_some_iff.mp read
          obtain ⟨rfl, rfl⟩ := Prod.mk.inj same
          obtain ⟨d, ds, skipped⟩ := List.exists_cons_of_ne_nil (entries_start next)
          refine object_filled (apart skipped fun same => filled ds (same ▸ skipped)) ?_
          rw [skip_extends (entries_start next)]
          exact ext.entries next
      · rename_i brace
        rw [value_atom quote bracket brace]
        exact atom_extends ended read

end

theorem all_extend (dialect : Bool) {fuel more : Nat} (enough : fuel ≤ more) {after : List Char}
    (ended : Ended after) : Extends dialect fuel more after := by
  induction fuel generalizing more with
  | zero => constructor <;> intros <;> simp_all [value?, items?, entries?]
  | succ fuel ih =>
    obtain ⟨more, rfl⟩ : ∃ n, more = n + 1 := ⟨more - 1, by omega⟩
    have ext := ih (Nat.le_of_succ_le_succ enough)
    exact ⟨value_step ended ext, items_step ext, entries_step ext⟩

/-- A whole text is found again at the head of any longer one, with spaces at most behind it. -/
theorem whole_extends_to {dialect : Bool} {cs : List Char} {tree : Tree}
    (read : Tree.ofChars? dialect cs = some tree) {after : List Char} (ended : Ended after)
    (fuel : Nat) (enough : 2 * cs.length + 2 ≤ fuel) :
    ∃ spaces, (∀ c ∈ spaces, isSpace c = true) ∧ skipSpaces cs ≠ [] ∧
      value? dialect fuel (skipSpaces cs ++ after) = some (tree, spaces ++ after) := by
  rw [Tree.ofChars?] at read
  split at read
  · rename_i found spaces first
    split at read
    · rename_i empty
      obtain rfl := Option.some.inj read
      have only_spaces := List.dropWhile_eq_nil_iff.mp (List.isEmpty_iff.mp empty)
      exact ⟨spaces, only_spaces, value_starts first, (all_extend dialect enough ended).value first⟩
    · contradiction
  · contradiction

end SceneScript.Json.Reading
