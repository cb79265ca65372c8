import Mathlib.Tactic.SplitIfs
import SceneScript.Json.Tree
import SceneScript.Text.Quoted

/- A quoted text is read back as it was: each of its characters is one unit of the reader, also a
   slash that has a backslash of its own. -/
namespace SceneScript.Text
open Json.Reading

theorem hex_read (n : Nat) (small : n < 16) : hexValue? (hexDigit n) = some n := by
  have all : ∀ n < 16, hexValue? (hexDigit n) = some n := by decide
  exact all n small

def unitThen (unit fuel : Nat) (cs : List Char) : Option (List Nat × List Char) :=
  (units fuel cs).map fun (more, rest) => (unit :: more, rest)

theorem letter_read {letter : Char} {unit : Nat} (fuel : Nat) (cs : List Char)
    (meaning : escaped? letter = some unit) :
    units (fuel + 1) ('\\' :: letter :: cs) = unitThen unit fuel cs := by
  have other : letter ≠ 'u' := by
    rintro rfl
    cases meaning
  rw [units, meaning, unitThen]
  · cases units fuel cs <;> rfl
  · exact other

theorem plain_read {c : Char} (fuel : Nat) (cs : List Char) (quote : c ≠ '"')
    (backslash : c ≠ '\\') (visible : ¬ c.toNat < 0x20) :
    units (fuel + 1) (c :: cs) = unitThen c.toNat fuel cs := by
  rw [units, if_neg (not_or.mpr ⟨visible, backslash⟩), unitThen]
  · cases units fuel cs <;> rfl
  · exact quote
  · exact fun _ same _ => backslash same
  · exact fun _ _ same _ => backslash same

theorem control_read {c : Char} (fuel : Nat) (cs : List Char) (control : c.toNat < 0x20) :
    units (fuel + 1)
        ('\\' :: 'u' :: '0' :: '0' :: hexDigit (c.toNat / 16) :: hexDigit (c.toNat % 16) :: cs) =
      unitThen c.toNat fuel cs := by
  have zero : hexValue? '0' = some 0 := by decide
  have value : ((0 * 16 + 0) * 16 + c.toNat / 16) * 16 + c.toNat % 16 = c.toNat := by omega
  have high := hex_read (c.toNat / 16) (by omega)
  have low := hex_read (c.toNat % 16) (by omega)
  have digits : fourDigits? ('0' :: '0' :: hexDigit (c.toNat / 16) ::
      hexDigit (c.toNat % 16) :: cs) = some (c.toNat, cs) := by
    simp only [fourDigits?, zero, high, low, Option.bind_eq_bind, Option.bind_some, value]
  rw [units, digits]
  simp only [Option.bind_eq_bind, Option.bind_some, unitThen]
  cases units fuel cs <;> rfl

theorem quoted_char_read (c : Char) (fuel : Nat) (cs : List Char) :
    units (fuel + 1) (quotedChar c ++ cs) = unitThen c.toNat fuel cs := by
  unfold quotedChar
  split_ifs with quote backslash newline carriage tab back feed control
  · subst quote
    exact letter_read fuel cs rfl
  · subst backslash
    exact letter_read fuel cs rfl
  · subst newline
    exact letter_read fuel cs rfl
  · subst carriage
    exact letter_read fuel cs rfl
  · subst tab
    exact letter_read fuel cs rfl
  · subst back
    exact letter_read fuel cs rfl
  · subst feed
    exact letter_read fuel cs rfl
  · exact control_read fuel cs control
  · exact plain_read fuel cs quote backslash control

theorem quoted_units (s : List Char) (fuel : Nat) (rest : List Char) (enough : s.length < fuel) :
    units fuel (quotedChars s ++ '"' :: rest) = some (s.map Char.toNat, rest) := by
  induction s using quotedChars.induct generalizing fuel with
  | case1 =>
    cases fuel with
    | zero => contradiction
    | succ fuel => rfl
  | case2 tail ih =>
    -- The pair `</` is two units, the second of them written with a backslash.
    match fuel, enough with
    | fuel + 2, enough =>
      have shorter : tail.length < fuel := by
        simp only [List.length_cons] at enough
        omega
      have open_read := plain_read (c := '<') (fuel + 1)
        ('\\' :: '/' :: (quotedChars tail ++ '"' :: rest)) (by decide) (by decide) (by decide)
      have slash_read := @letter_read '/' 0x2F fuel (quotedChars tail ++ '"' :: rest) rfl
      rw [quotedChars, List.cons_append, List.cons_append, List.cons_append, open_read, unitThen,
        slash_read, unitThen, ih fuel shorter]
      rfl
  | case3 c tail apart ih =>
    cases fuel with
    | zero => contradiction
    | succ fuel =>
      have shorter : tail.length < fuel := Nat.lt_of_succ_lt_succ enough
      rw [quotedChars, List.append_assoc, quoted_char_read, unitThen, ih fuel shorter]
      · rfl
      · exact apart

theorem quoted_longer (s : List Char) : s.length ≤ (quotedChars s).length := by
  have visible (c : Char) : 1 ≤ (quotedChar c).length := by
    unfold quotedChar
    split_ifs <;> simp
  induction s using quotedChars.induct with
  | case1 => exact Nat.le_refl 0
  | case2 tail ih =>
    simp only [quotedChars, List.length_cons]
    omega
  | case3 c tail apart ih =>
    rw [quotedChars, List.length_append, List.length_cons]
    · have := visible c
      omega
    · exact apart

theorem no_surrogate (c : Char) : isHigh c.toNat = false ∧ isLow c.toNat = false := by
  have valid : c.toNat < 0xD800 ∨ 0xDFFF < c.toNat ∧ c.toNat < 0x110000 := c.valid
  simp only [isHigh, isLow, Bool.and_eq_false_iff, decide_eq_false_iff_not]
  omega

theorem characters_read (s : List Char) : characters? (s.map Char.toNat) = some s := by
  induction s with
  | nil => rfl
  | cons c rest ih =>
    obtain ⟨high, low⟩ := no_surrogate c
    cases rest with
    | nil => simp [characters?, high, low]
    | cons d rest =>
      rw [List.map_cons, List.map_cons, characters?, high, low, ← List.map_cons, ih]
      simp

theorem quoted_read (s : String) (rest : List Char) :
    text? (quotedChars s.toList ++ '"' :: rest) = some (some s, rest) := by
  have longer := quoted_longer s.toList
  have enough : s.toList.length < (quotedChars s.toList ++ '"' :: rest).length + 1 := by
    simp only [List.length_append, List.length_cons]
    omega
  rw [text?, quoted_units s.toList _ rest enough]
  simp [characters_read]

end SceneScript.Text
