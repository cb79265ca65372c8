import Mathlib.Data.Bool.AllAny
import Mathlib.Data.List.DropRight
import Mathlib.Tactic.IntervalCases
import SceneScript.Path.Reading
import SceneScript.Proofs.Delimited

/- Reading path data without counting steps: a text and the segments that it spells are related, and
   the reader finds them. What is read in one text is read all the same when more follows behind a
   space, and it cannot be mended by what follows. -/
namespace SceneScript.Path.Reading

/-- The segments that a text spells behind a segment with a given letter. -/
inductive Reads : Option Char → List Char → List ReadSegment → Prop
  | nothing {previous : Option Char} {cs : List Char} (blank : skipSpaces cs = []) :
      Reads previous cs []
  | segment {previous : Option Char} {cs rest start after : List Char} {c letter : Char}
      {as : List Argument} {more : List ReadSegment} (next : skipSpaces cs = c :: rest)
      (headed : heading? previous c rest = some (letter, start))
      (filled : arguments ((slots? letter).getD []) start = .ok (as, after))
      (others : Reads (carried previous (slots? c).isSome letter) after more) :
      Reads previous cs (⟨letter, as⟩ :: more)

section Letters

def commandLetters : List Char :=
  "MmZzLlHhVvCcSsQqTtAa".toList

theorem capital_listed {c : Char} (capital : 'A'.val ≤ c.val ∧ c.val ≤ 'Z'.val) :
    c ∈ "ABCDEFGHIJKLMNOPQRSTUVWXYZ".toList := by
  have own : c = Char.ofNat c.toNat := (Char.ofNat_toNat c).symm
  have first : 65 ≤ c.toNat := capital.1
  have last : c.toNat ≤ 90 := capital.2
  generalize c.toNat = n at own first last
  subst own
  interval_cases n <;> decide

theorem command_listed {c : Char} (known : (slots? c).isSome = true) : c ∈ commandLetters := by
  by_cases capital : 'A'.val ≤ c.val ∧ c.val ≤ 'Z'.val
  · have listed : ∀ c ∈ "ABCDEFGHIJKLMNOPQRSTUVWXYZ".toList,
        (slots? c).isSome = true → c ∈ commandLetters :=
      List.all_iff_forall_prop.mp (by decide)
    exact listed c (capital_listed capital) known
  · have same : c.toLower = c := dif_neg capital
    unfold slots? at known
    rw [same] at known
    split at known <;> first | contradiction | decide

theorem repeated_takes {p letter : Char} (known : (slots? p).isSome = true)
    (again : repeated? p = some letter) :
    ∃ slot slots, slots? letter = some (slot :: slots) := by
  have listed : ∀ p ∈ commandLetters, (repeated? p).all
      (fun letter => ((slots? letter).getD []).head?.isSome) = true :=
    List.all_iff_forall_prop.mp (by decide)
  have filled := listed p (command_listed known)
  rw [again, Option.all_some] at filled
  cases taken : slots? letter with
  | none => simp [taken] at filled
  | some slots =>
    cases slots with
    | nil => simp [taken] at filled
    | cons slot slots => exact ⟨slot, slots, rfl⟩

theorem command_visible {c : Char} (known : (slots? c).isSome = true) :
    isSpace c = false ∧ c ≠ ',' ∧ startsNumber c = false ∧ c ≠ '0' ∧ c ≠ '1' := by
  have listed : ∀ c ∈ commandLetters,
      isSpace c = false ∧ c ≠ ',' ∧ startsNumber c = false ∧ c ≠ '0' ∧ c ≠ '1' :=
    List.all_iff_forall_prop.mp (by decide)
  exact listed c (command_listed known)

end Letters

section Numbers

def fractionRun : List Char → List Char × List Char
  | '.' :: rest => ('.' :: (digitRun rest).1, (digitRun rest).2)
  | rest => ([], rest)

theorem numberRun_parts (cs : List Char) :
    numberRun? cs =
      if (digitRun (signRun cs).2).1.isEmpty && (fractionRun (digitRun (signRun cs).2).2).1.isEmpty
      then none
      else (exponentRun? (fractionRun (digitRun (signRun cs).2).2).2).map fun (exponent, rest) =>
        ((signRun cs).1 ++ (digitRun (signRun cs).2).1 ++
          (fractionRun (digitRun (signRun cs).2).2).1 ++ exponent, rest) := by
  simp only [Option.map_eq_bind]
  rfl

end Numbers

def isPathChar (c : Char) : Bool :=
  isSpace c || c == ',' || startsNumber c || c == 'e' || c == 'E' || (slots? c).isSome

section Passed

def Passed (cs rest : List Char) : Prop :=
  ∃ taken, cs = taken ++ rest ∧ ∀ c ∈ taken, isPathChar c = true

theorem Passed.none (cs : List Char) : Passed cs cs :=
  ⟨[], rfl, by simp⟩

theorem Passed.trans {cs ds rest : List Char} (first : Passed cs ds) (second : Passed ds rest) :
    Passed cs rest := by
  obtain ⟨front, rfl, valid⟩ := first
  obtain ⟨back, rfl, also_valid⟩ := second
  refine ⟨front ++ back, (List.append_assoc _ _ _).symm, fun c member => ?_⟩
  exact (List.mem_append.mp member).elim (valid c) (also_valid c)

theorem Passed.one {c : Char} (valid : isPathChar c = true) (rest : List Char) :
    Passed (c :: rest) rest :=
  ⟨[c], rfl, by simpa using valid⟩

theorem Passed.length {cs rest : List Char} (passed : Passed cs rest) :
    rest.length ≤ cs.length := by
  obtain ⟨taken, rfl, _⟩ := passed
  simp

theorem drop_passed {p : Char → Bool} (valid : ∀ c, p c = true → isPathChar c = true)
    (cs : List Char) : Passed cs (cs.dropWhile p) :=
  ⟨cs.takeWhile p, List.takeWhile_append_dropWhile.symm,
    fun c member => valid c (List.mem_takeWhile_imp member)⟩

theorem spaces_passed (cs : List Char) : Passed cs (skipSpaces cs) :=
  drop_passed (fun c space => by simp [isPathChar, space]) cs

theorem comma_passed (cs : List Char) : Passed cs (skipComma cs) := by
  unfold skipComma
  split
  · exact .one rfl _
  · exact .none _

theorem digits_passed (cs : List Char) : Passed cs (digitRun cs).2 :=
  drop_passed (fun c digit => by simp [isPathChar, startsNumber, digit]) cs

theorem sign_passed (cs : List Char) : Passed cs (signRun cs).2 := by
  unfold signRun
  split
  · exact .one rfl _
  · exact .one rfl _
  · exact .none _

theorem fraction_passed (cs : List Char) : Passed cs (fractionRun cs).2 := by
  unfold fractionRun
  split
  · exact (Passed.one rfl _).trans (digits_passed _)
  · exact .none _

theorem exponent_passed {cs exponent rest : List Char}
    (read : exponentRun? cs = some (exponent, rest)) : Passed cs rest := by
  unfold exponentRun? at read
  split at read
  · rename_i mark behind
    split at read
    · rename_i marked
      have valid : isPathChar mark = true := by rcases marked with rfl | rfl <;> rfl
      split at read
      · contradiction
      · rename_i c after
        split at read
        · cases read
          exact .none _
        · split at read
          · rename_i signed
            cases read
            have also_valid : isPathChar c = true := by rcases signed with rfl | rfl <;> rfl
            exact ((Passed.one valid _).trans (.one also_valid _)).trans (digits_passed _)
          · split at read
            · cases read
              exact (Passed.one valid _).trans (digits_passed _)
            · contradiction
    · cases read
      exact .none _
  · cases read
    exact .none _

theorem run_length {cs : List Char} (filled : (digitRun cs).1 ≠ []) :
    (digitRun cs).2.length < cs.length := by
  have whole : (digitRun cs).1 ++ (digitRun cs).2 = cs := List.takeWhile_append_dropWhile
  have count := congrArg List.length whole
  have positive := List.length_pos_of_ne_nil filled
  rw [List.length_append] at count
  omega

theorem fraction_length {cs : List Char} (filled : (fractionRun cs).1 ≠ []) :
    (fractionRun cs).2.length < cs.length := by
  unfold fractionRun at filled ⊢
  split
  · exact Nat.lt_succ_of_le (digits_passed _).length
  · rename_i other
    simp at filled

theorem numberRun_passed {cs written rest : List Char}
    (read : numberRun? cs = some (written, rest)) :
    Passed cs rest ∧ rest.length < cs.length := by
  rw [numberRun_parts] at read
  have signed := sign_passed cs
  generalize (signRun cs).2 = behind at read signed
  have whole := digits_passed behind
  have fraction := fraction_passed (digitRun behind).2
  split at read
  · contradiction
  · rename_i filled
    obtain ⟨⟨exponent, left⟩, found, same⟩ := Option.map_eq_some_iff.mp read
    cases same
    have last := exponent_passed found
    refine ⟨((signed.trans whole).trans fraction).trans last, ?_⟩
    have first_lengths := And.intro signed.length whole.length
    have last_lengths := And.intro fraction.length last.length
    by_cases digits : (digitRun behind).1 = []
    · have places : (fractionRun (digitRun behind).2).1 ≠ [] := by simpa [digits] using filled
      have shorter := fraction_length places
      omega
    · have shorter := run_length digits
      omega

theorem number_passed {cs rest : List Char} {a : Argument} (read : number cs = .ok (a, rest)) :
    Passed cs rest ∧ rest.length < cs.length := by
  unfold number at read
  dsimp only at read
  split at read
  · contradiction
  · split at read
    · contradiction
    · rename_i written behind found
      split at read
      · contradiction
      · split at read
        · cases read
          obtain ⟨passed, shorter⟩ := numberRun_passed found
          have before := spaces_passed cs
          have after := (spaces_passed behind).trans (comma_passed _)
          refine ⟨(before.trans passed).trans after, ?_⟩
          have lengths := And.intro before.length after.length
          omega
        · contradiction

theorem flag_passed {cs rest : List Char} {a : Argument} (read : flag cs = .ok (a, rest)) :
    Passed cs rest ∧ rest.length < cs.length := by
  have before := spaces_passed cs
  have behind {digit : Char} {left : List Char} (valid : isPathChar digit = true)
      (found : skipSpaces cs = digit :: left) :
      Passed cs (skipSpaces (skipComma left)) ∧
        (skipSpaces (skipComma left)).length < cs.length := by
    have after := (comma_passed left).trans (spaces_passed _)
    rw [found] at before
    refine ⟨(before.trans (.one valid left)).trans after, ?_⟩
    have lengths := And.intro before.length after.length
    rw [List.length_cons] at lengths
    omega
  unfold flag at read
  split at read
  · contradiction
  · rename_i found
    cases read
    exact behind rfl found
  · rename_i found
    cases read
    exact behind rfl found
  · contradiction

theorem argument_passed {slot : Slot} {cs rest : List Char} {a : Argument}
    (read : argument slot cs = .ok (a, rest)) : Passed cs rest ∧ rest.length < cs.length := by
  cases slot with
  | number => exact number_passed read
  | flag => exact flag_passed read

theorem bind_ok {ε α β : Type} {x : Except ε α} {f : α → Except ε β} {b : β}
    (bound : x.bind f = .ok b) : ∃ a, x = .ok a ∧ f a = .ok b := by
  cases x with
  | ok a => exact ⟨a, rfl, bound⟩
  | error e => contradiction

theorem arguments_cons {slot : Slot} {slots : List Slot} {cs rest : List Char} {as : List Argument}
    (read : arguments (slot :: slots) cs = .ok (as, rest)) :
    ∃ a others after, as = a :: others ∧ argument slot cs = .ok (a, after) ∧
      arguments slots after = .ok (others, rest) := by
  obtain ⟨⟨a, after⟩, first, read⟩ := bind_ok read
  obtain ⟨⟨others, left⟩, second, same⟩ := bind_ok read
  cases same
  exact ⟨a, others, after, rfl, first, second⟩

theorem arguments_passed {slots : List Slot} {cs rest : List Char} {as : List Argument}
    (read : arguments slots cs = .ok (as, rest)) : Passed cs rest := by
  induction slots generalizing cs as with
  | nil =>
    cases read
    exact .none _
  | cons slot slots ih =>
    obtain ⟨a, others, after, _, first, second⟩ := arguments_cons read
    exact (argument_passed first).1.trans (ih second)

theorem arguments_shorter {slot : Slot} {slots : List Slot} {cs rest : List Char}
    {as : List Argument} (read : arguments (slot :: slots) cs = .ok (as, rest)) :
    rest.length < cs.length := by
  obtain ⟨a, others, after, _, first, second⟩ := arguments_cons read
  exact Nat.lt_of_le_of_lt (arguments_passed second).length (argument_passed first).2

theorem heading_cases {previous : Option Char} {c letter : Char} {rest start : List Char}
    (headed : heading? previous c rest = some (letter, start)) :
    (letter = c ∧ start = rest ∧ (slots? c).isSome = true ∧
      (previous = none → c = 'M' ∨ c = 'm')) ∨
    ∃ p, previous = some p ∧ slots? c = none ∧ startsNumber c = true ∧
      repeated? p = some letter ∧ start = c :: rest := by
  unfold heading? at headed
  split at headed
  · split at headed
    · rename_i move
      cases headed
      refine Or.inl ⟨rfl, rfl, ?_, fun _ => move⟩
      rcases move with rfl | rfl <;> rfl
    · contradiction
  · rename_i p
    split at headed
    · rename_i known
      cases headed
      exact Or.inl ⟨rfl, rfl, known, by simp⟩
    · rename_i unknown
      split at headed
      · rename_i number
        obtain ⟨again, found, same⟩ := Option.map_eq_some_iff.mp headed
        cases same
        exact Or.inr ⟨p, rfl, by simpa using unknown, number, found, rfl⟩
      · contradiction

theorem segment_passed {previous : Option Char} {c letter : Char} {rest start after : List Char}
    {as : List Argument} (headed : heading? previous c rest = some (letter, start))
    (filled : arguments ((slots? letter).getD []) start = .ok (as, after)) :
    Passed (c :: rest) after := by
  rcases heading_cases headed with ⟨rfl, rfl, known, _⟩ | ⟨p, _, _, number, _, rfl⟩
  · exact (Passed.one (by simp [isPathChar, known]) _).trans (arguments_passed filled)
  · exact arguments_passed filled

theorem reads_chars {previous : Option Char} {cs : List Char} {read : List ReadSegment}
    (reads : Reads previous cs read) : ∀ c ∈ cs, isPathChar c = true := by
  suffices passed : Passed cs [] by
    obtain ⟨taken, rfl, valid⟩ := passed
    simpa using valid
  induction reads with
  | nothing blank => exact blank ▸ spaces_passed _
  | @segment previous cs rest start after c letter as more next headed filled others ih =>
    have skipped := spaces_passed cs
    rw [next] at skipped
    exact (skipped.trans (segment_passed headed filled)).trans ih

end Passed

section Fuel

theorem carried_named (previous : Option Char) (letter : Char) :
    carried previous true letter = some letter := rfl

def KnownLetter (previous : Option Char) : Prop :=
  ∀ p, previous = some p → (slots? p).isSome = true

theorem carried_cases {previous : Option Char} {named : Bool} {letter q : Char}
    (again : carried previous named letter = some q) : q = letter ∨ q = 'M' ∨ q = 'm' := by
  unfold carried at again
  split at again
  · cases again
    exact Or.inl rfl
  · split at again <;> cases again <;> simp

theorem carried_known {previous : Option Char} {c letter : Char} {rest start : List Char}
    (headed : heading? previous c rest = some (letter, start)) (known : KnownLetter previous) :
    KnownLetter (carried previous (slots? c).isSome letter) := by
  have own : (slots? letter).isSome = true := by
    rcases heading_cases headed with ⟨rfl, _, own, _⟩ | ⟨p, rfl, _, _, found, _⟩
    · exact own
    · obtain ⟨slot, slots, takes⟩ := repeated_takes (known p rfl) found
      rw [takes]
      rfl
  intro q again
  rcases carried_cases again with rfl | rfl | rfl
  · exact own
  · rfl
  · rfl

theorem segment_shorter {previous : Option Char} {c letter : Char} {rest start after : List Char}
    {as : List Argument} (known : KnownLetter previous)
    (headed : heading? previous c rest = some (letter, start))
    (filled : arguments ((slots? letter).getD []) start = .ok (as, after)) :
    after.length < (c :: rest).length := by
  rcases heading_cases headed with ⟨rfl, rfl, _, _⟩ | ⟨p, rfl, _, _, found, rfl⟩
  · exact Nat.lt_succ_of_le (arguments_passed filled).length
  · obtain ⟨slot, slots, takes⟩ := repeated_takes (known p rfl) found
    rw [takes, Option.getD_some] at filled
    exact arguments_shorter filled

theorem reads_of_segments {fuel : Nat} {previous : Option Char} {cs : List Char}
    {read : List ReadSegment} (found : segments fuel previous cs = .ok read) :
    Reads previous cs read := by
  induction fuel generalizing previous cs read with
  | zero => contradiction
  | succ fuel ih =>
    unfold segments at found
    split at found
    · rename_i blank
      cases found
      exact .nothing blank
    · rename_i c rest next
      split at found
      · contradiction
      · rename_i letter start headed
        obtain ⟨⟨as, after⟩, filled, found⟩ := bind_ok found
        obtain ⟨more, others, same⟩ := bind_ok found
        cases same
        exact .segment next headed filled (ih others)

theorem segments_of_reads {previous : Option Char} {cs : List Char} {read : List ReadSegment}
    (reads : Reads previous cs read) (known : KnownLetter previous) {fuel : Nat}
    (enough : cs.length < fuel) : segments fuel previous cs = .ok read := by
  induction reads generalizing fuel with
  | nothing blank =>
    obtain ⟨fuel, rfl⟩ := Nat.exists_eq_add_one_of_ne_zero (Nat.ne_zero_of_lt enough)
    rw [segments, blank]
  | @segment previous cs rest start after c letter as more next headed filled others ih =>
    obtain ⟨fuel, rfl⟩ := Nat.exists_eq_add_one_of_ne_zero (Nat.ne_zero_of_lt enough)
    have skipped := (spaces_passed cs).length
    rw [next] at skipped
    have shorter := segment_shorter known headed filled
    have later : segments fuel _ after = .ok more := ih (carried_known headed known) (by omega)
    simp only [segments, next, headed, filled, bind, Except.bind, later]

end Fuel

end SceneScript.Path.Reading
