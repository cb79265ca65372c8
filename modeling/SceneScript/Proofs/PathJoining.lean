import SceneScript.Proofs.PathReading
import SceneScript.Proofs.Numerals

/- What is read in path data is read all the same when more follows behind a space, and nothing that
   follows mends it. -/
namespace SceneScript.Path.Reading

section Spaced

theorem space_cases {c : Char} (space : isSpace c = true) : c ∈ [' ', '\t', '\n', '\r'] := by
  simpa [isSpace, or_assoc] using space

def Spaced (rest : List Char) : Prop :=
  ∀ c, rest.head? = some c → isSpace c = true

variable {rest : List Char}

theorem Spaced.ended (spaced : Spaced rest) : Json.Reading.Ended rest := by
  intro c head
  have listed : ∀ c ∈ [' ', '\t', '\n', '\r'],
      c.isDigit = false ∧ c ≠ '.' ∧ c ≠ 'e' ∧ c ≠ 'E' :=
    List.all_iff_forall_prop.mp (by decide)
  exact listed c (space_cases (spaced c head))

theorem Spaced.sign (spaced : Spaced rest) : signRun rest = ([], rest) := by
  cases rest with
  | nil => rfl
  | cons c rest =>
    have listed : ∀ c ∈ [' ', '\t', '\n', '\r'], c ≠ '+' ∧ c ≠ '-' :=
      List.all_iff_forall_prop.mp (by decide)
    have unsigned := listed c (space_cases (spaced c rfl))
    simp [signRun, unsigned]

theorem Spaced.fraction (spaced : Spaced rest) : fractionRun rest = ([], rest) := by
  cases rest with
  | nil => rfl
  | cons c rest => simp [fractionRun, (spaced.ended c rfl).2.1]

theorem Spaced.exponent (spaced : Spaced rest) : exponentRun? rest = some ([], rest) := by
  cases rest with
  | nil => rfl
  | cons c rest => simp [exponentRun?, (spaced.ended c rfl).2.2]

theorem Spaced.comma (spaced : Spaced rest) : skipComma rest = rest := by
  cases rest with
  | nil => rfl
  | cons c rest =>
    have no_comma : c ≠ ',' := by
      rintro rfl
      exact absurd (spaced ',' rfl) (by decide)
    simp [skipComma, no_comma]

end Spaced

section Joined

/-- What may stand behind path data without being part of it: a space, and behind all spaces a
    command or nothing. -/
structure Tail (tail : List Char) : Prop where
  space : ∃ s rest, tail = s :: rest ∧ isSpace s = true
  next : ∀ c rest, skipSpaces tail = c :: rest → (slots? c).isSome = true

/-- The rest of a text to which a tail was added. A reader at the end passes over the spaces too. -/
def Joined (tail rest joined : List Char) : Prop :=
  joined = rest ++ tail ∨ rest = [] ∧ joined = skipSpaces tail

variable {tail : List Char}

theorem Tail.spaced (t : Tail tail) : Spaced tail := by
  intro c head
  obtain ⟨s, rest, rfl, space⟩ := t.space
  cases head
  exact space

theorem skip_append (cs tail : List Char) :
    skipSpaces (cs ++ tail) =
      if skipSpaces cs = [] then skipSpaces tail else skipSpaces cs ++ tail := by
  by_cases blank : skipSpaces cs = []
  · rw [if_pos blank]
    rw [skipSpaces] at blank ⊢
    rw [List.dropWhile_append, blank]
    rfl
  · rw [if_neg blank]
    rw [skipSpaces] at blank ⊢
    rw [List.dropWhile_append, if_neg (by simpa using blank), skipSpaces]

theorem skip_twice (cs : List Char) : skipSpaces (skipSpaces cs) = skipSpaces cs :=
  List.dropWhile_idempotent ..

theorem skip_joined {rest joined : List Char} (both : Joined tail rest joined) :
    skipSpaces joined =
      if skipSpaces rest = [] then skipSpaces tail else skipSpaces rest ++ tail := by
  rcases both with rfl | ⟨rfl, rfl⟩
  · exact skip_append rest tail
  · exact skip_twice tail

theorem comma_joined (t : Tail tail) (rest : List Char) :
    Joined tail (skipComma (skipSpaces rest)) (skipComma (skipSpaces (rest ++ tail))) := by
  rw [skip_append]
  split
  · rename_i blank
    refine Or.inr ⟨by rw [blank]; rfl, ?_⟩
    cases behind : skipSpaces tail with
    | nil => rfl
    | cons c more =>
      have visible := command_visible (t.next c more behind)
      simp [skipComma, visible.2.1]
  · left
    cases skipped : skipSpaces rest with
    | nil => contradiction
    | cons c more =>
      by_cases comma : c = ','
      · subst c
        rfl
      · simp [skipComma, comma]

theorem space_joined (t : Tail tail) (rest : List Char) :
    Joined tail (skipSpaces (skipComma rest)) (skipSpaces (skipComma (rest ++ tail))) := by
  have skipped (rest : List Char) :
      Joined tail (skipSpaces rest) (skipSpaces (rest ++ tail)) := by
    rw [skip_append]
    split
    · rename_i blank
      exact Or.inr ⟨blank, rfl⟩
    · exact Or.inl rfl
  cases rest with
  | nil => exact Or.inr ⟨rfl, by rw [List.nil_append, t.spaced.comma]⟩
  | cons c more =>
    by_cases comma : c = ','
    · subst c
      exact skipped more
    · have kept (more : List Char) : skipComma (c :: more) = c :: more := by
        simp [skipComma, comma]
      rw [List.cons_append, kept, kept]
      exact skipped (c :: more)

theorem sign_joined (t : Tail tail) (cs : List Char) :
    signRun (cs ++ tail) = ((signRun cs).1, (signRun cs).2 ++ tail) := by
  cases cs with
  | nil => exact t.spaced.sign
  | cons c cs => exact Json.Reading.sign_extends (List.cons_ne_nil c cs) tail

theorem digits_joined (t : Tail tail) (cs : List Char) :
    digitRun (cs ++ tail) = ((digitRun cs).1, (digitRun cs).2 ++ tail) :=
  Json.Reading.digits_extend cs t.spaced.ended

theorem fraction_joined (t : Tail tail) (cs : List Char) :
    fractionRun (cs ++ tail) = ((fractionRun cs).1, (fractionRun cs).2 ++ tail) := by
  cases cs with
  | nil => exact t.spaced.fraction
  | cons c cs =>
    by_cases point : c = '.'
    · subst c
      simp [fractionRun, digits_joined t]
    · simp [fractionRun, point]

theorem exponent_joined (t : Tail tail) (cs : List Char) :
    exponentRun? (cs ++ tail) =
      (exponentRun? cs).map fun (exponent, rest) => (exponent, rest ++ tail) := by
  cases cs with
  | nil => exact t.spaced.exponent
  | cons mark cs =>
    by_cases marked : mark = 'e' ∨ mark = 'E'
    · cases cs with
      | nil =>
        obtain ⟨s, rest, rfl, space⟩ := t.space
        have listed := space_cases space
        simp only [List.mem_cons, List.not_mem_nil, or_false] at listed
        rcases listed with rfl | rfl | rfl | rfl <;> simp [exponentRun?, marked]
      | cons c after =>
        have digits := digits_joined t after
        have all_digits := digits_joined t (c :: after)
        rw [List.cons_append] at all_digits
        simp only [exponentRun?, List.cons_append, if_pos marked, digits, all_digits]
        split
        · rfl
        · split
          · rfl
          · split <;> rfl
    · simp [exponentRun?, marked]

theorem numberRun_joined (t : Tail tail) (cs : List Char) :
    numberRun? (cs ++ tail) =
      (numberRun? cs).map fun (written, rest) => (written, rest ++ tail) := by
  rw [numberRun_parts, numberRun_parts]
  simp only [sign_joined t, digits_joined t, fraction_joined t, exponent_joined t]
  split
  · rfl
  · rw [Option.map_map, Option.map_map]
    rfl

/-- Two results of a reader, without and with a tail: both fail, or both read the same. -/
inductive Extends (tail : List Char) {α : Type} :
    Except Stop (α × List Char) → Except Stop (α × List Char) → Prop
  | failed (stop other : Stop) : Extends tail (.error stop) (.error other)
  | read (a : α) {rest joined : List Char} (both : Joined tail rest joined) :
      Extends tail (.ok (a, rest)) (.ok (a, joined))

theorem Extends.bind {α β : Type} {x y : Except Stop (α × List Char)}
    {f : α × List Char → Except Stop (β × List Char)} (first : Extends tail x y)
    (second : ∀ a rest joined, Joined tail rest joined →
      Extends tail (f (a, rest)) (f (a, joined))) : Extends tail (x >>= f) (y >>= f) := by
  cases first with
  | failed stop other => exact .failed stop other
  | read a both => exact second a _ _ both

theorem number_none {cs : List Char} (none_run : numberRun? (skipSpaces cs) = none) :
    ∃ stop, number cs = .error stop := by
  unfold number
  split
  · exact ⟨_, rfl⟩
  · simp only [none_run]
    exact ⟨_, rfl⟩

theorem command_no_number {c : Char} (known : (slots? c).isSome = true) (rest : List Char) :
    numberRun? (c :: rest) = none := by
  obtain ⟨_, _, start, _⟩ := command_visible known
  simp only [startsNumber, Bool.or_eq_false_iff, beq_eq_false_iff_ne] at start
  obtain ⟨⟨⟨digit, point⟩, minus⟩, plus⟩ := start
  have unsigned : signRun (c :: rest) = ([], c :: rest) := by simp [signRun, minus, plus]
  have no_digits : digitRun (c :: rest) = ([], c :: rest) := by simp [digitRun, digit]
  have no_point : fractionRun (c :: rest) = ([], c :: rest) := by simp [fractionRun, point]
  rw [numberRun_parts, unsigned, no_digits, no_point]
  rfl

theorem tail_no_number (t : Tail tail) : numberRun? (skipSpaces tail) = none := by
  cases behind : skipSpaces tail with
  | nil => rfl
  | cons c more => exact command_no_number (t.next c more behind) more

theorem number_filled {cs : List Char} (filled : cs ≠ []) :
    number cs =
      match numberRun? (skipSpaces cs) with
      | none => .error (.number (skipSpaces cs))
      | some (written, rest) =>
        match Number.Decimal.ofChars? written with
        | none => .error (.number (skipSpaces cs))
        | some value =>
          if value.isFinite then .ok (.number value, skipComma (skipSpaces rest))
          else .error (.number (skipSpaces cs)) := by
  rw [number]
  exact if_neg (by simpa using filled)

theorem number_joined (t : Tail tail) {cs joined : List Char} (both : Joined tail cs joined) :
    Extends tail (number cs) (number joined) := by
  have skipped := skip_joined both
  by_cases blank : skipSpaces cs = []
  · rw [if_pos blank] at skipped
    have own_none : numberRun? (skipSpaces cs) = none := by
      rw [blank]
      rfl
    obtain ⟨stop, fails⟩ := number_none own_none
    have behind_none : numberRun? (skipSpaces joined) = none := skipped ▸ tail_no_number t
    obtain ⟨other, also_fails⟩ := number_none behind_none
    rw [fails, also_fails]
    exact .failed stop other
  · rw [if_neg blank] at skipped
    have filled : cs ≠ [] := by
      rintro rfl
      exact blank rfl
    have also_filled : joined ≠ [] := by
      rintro rfl
      exact blank (List.append_eq_nil_iff.mp skipped.symm).1
    rw [number_filled filled, number_filled also_filled, skipped, numberRun_joined t]
    cases numberRun? (skipSpaces cs) with
    | none => exact .failed _ _
    | some found =>
      obtain ⟨written, rest⟩ := found
      dsimp only [Option.map_some]
      cases Number.Decimal.ofChars? written with
      | none => exact .failed _ _
      | some value =>
        dsimp only
        split
        · exact .read _ (comma_joined t rest)
        · exact .failed _ _

theorem flag_refused {cs : List Char}
    (other : ∀ c rest, skipSpaces cs = c :: rest → c ≠ '0' ∧ c ≠ '1') :
    ∃ stop, flag cs = .error stop := by
  unfold flag
  split
  · exact ⟨_, rfl⟩
  · rename_i rest found
    exact absurd rfl (other _ rest found).1
  · rename_i rest found
    exact absurd rfl (other _ rest found).2
  · exact ⟨_, rfl⟩

theorem flag_read {cs rest : List Char} {digit : Char} {value : Bool}
    (found : skipSpaces cs = digit :: rest) (means : (digit, value) ∈ [('0', false), ('1', true)]) :
    flag cs = .ok (.flag value, skipSpaces (skipComma rest)) := by
  simp only [List.mem_cons, List.not_mem_nil, or_false, Prod.mk.injEq] at means
  rw [flag, found]
  rcases means with ⟨rfl, rfl⟩ | ⟨rfl, rfl⟩ <;> rfl

theorem flag_joined (t : Tail tail) {cs joined : List Char} (both : Joined tail cs joined) :
    Extends tail (flag cs) (flag joined) := by
  have skipped := skip_joined both
  have refused (other : ∀ c rest, skipSpaces cs = c :: rest → c ≠ '0' ∧ c ≠ '1')
      (also_other : ∀ c rest, skipSpaces joined = c :: rest → c ≠ '0' ∧ c ≠ '1') :
      Extends tail (flag cs) (flag joined) := by
    obtain ⟨stop, fails⟩ := flag_refused other
    obtain ⟨late_stop, also_fails⟩ := flag_refused also_other
    rw [fails, also_fails]
    exact .failed stop late_stop
  cases own : skipSpaces cs with
  | nil =>
    rw [own, if_pos rfl] at skipped
    refine refused (by simp [own]) fun c rest found => ?_
    exact (command_visible (t.next c rest (skipped.symm.trans found))).2.2.2
  | cons c rest =>
    rw [own, if_neg (List.cons_ne_nil c rest), List.cons_append] at skipped
    have read (value : Bool) (means : (c, value) ∈ [('0', false), ('1', true)]) :
        Extends tail (flag cs) (flag joined) := by
      rw [flag_read own means, flag_read skipped means]
      exact .read _ (space_joined t rest)
    by_cases zero : c = '0'
    · exact read false (by simp [zero])
    · by_cases one : c = '1'
      · exact read true (by simp [one])
      · refine refused ?_ ?_
        · intro d more found
          cases own.symm.trans found
          exact ⟨zero, one⟩
        · intro d more found
          cases skipped.symm.trans found
          exact ⟨zero, one⟩

theorem argument_joined (t : Tail tail) (slot : Slot) {cs joined : List Char}
    (both : Joined tail cs joined) : Extends tail (argument slot cs) (argument slot joined) := by
  cases slot with
  | number => exact number_joined t both
  | flag => exact flag_joined t both

theorem arguments_joined (t : Tail tail) (slots : List Slot) {cs joined : List Char}
    (both : Joined tail cs joined) :
    Extends tail (arguments slots cs) (arguments slots joined) := by
  induction slots generalizing cs joined with
  | nil => exact .read [] both
  | cons slot slots ih =>
    refine (argument_joined t slot both).bind fun a rest after others => ?_
    refine (ih others).bind fun as rest after done => ?_
    exact .read (a :: as) done

theorem heading_joined (previous : Option Char) (c : Char) (rest tail : List Char) :
    heading? previous c (rest ++ tail) =
      (heading? previous c rest).map fun (letter, start) => (letter, start ++ tail) := by
  unfold heading?
  cases previous with
  | none =>
    dsimp only
    split <;> rfl
  | some p =>
    dsimp only
    split
    · rfl
    · split
      · cases repeated? p <;> rfl
      · rfl

theorem reads_skipped {previous : Option Char} {cs ds : List Char} {read : List ReadSegment}
    (same : skipSpaces cs = skipSpaces ds) (reads : Reads previous cs read) :
    Reads previous ds read := by
  cases reads with
  | nothing blank => exact .nothing (same ▸ blank)
  | segment next headed filled others => exact .segment (same ▸ next) headed filled others

theorem carried_some (previous : Option Char) (named : Bool) (letter : Char) :
    ∃ q, carried previous named letter = some q := by
  unfold carried
  split
  · exact ⟨_, rfl⟩
  · split <;> exact ⟨_, rfl⟩

/-- A letter that a tail may be read behind. A tail names its own command, so that any letter does
    in place of the last one read. -/
def behind (previous : Option Char) (front : List ReadSegment) : Option Char :=
  if front = [] then previous else some 'z'

theorem Tail.reads (t : Tail tail) {p : Char} {read : List ReadSegment}
    (reads : Reads (some p) tail read) (q : Char) : Reads (some q) tail read := by
  cases reads with
  | nothing blank => exact .nothing blank
  | @segment _ _ rest start after c letter as more next headed filled others =>
    have known := t.next c rest next
    have headed_still : heading? (some q) c rest = some (letter, start) := by
      rw [← headed, heading?, heading?, if_pos known, if_pos known]
    refine .segment next headed_still filled ?_
    rw [known] at others ⊢
    exact others

theorem Tail.reads_behind (t : Tail tail) {previous : Option Char} {named : Bool} {letter : Char}
    {s : ReadSegment} {front read : List ReadSegment} :
    Reads (behind (carried previous named letter) front) tail read ↔
      Reads (behind previous (s :: front)) tail read := by
  obtain ⟨q, found⟩ := carried_some previous named letter
  obtain ⟨p, last⟩ : ∃ p, behind (carried previous named letter) front = some p := by
    unfold behind
    split
    · exact ⟨q, found⟩
    · exact ⟨_, rfl⟩
  rw [last, behind, if_neg (List.cons_ne_nil s front)]
  exact ⟨fun reads => t.reads reads 'z', fun reads => t.reads reads p⟩

/-- Path data with a tail spells what it spells alone, then what the tail spells behind it. -/
theorem reads_joined (t : Tail tail) {previous : Option Char} {cs joined : List Char}
    {front back : List ReadSegment} (both : Joined tail cs joined) (first : Reads previous cs front)
    (second : Reads (behind previous front) tail back) : Reads previous joined (front ++ back) := by
  induction first generalizing joined with
  | nothing blank =>
    have skipped := skip_joined both
    rw [if_pos blank] at skipped
    exact reads_skipped skipped.symm second
  | @segment previous cs rest start after c letter as more next headed filled others ih =>
    have skipped := skip_joined both
    rw [next, if_neg (List.cons_ne_nil c rest), List.cons_append] at skipped
    have headed_still := heading_joined previous c rest tail
    rw [headed] at headed_still
    have filled_still :=
      arguments_joined t ((slots? letter).getD []) (.inl rfl : Joined tail start _)
    rw [filled] at filled_still
    generalize grown : arguments _ (start ++ tail) = whole at filled_still
    cases filled_still with
    | read _ later =>
      exact .segment skipped headed_still grown (ih later (t.reads_behind.mpr second))

theorem reads_split (t : Tail tail) {previous : Option Char} {cs joined : List Char}
    {read : List ReadSegment} (both : Joined tail cs joined) (reads : Reads previous joined read) :
    ∃ front back, read = front ++ back ∧ Reads previous cs front ∧
      Reads (behind previous front) tail back := by
  induction reads generalizing cs with
  | nothing blank =>
    have skipped := skip_joined both
    split at skipped
    · rename_i empty
      exact ⟨[], [], rfl, .nothing empty, .nothing (skipped ▸ blank)⟩
    · rename_i filled
      exact absurd (List.append_eq_nil_iff.mp (skipped.symm.trans blank)).1 filled
  | @segment previous joined rest start after c letter as more next headed filled others ih =>
    have skipped := skip_joined both
    split at skipped
    · rename_i empty
      refine ⟨[], _, rfl, .nothing empty, ?_⟩
      exact .segment (skipped ▸ next) headed filled others
    · cases own : skipSpaces cs with
      | nil => contradiction
      | cons d before =>
        rw [own, next, List.cons_append] at skipped
        cases skipped
        have headed_before := heading_joined previous c before tail
        rw [headed] at headed_before
        obtain ⟨⟨letter, start⟩, named, same⟩ := Option.map_eq_some_iff.mp headed_before.symm
        cases same
        have filled_before :=
          arguments_joined t ((slots? letter).getD []) (.inl rfl : Joined tail start _)
        rw [filled] at filled_before
        generalize short : arguments _ start = whole at filled_before
        cases filled_before with
        | read _ later =>
          obtain ⟨front, back, rfl, first, second⟩ := ih later
          exact ⟨_ :: front, back, rfl, .segment own named short first,
            t.reads_behind.mp second⟩

theorem reads_joined_iff (t : Tail tail) {previous : Option Char} {cs : List Char}
    {read : List ReadSegment} :
    Reads previous (cs ++ tail) read ↔
      ∃ front back, read = front ++ back ∧ Reads previous cs front ∧
        Reads (behind previous front) tail back := by
  constructor
  · exact reads_split t (.inl rfl)
  · rintro ⟨front, back, rfl, first, second⟩
    exact reads_joined t (.inl rfl) first second

end Joined

end SceneScript.Path.Reading
