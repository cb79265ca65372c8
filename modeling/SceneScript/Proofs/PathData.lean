import SceneScript.Proofs.Coordinates
import SceneScript.Proofs.PathJoining
import SceneScript.Proofs.Tracing

/- What a builder writes and what a reader of path data finds in it. Segments are read one by one:
   the text of a segment ends where a space and the next letter, or nothing, follow. -/
namespace SceneScript.Path
open Reading

inductive Parameter where
  | number (value : Float)
  | flag (value : Bool)

namespace Parameter

def slot : Parameter → Slot
  | number _ => .number
  | flag _ => .flag

def float : Parameter → Float
  | number x => x
  | flag b => Command.flag b

def chars (p : Parameter) : List Char :=
  Number.coordinateChars p.float

def reading : Parameter → Argument
  | number x => .number (Number.coordinateValue x)
  | flag b => .flag b

end Parameter

def spaced (texts : List (List Char)) : List Char :=
  [' '].intercalate texts

theorem spaced_cons (text : List Char) (texts : List (List Char)) :
    spaced (text :: texts) = text ++ if texts = [] then [] else ' ' :: spaced texts := by
  cases texts with
  | nil => simp [spaced]
  | cons next texts => simp [spaced, List.intercalate_cons_cons]

def Command.parameters : Command → List Parameter
  | moveTo p => [.number p.x, .number p.y]
  | lineTo p => [.number p.x, .number p.y]
  | cubic a b p => [.number a.x, .number a.y, .number b.x, .number b.y, .number p.x, .number p.y]
  | smoothCubic b p => [.number b.x, .number b.y, .number p.x, .number p.y]
  | quadratic a p => [.number a.x, .number a.y, .number p.x, .number p.y]
  | smoothQuadratic p => [.number p.x, .number p.y]
  | arc r rotation large sweep p =>
    [.number r.x, .number r.y, .number rotation, .flag large, .flag sweep, .number p.x,
      .number p.y]

namespace Segment

def parameters : Segment → List Parameter
  | draw _ command => command.parameters
  | close => []

theorem numbers_floats (s : Segment) : s.numbers = s.parameters.map Parameter.float := by
  cases s with
  | close => rfl
  | draw mode command => cases command <;> rfl

theorem letter_slots (s : Segment) : slots? s.letter = some (s.parameters.map Parameter.slot) := by
  cases s with
  | close => rfl
  | draw mode command => cases mode <;> cases command <;> rfl

theorem letter_known (s : Segment) : (slots? s.letter).isSome = true := by
  rw [letter_slots]
  rfl

def Finite (s : Segment) : Prop :=
  ∀ p ∈ s.parameters, p.float.isFinite = true

theorem finite_iff (s : Segment) : s.Finite ↔ ∀ x ∈ s.numbers, x.isFinite = true := by
  simp [Finite, numbers_floats]

def reading (s : Segment) : ReadSegment :=
  ⟨s.letter, s.parameters.map Parameter.reading⟩

def chars (s : Segment) : List Char :=
  s.letter :: spaced (s.parameters.map Parameter.chars)

theorem text_chars (s : Segment) : s.text.toList = s.chars := by
  have texts : (s.numbers.map Number.coordinate).map String.toList =
      s.parameters.map Parameter.chars := by
    simp [numbers_floats, Number.coordinate, Parameter.chars]
  rw [text, String.toList_append, String.toList_intercalate, texts, Char.toString,
    String.toList_singleton]
  rfl

end Segment

section Arguments

/-- What stands behind the text of a number or a flag: it is at its end or at a space, and no comma
    comes after the spaces. -/
structure Gap (rest : List Char) : Prop where
  spaced : Spaced rest
  comma : skipComma (skipSpaces rest) = skipSpaces rest

/-- A text that a reader can neither skip nor take for a separator. -/
def Visible (text : List Char) : Prop :=
  ∃ c more, text = c :: more ∧ isSpace c = false ∧ c ≠ ','

variable {rest : List Char}

theorem Visible.skip {text : List Char} (visible : Visible text) :
    skipSpaces (text ++ rest) = text ++ rest := by
  obtain ⟨c, more, rfl, visible, _⟩ := visible
  simp [skipSpaces, visible]

theorem Visible.gap {text : List Char} (visible : Visible text) : Gap (' ' :: (text ++ rest)) := by
  have skipped : skipSpaces (' ' :: (text ++ rest)) = text ++ rest := visible.skip
  obtain ⟨c, more, rfl, _, no_comma⟩ := visible
  refine ⟨?_, ?_⟩
  · intro s head
    cases head
    rfl
  · rw [skipped, List.cons_append]
    simp [skipComma, no_comma]

theorem digit_visible {c : Char} (digit : c.isDigit = true) (more : List Char) :
    Visible (c :: more) := by
  have listed : ∀ c ∈ [' ', '\t', '\n', '\r', ','], c.isDigit = false :=
    List.all_iff_forall_prop.mp (by decide)
  refine ⟨c, more, rfl, ?_, ?_⟩
  · rw [Bool.eq_false_iff]
    intro space
    have no_digit := listed c (List.mem_append_left [','] (space_cases space))
    exact absurd digit (by rw [no_digit]; decide)
  · rintro rfl
    exact absurd digit (by decide)

theorem coordinate_visible (x : Float) : Visible (Number.coordinateChars x) := by
  by_cases finite : x.isFinite = true
  · have coordinate := Number.coordinate_of_finite finite
    obtain ⟨whole, places, written⟩ := Number.written_of_places coordinate.places
    obtain ⟨c, more, rfl, digit⟩ := written.whole_head
    rw [coordinate.text, written.text]
    split
    · exact ⟨'-', _, rfl, by decide⟩
    · exact digit_visible digit _
  · have listed := Number.infinite_chars (Bool.eq_false_iff.mpr finite)
    simp only [List.mem_cons, List.not_mem_nil, or_false] at listed
    rcases listed with text | text | text <;> rw [text] <;> exact ⟨_, _, rfl, by decide⟩

theorem decimal_taken {d : Number.Decimal} (down : d.exponent ≤ 0) (behind : Spaced rest) :
    numberRun? (d.toChars ++ rest) = some (d.toChars, rest) := by
  obtain ⟨whole, places, written⟩ := Number.written_of_places down
  obtain ⟨c, more, head, digit⟩ := written.whole_head
  have whole_taken : digitRun (whole ++ (Number.point places ++ rest)) =
      (whole, Number.point places ++ rest) := written.whole_read behind.ended
  have fraction_taken : fractionRun (Number.point places ++ rest) =
      (Number.point places, rest) := by
    unfold Number.point
    split
    · exact behind.fraction
    · have places_taken : digitRun (places ++ rest) = (places, rest) :=
        written.places_read behind.ended
      simp [fractionRun, places_taken]
  have unsigned : signRun (whole ++ (Number.point places ++ rest)) =
      ([], whole ++ (Number.point places ++ rest)) := by
    have plus : c ≠ '+' := by
      rintro rfl
      contradiction
    have minus : c ≠ '-' := by
      rintro rfl
      contradiction
    simp [head, signRun, plus, minus]
  have signed : signRun ('-' :: (whole ++ (Number.point places ++ rest))) =
      (['-'], whole ++ (Number.point places ++ rest)) := rfl
  rw [written.text, numberRun_parts]
  cases d.negative with
  | true =>
    simp [signed, whole_taken, fraction_taken, behind.exponent, written.filled]
  | false =>
    simp [unsigned, whole_taken, fraction_taken, behind.exponent, written.filled]

theorem number_written {x : Float} (finite : x.isFinite = true) (gap : Gap rest)
    {cs : List Char} (starts : skipSpaces cs = Number.coordinateChars x ++ rest) :
    number cs = .ok (.number (Number.coordinateValue x), skipSpaces rest) := by
  obtain ⟨text, places, in_range⟩ := Number.coordinate_of_finite finite
  have filled : cs ≠ [] := by
    rintro rfl
    obtain ⟨c, more, head, _⟩ := coordinate_visible x
    rw [head] at starts
    contradiction
  rw [number_filled filled, starts, text, decimal_taken places gap.spaced]
  simp only [Number.ofChars_toChars places, in_range, if_true, gap.comma]

theorem number_refused {x : Float} (special : x.isFinite = false) {cs : List Char}
    (starts : skipSpaces cs = Number.coordinateChars x ++ rest) :
    ∃ stop, number cs = .error stop := by
  apply number_none
  rw [starts]
  have listed := Number.infinite_chars special
  simp only [List.mem_cons, List.not_mem_nil, or_false] at listed
  rcases listed with text | text | text <;> rw [text] <;> rfl

theorem flag_chars (b : Bool) :
    Number.coordinateChars (Command.flag b) = [if b then '1' else '0'] := by
  cases b <;> decide +kernel

theorem flag_finite (b : Bool) : (Command.flag b).isFinite = true := by
  cases b <;> decide +kernel

theorem flag_written (b : Bool) (gap : Gap rest) {cs : List Char}
    (starts : skipSpaces cs = Number.coordinateChars (Command.flag b) ++ rest) :
    flag cs = .ok (.flag b, skipSpaces rest) := by
  rw [flag_chars b, List.singleton_append] at starts
  have means : ((if b then '1' else '0' : Char), b) ∈ [('0', false), ('1', true)] := by
    cases b <;> decide
  rw [flag_read starts means, gap.spaced.comma]

theorem argument_written {p : Parameter} (finite : p.float.isFinite = true) (gap : Gap rest)
    {cs : List Char} (starts : skipSpaces cs = p.chars ++ rest) :
    argument p.slot cs = .ok (p.reading, skipSpaces rest) := by
  cases p with
  | number x => exact number_written finite gap starts
  | flag b => exact flag_written b gap starts

theorem argument_refused {p : Parameter} (special : p.float.isFinite = false) {cs : List Char}
    (starts : skipSpaces cs = p.chars ++ rest) : ∃ stop, argument p.slot cs = .error stop := by
  cases p with
  | number x => exact number_refused special starts
  | flag b => exact absurd ((flag_finite b).symm.trans special) (by decide)

theorem chars_visible (p : Parameter) : Visible p.chars :=
  coordinate_visible p.float

def following (ps : List Parameter) (rest : List Char) : List Char :=
  if ps = [] then rest else ' ' :: (spaced (ps.map Parameter.chars) ++ rest)

theorem spaced_following (p : Parameter) (ps : List Parameter) (rest : List Char) :
    spaced ((p :: ps).map Parameter.chars) ++ rest = p.chars ++ following ps rest := by
  rw [List.map_cons, spaced_cons, following]
  cases ps <;> simp

theorem following_gap (ps : List Parameter) (gap : Gap rest) : Gap (following ps rest) := by
  cases ps with
  | nil => exact gap
  | cons q ps =>
    rw [following, if_neg (List.cons_ne_nil q ps), spaced_following]
    exact (chars_visible q).gap

theorem following_skip (ps : List Parameter) (rest : List Char) :
    skipSpaces (following ps rest) = skipSpaces (spaced (ps.map Parameter.chars) ++ rest) := by
  unfold following
  split
  · rename_i none_left
    subst none_left
    rfl
  · rfl

theorem arguments_written {ps : List Parameter} (finite : ∀ p ∈ ps, p.float.isFinite = true)
    (gap : Gap rest) {cs : List Char}
    (starts : skipSpaces cs = skipSpaces (spaced (ps.map Parameter.chars) ++ rest)) :
    ∃ after, arguments (ps.map Parameter.slot) cs = .ok (ps.map Parameter.reading, after) ∧
      skipSpaces after = skipSpaces rest := by
  induction ps generalizing cs with
  | nil => exact ⟨cs, rfl, starts⟩
  | cons p ps ih =>
    rw [spaced_following, (chars_visible p).skip] at starts
    have first := argument_written (finite p List.mem_cons_self) (following_gap ps gap) starts
    obtain ⟨after, others, behind⟩ := ih (fun p member => finite p (List.mem_cons_of_mem _ member))
      ((skip_twice _).trans (following_skip ps rest))
    refine ⟨after, ?_, behind⟩
    simp only [List.map_cons, arguments, first, others, bind, Except.bind]

theorem arguments_refused {ps : List Parameter} {p : Parameter} (member : p ∈ ps)
    (special : p.float.isFinite = false) (gap : Gap rest) {cs : List Char}
    (starts : skipSpaces cs = skipSpaces (spaced (ps.map Parameter.chars) ++ rest)) :
    ∃ stop, arguments (ps.map Parameter.slot) cs = .error stop := by
  induction ps generalizing cs with
  | nil => contradiction
  | cons q ps ih =>
    rw [spaced_following, (chars_visible q).skip] at starts
    rw [List.map_cons, arguments]
    by_cases finite : q.float.isFinite = true
    · cases member with
      | head => exact absurd (finite.symm.trans special) (by decide)
      | tail _ member =>
        obtain ⟨stop, fails⟩ := ih member ((skip_twice _).trans (following_skip ps rest))
        rw [argument_written finite (following_gap ps gap) starts]
        exact ⟨stop, by simp only [bind, Except.bind, fails]⟩
    · obtain ⟨stop, fails⟩ := argument_refused (Bool.eq_false_iff.mpr finite) starts
      rw [fails]
      exact ⟨stop, rfl⟩

end Arguments

section Drawn

def drawn (ss : List Segment) : List Char :=
  spaced (ss.map Segment.chars)

def remaining (ss : List Segment) : List Char :=
  if ss = [] then [] else ' ' :: drawn ss

theorem drawn_cons (s : Segment) (ss : List Segment) :
    drawn (s :: ss) =
      s.letter :: (spaced (s.parameters.map Parameter.chars) ++ remaining ss) := by
  rw [drawn, List.map_cons, spaced_cons, remaining]
  cases ss <;> rfl

theorem letter_visible (s : Segment) (more : List Char) : Visible (s.letter :: more) := by
  obtain ⟨visible, no_comma, _⟩ := command_visible s.letter_known
  exact ⟨s.letter, more, rfl, visible, no_comma⟩

theorem drawn_skip (ss : List Segment) : skipSpaces (drawn ss) = drawn ss := by
  cases ss with
  | nil => rfl
  | cons s ss =>
    have visible := letter_visible s (spaced (s.parameters.map Parameter.chars) ++ remaining ss)
    rw [← drawn_cons] at visible
    have skipped : skipSpaces (drawn (s :: ss) ++ []) = drawn (s :: ss) ++ [] := visible.skip
    rwa [List.append_nil] at skipped

theorem remaining_skip (ss : List Segment) : skipSpaces (remaining ss) = drawn ss := by
  unfold remaining
  split
  · rename_i none_left
    subst none_left
    rfl
  · exact drawn_skip ss

theorem remaining_gap (ss : List Segment) : Gap (remaining ss) := by
  refine ⟨?_, ?_⟩
  · intro c head
    unfold remaining at head
    split at head
    · contradiction
    · cases head
      rfl
  · rw [remaining_skip]
    cases ss with
    | nil => rfl
    | cons s ss =>
      have no_comma := (command_visible s.letter_known).2.1
      rw [drawn_cons]
      simp [skipComma, no_comma]

theorem drawn_tail (ss : List Segment) : Tail (' ' :: drawn ss) := by
  refine ⟨⟨' ', drawn ss, rfl, rfl⟩, fun c rest next => ?_⟩
  have behind : drawn ss = c :: rest := (drawn_skip ss).symm.trans next
  cases ss with
  | nil => contradiction
  | cons s ss =>
    rw [drawn_cons] at behind
    cases behind
    exact s.letter_known

/-- Whether segments can stand in front of all others: the first one is a move. -/
def Leading (ss : List Segment) : Prop :=
  ∀ s ∈ ss.head?, s.letter = 'M' ∨ s.letter = 'm'

theorem heading_letter {previous : Option Char} {c : Char} (known : (slots? c).isSome = true)
    (first : previous = none → c = 'M' ∨ c = 'm') (rest : List Char) :
    heading? previous c rest = some (c, rest) := by
  cases previous with
  | none => rw [heading?, if_pos (first rfl)]
  | some p => rw [heading?, if_pos known]

theorem segment_reads_iff {s : Segment} {ss : List Segment} {previous : Option Char}
    {read : List ReadSegment} :
    Reads previous (drawn (s :: ss)) read ↔
      (previous = none → s.letter = 'M' ∨ s.letter = 'm') ∧ s.Finite ∧
        ∃ more, read = s.reading :: more ∧ Reads (some s.letter) (drawn ss) more := by
  have found := (drawn_skip (s :: ss)).trans (drawn_cons s ss)
  have gap := remaining_gap ss
  have left : skipSpaces (remaining ss) = skipSpaces (drawn ss) :=
    (remaining_skip ss).trans (drawn_skip ss).symm
  constructor
  · intro reads
    cases reads with
    | nothing blank => exact absurd (found.symm.trans blank) (List.cons_ne_nil _ _)
    | segment next headed filled others =>
      cases found.symm.trans next
      rcases heading_cases headed with ⟨rfl, rfl, known, move⟩ | ⟨_, _, unknown, _⟩
      · rw [known, carried_named] at others
        rw [s.letter_slots, Option.getD_some] at filled
        have finite : s.Finite := by
          intro p member
          by_contra special
          obtain ⟨stop, fails⟩ := arguments_refused member (Bool.eq_false_iff.mpr special) gap rfl
          exact absurd (filled.symm.trans fails) (by simp)
        obtain ⟨after, own, behind⟩ := arguments_written finite gap rfl
        cases filled.symm.trans own
        exact ⟨move, finite, _, rfl, reads_skipped (behind.trans left) others⟩
      · exact absurd s.letter_known (by rw [unknown]; decide)
  · rintro ⟨move, finite, more, rfl, others⟩
    obtain ⟨after, own, behind⟩ := arguments_written finite gap rfl
    have filled : arguments ((slots? s.letter).getD [])
        (spaced (s.parameters.map Parameter.chars) ++ remaining ss) =
          .ok (s.parameters.map Parameter.reading, after) := by
      rw [s.letter_slots, Option.getD_some, own]
    refine .segment found (heading_letter s.letter_known move _) filled ?_
    rw [s.letter_known, carried_named]
    exact reads_skipped (behind.trans left).symm others

/-- A reader finds the segments in the text drawn for them exactly if every number is finite, and
    nothing else. -/
theorem drawn_reads_iff {ss : List Segment} {previous : Option Char} {read : List ReadSegment} :
    Reads previous (drawn ss) read ↔
      (previous = none → Leading ss) ∧ (∀ s ∈ ss, s.Finite) ∧ read = ss.map Segment.reading := by
  induction ss generalizing previous read with
  | nil =>
    constructor
    · intro reads
      cases reads with
      | nothing => exact ⟨fun _ => by simp [Leading], by simp, rfl⟩
      | segment next => contradiction
    · rintro ⟨_, _, rfl⟩
      exact .nothing rfl
  | cons s ss ih =>
    simp only [segment_reads_iff, ih, Leading, List.head?_cons, Option.mem_some_iff, forall_eq',
      List.forall_mem_cons, List.map_cons, reduceCtorEq, false_implies, true_and]
    constructor
    · rintro ⟨move, finite, more, rfl, all_finite, rfl⟩
      exact ⟨move, ⟨finite, all_finite⟩, rfl⟩
    · rintro ⟨move, ⟨finite, all_finite⟩, rfl⟩
      exact ⟨move, finite, _, rfl, all_finite, rfl⟩

end Drawn

end SceneScript.Path
