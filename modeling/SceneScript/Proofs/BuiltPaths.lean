import SceneScript.Proofs.PathData

/- When the result of a builder is valid path data, and what is read in it. -/
namespace SceneScript

theorem Text.trim_head {text : String} {c : Char} {more : List Char}
    (head : (trim text).toList = c :: more) : isBlank c = false := by
  rw [trim, String.toList_ofList] at head
  obtain ⟨back, whole⟩ := List.rdropWhile_prefix isBlank (text.toList.dropWhile isBlank)
  have kept : (text.toList.dropWhile isBlank).head? = some c := by
    rw [← whole]
    exact congrArg (fun cs => (cs ++ back).head?) head
  have first := List.head?_dropWhile_not isBlank text.toList
  rw [kept] at first
  simpa using first

namespace Path
open Reading

theorem space_blank {c : Char} (space : isSpace c = true) : Text.isBlank c = true := by
  have listed : ∀ c ∈ [' ', '\t', '\n', '\r'], Text.isBlank c = true :=
    List.all_iff_forall_prop.mp (by decide)
  exact listed c (space_cases space)

theorem trimmed_visible {text : String} {c : Char} {more : List Char}
    (head : (Text.trim text).toList = c :: more) : isSpace c = false := by
  rw [Bool.eq_false_iff]
  intro space
  exact absurd ((space_blank space).symm.trans (Text.trim_head head)) (by decide)

theorem read_iff {text : String} {segments : List ReadSegment} :
    read text = .ok segments ↔ Reads none text.toList segments := by
  unfold read
  dsimp only
  constructor
  · intro found
    split at found
    · rename_i read_before
      cases found
      exact reads_of_segments read_before
    · contradiction
  · intro reads
    rw [segments_of_reads reads (by simp [KnownLetter]) (Nat.lt_succ_self _)]

theorem validate_iff {text : String} :
    validate text = .ok () ↔ ∃ segments, Reads none text.toList segments := by
  simp only [← read_iff, validate]
  cases read text <;> simp

namespace Builder

theorem drawn_chars (ss : List Segment) :
    (" ".intercalate (ss.map Segment.text)).toList = drawn ss := by
  rw [String.toList_intercalate, List.map_map]
  exact congrArg spaced (List.map_congr_left fun s _ => s.text_chars)

theorem result_chars (b : Builder) :
    b.result.toList =
      if b.initial = "" then drawn b.segments else b.initial.toList ++ remaining b.segments := by
  unfold result remaining
  dsimp only
  split
  · exact drawn_chars b.segments
  · simp only [List.isEmpty_iff]
    split
    · exact (List.append_nil _).symm
    · rw [String.toList_append, String.toList_append, drawn_chars, List.append_assoc]
      rfl

/-- Path data with a visible start is read in front of what is drawn behind it; without any, the
    drawn segments must lead themselves. -/
theorem reads_result_iff {b : Builder}
    (visible : ∀ c more, b.initial.toList = c :: more → isSpace c = false) :
    (∃ segments, Reads none b.result.toList segments) ↔
      (∃ segments, Reads none b.initial.toList segments) ∧ (∀ s ∈ b.segments, s.Finite) ∧
        (b.initial = "" → Leading b.segments) := by
  rw [result_chars]
  by_cases empty : b.initial = ""
  · have blank : Reads none "".toList [] := .nothing rfl
    have nothing : ∃ segments, Reads none "".toList segments := ⟨[], blank⟩
    simp only [empty, if_true, drawn_reads_iff, nothing, true_and, forall_const]
    exact ⟨fun ⟨_, leads, finite, _⟩ => ⟨finite, leads⟩,
      fun ⟨finite, leads⟩ => ⟨_, leads, finite, rfl⟩⟩
  · simp only [empty, if_false, false_implies, and_true]
    unfold remaining
    split
    · rename_i none_drawn
      simp [none_drawn]
    · have started {front : List ReadSegment} (first : Reads none b.initial.toList front) :
          behind none front = some 'z' := by
        apply if_neg
        rintro rfl
        cases first with
        | nothing blank =>
          cases head : b.initial.toList with
          | nil => exact empty (String.toList_eq_nil_iff.mp head)
          | cons c more =>
            have kept : skipSpaces (c :: more) = c :: more :=
              List.dropWhile_cons_of_neg (by simp [visible c more head])
            rw [head, kept] at blank
            contradiction
      simp only [reads_joined_iff (drawn_tail b.segments)]
      constructor
      · rintro ⟨_, front, back, rfl, first, second⟩
        rw [started first] at second
        have same : skipSpaces (' ' :: drawn b.segments) = skipSpaces (drawn b.segments) := rfl
        exact ⟨⟨front, first⟩, (drawn_reads_iff.mp (reads_skipped same second)).2.1⟩
      · rintro ⟨⟨front, first⟩, finite⟩
        refine ⟨_, front, b.segments.map Segment.reading, rfl, first, ?_⟩
        rw [started first]
        have same : skipSpaces (drawn b.segments) = skipSpaces (' ' :: drawn b.segments) := rfl
        exact reads_skipped same (drawn_reads_iff.mpr ⟨by simp, finite, rfl⟩)

theorem run_segments (initial : String) (steps : List Step) :
    ((ofInitial initial).run steps).segments.map Segment.instruction =
      instructions .absolute .atOrigin steps :=
  (run_tracks steps (initial_tracks initial)).2

theorem finite_instructions {ss : List Segment} :
    (∀ s ∈ ss, s.Finite) ↔
      ∀ i ∈ ss.map Segment.instruction, ∀ x ∈ i.numbers, x.isFinite = true := by
  simp only [List.forall_mem_map, Segment.finite_iff]
  rfl

theorem leading_instructions {ss : List Segment} :
    Leading ss ↔
      ∀ i ∈ (ss.map Segment.instruction).head?, i.letter = 'M' ∨ i.letter = 'm' := by
  cases ss with
  | nil => simp [Leading]
  | cons s ss => simp [Leading, Segment.instruction]

/-- The result of a builder is valid path data exactly if the trimmed initial text is, every number
    of every written command is finite, and a command in front of everything else is a move. -/
theorem result_valid_iff (initial : String) (steps : List Step) :
    validate ((ofInitial initial).run steps).result = .ok () ↔
      validate (Text.trim initial) = .ok () ∧
        (∀ i ∈ instructions .absolute .atOrigin steps, ∀ x ∈ i.numbers, x.isFinite = true) ∧
        (Text.trim initial ≠ "" ∨ instructions .absolute .atOrigin steps = [] ∨
          ∃ i ∈ (instructions .absolute .atOrigin steps).head?,
            i.letter = 'M' ∨ i.letter = 'm') := by
  have kept : ((ofInitial initial).run steps).initial = Text.trim initial := run_initial steps _
  have visible : ∀ c more, ((ofInitial initial).run steps).initial.toList = c :: more →
      isSpace c = false := by
    rw [kept]
    exact fun c more => trimmed_visible
  rw [validate_iff, validate_iff, reads_result_iff visible, kept, finite_instructions,
    leading_instructions, run_segments]
  generalize instructions .absolute .atOrigin steps = path
  have first : (Text.trim initial = "" → ∀ i ∈ path.head?, i.letter = 'M' ∨ i.letter = 'm') ↔
      Text.trim initial ≠ "" ∨ path = [] ∨ ∃ i ∈ path.head?, i.letter = 'M' ∨ i.letter = 'm' := by
    cases path with
    | nil => simp
    | cons i path =>
      simp only [List.head?_cons, Option.mem_some_iff, forall_eq', exists_eq_left', reduceCtorEq,
        false_or]
      exact imp_iff_not_or
  rw [← first]

section Letters

def isLetter (c : Char) : Bool :=
  (slots? c).isSome

theorem coordinate_letters {x : Float} (finite : x.isFinite = true) :
    (Number.coordinateChars x).filter isLetter = [] := by
  have coordinate := Number.coordinate_of_finite finite
  obtain ⟨whole, places, written⟩ := Number.written_of_places coordinate.places
  have digits_only {cs : List Char} (numeric : ∀ c ∈ cs, c.isDigit = true) :
      cs.filter isLetter = [] := by
    refine List.filter_eq_nil_iff.mpr fun c member known => ?_
    have start := (command_visible known).2.2.1
    simp [startsNumber, numeric c member] at start
  rw [coordinate.text, written.text, List.filter_append, List.filter_append,
    digits_only fun c member => written.numeric c (List.mem_append_left _ member)]
  have behind := digits_only fun c member => written.numeric c (List.mem_append_right _ member)
  have pointed : (Number.point places).filter isLetter = [] := by
    unfold Number.point
    split
    · rfl
    · rw [List.filter_cons_of_neg (by decide), behind]
  rw [pointed]
  split <;> rfl

theorem spaced_letters (texts : List (List Char)) :
    (spaced texts).filter isLetter = (texts.map (List.filter isLetter)).flatten := by
  induction texts with
  | nil => rfl
  | cons text texts ih =>
    rw [spaced_cons, List.filter_append, List.map_cons, List.flatten_cons, ← ih]
    split
    · rename_i last
      rw [last]
      rfl
    · rw [List.filter_cons_of_neg (by decide)]

theorem segment_letters {s : Segment} (finite : s.Finite) :
    s.chars.filter isLetter = [s.letter] := by
  have none_behind : (spaced (s.parameters.map Parameter.chars)).filter isLetter = [] := by
    rw [spaced_letters, List.flatten_eq_nil_iff]
    simp only [List.mem_map, forall_exists_index, and_imp, forall_apply_eq_imp_iff₂]
    exact fun p member => coordinate_letters (finite p member)
  have known : isLetter s.letter = true := s.letter_known
  rw [Segment.chars, List.filter_cons_of_pos known, none_behind]

theorem drawn_letters {ss : List Segment} (finite : ∀ s ∈ ss, s.Finite) :
    (drawn ss).filter isLetter = ss.map Segment.letter := by
  rw [drawn, spaced_letters, List.map_map]
  induction ss with
  | nil => rfl
  | cons s ss ih =>
    obtain ⟨own, others⟩ := List.forall_mem_cons.mp finite
    simp only [List.map_cons, List.flatten_cons, ih others, Function.comp_apply,
      segment_letters own, List.singleton_append]

end Letters

/-- Commands that start with a move and have finite numbers are read back one by one: with their own
    letter, each number as the decimal that is written for it, and each flag as it was. Every letter
    of the text is that of one command, so that no command is read as the repetition of another. -/
theorem result_reads_back (steps : List Step)
    (finite : ∀ i ∈ instructions .absolute .atOrigin steps, ∀ x ∈ i.numbers, x.isFinite = true)
    (leads : ∃ i ∈ (instructions .absolute .atOrigin steps).head?,
      i.letter = 'M' ∨ i.letter = 'm') :
    let b := (ofInitial "").run steps
    let path := instructions .absolute .atOrigin steps
    b.segments.map Segment.instruction = path ∧
      read b.result = .ok (b.segments.map Segment.reading) ∧
      b.result.toList.filter isLetter = path.map Instruction.letter ∧
      ∀ i ∈ path, ∀ x ∈ i.numbers,
        Number.coordinateChars x = (Number.coordinateValue x).toChars ∧
          Number.Decimal.ofChars? (Number.coordinateChars x) =
            some (Number.coordinateValue x) := by
  intro b path
  have written : b.segments.map Segment.instruction = path := run_segments "" steps
  have all_finite : ∀ s ∈ b.segments, s.Finite := by
    rw [finite_instructions, written]
    exact finite
  have leading : Leading b.segments := by
    rw [leading_instructions, written]
    obtain ⟨i, head, move⟩ := leads
    intro j found
    cases head.symm.trans found
    exact move
  have result : b.result.toList = drawn b.segments :=
    (result_chars b).trans (if_pos (run_initial steps _))
  refine ⟨written, ?_, ?_, fun i member x used => ?_⟩
  · rw [read_iff, result, drawn_reads_iff]
    exact ⟨fun _ => leading, all_finite, rfl⟩
  · rw [result, drawn_letters all_finite, ← written, List.map_map]
    rfl
  · have coordinate := Number.coordinate_of_finite (finite i member x used)
    have own := Number.ofChars_toChars coordinate.places
    rw [← coordinate.text] at own
    exact ⟨coordinate.text, own⟩

theorem arc_reads_back :
    let steps : List Step := [.moveTo ⟨1, 2.5⟩, .relatively,
      .arcTo ⟨5, 5⟩ 0 true false ⟨-1, 1000⟩, .close]
    let path := instructions .absolute .atOrigin steps
    (∀ i ∈ path, ∀ x ∈ i.numbers, x.isFinite = true) ∧
      (∃ i ∈ path.head?, i.letter = 'M' ∨ i.letter = 'm') ∧
      read ((ofInitial "").run steps).result = .ok [
        ⟨'M', [.number ⟨false, 1, 0⟩, .number ⟨false, 2500, -3⟩]⟩,
        ⟨'a', [.number ⟨false, 5, 0⟩, .number ⟨false, 5, 0⟩, .number ⟨false, 0, 0⟩, .flag true,
          .flag false, .number ⟨true, 1, 0⟩, .number ⟨false, 1000, 0⟩]⟩,
        ⟨'z', []⟩] := by
  intro steps path
  have finite : ∀ i ∈ path, ∀ x ∈ i.numbers, x.isFinite = true := by decide +kernel
  have leads : ∃ i ∈ path.head?, i.letter = 'M' ∨ i.letter = 'm' := ⟨_, rfl, Or.inl rfl⟩
  obtain ⟨_, found, _⟩ := result_reads_back steps finite leads
  refine ⟨finite, leads, found.trans (congrArg Except.ok ?_)⟩
  decide +kernel

end Builder

end Path

end SceneScript
