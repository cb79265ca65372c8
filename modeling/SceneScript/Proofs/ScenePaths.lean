import SceneScript.Proofs.Acceptance
import SceneScript.Proofs.BuiltPaths

/- A path with commands in a scene beside the same path drawn through a canvas. The scene reads its
   initial data as it stands, a builder trims it first, and trimming takes off more kinds of blanks
   than path data may have. -/
namespace SceneScript

namespace Text

def ends (text : String) : List Char :=
  text.toList.takeWhile isBlank ++ (text.toList.dropWhile isBlank).rtakeWhile isBlank

theorem trim_parts (text : String) :
    text.toList = text.toList.takeWhile isBlank ++ ((trim text).toList ++
      (text.toList.dropWhile isBlank).rtakeWhile isBlank) := by
  have trimmed : (trim text).toList = (text.toList.dropWhile isBlank).rdropWhile isBlank :=
    String.toList_ofList
  rw [trimmed, List.rdropWhile_append_rtakeWhile, List.takeWhile_append_dropWhile]

theorem ends_blank {text : String} {c : Char} (member : c ∈ ends text) : isBlank c = true := by
  rcases List.mem_append.mp member with front | back
  · exact List.mem_takeWhile_imp front
  · exact List.mem_rtakeWhile_imp back

theorem digit_not_blank {c : Char} (digit : c.isDigit = true) : isBlank c = false := by
  simp only [Char.isDigit, Bool.and_eq_true, decide_eq_true_eq] at digit
  have low : 48 ≤ c.toNat := digit.1
  have high : c.toNat ≤ 57 := digit.2
  simp only [isBlank, Bool.or_eq_false_iff, Bool.and_eq_false_iff, decide_eq_false_iff_not,
    beq_eq_false_iff_ne]
  omega

end Text

namespace Path.Reading

theorem blank_space {c : Char} (valid : isPathChar c = true) (blank : Text.isBlank c = true) :
    isSpace c = true := by
  by_contra visible
  have letters : ∀ c ∈ commandLetters, Text.isBlank c = false :=
    List.all_iff_forall_prop.mp (by decide)
  simp only [isPathChar, startsNumber, Bool.or_eq_true, beq_iff_eq, visible, false_or]
    at valid
  rcases valid with (((rfl | ((digit | rfl) | rfl) | rfl) | rfl) | rfl) | letter
  any_goals
    refine absurd blank ?_
    decide
  · exact absurd (blank.symm.trans (Text.digit_not_blank digit)) (by decide)
  · exact absurd (blank.symm.trans (letters c (command_listed letter))) (by decide)

theorem spaces_skipped {front : List Char} (spaces : ∀ c ∈ front, isSpace c = true)
    (cs : List Char) : skipSpaces (front ++ cs) = skipSpaces cs := by
  have none_left : front.dropWhile isSpace = [] := List.dropWhile_eq_nil_iff.mpr spaces
  rw [skip_append, skipSpaces, if_pos none_left]

theorem spaces_tail {s : Char} {back : List Char} (spaces : ∀ c ∈ s :: back, isSpace c = true) :
    Tail (s :: back) ∧ skipSpaces (s :: back) = [] := by
  have none_left : skipSpaces (s :: back) = [] := List.dropWhile_eq_nil_iff.mpr spaces
  refine ⟨⟨⟨s, back, rfl, spaces s List.mem_cons_self⟩, fun c rest next => ?_⟩, none_left⟩
  rw [none_left] at next
  contradiction

theorem reads_between_iff {front back : List Char} (before : ∀ c ∈ front, isSpace c = true)
    (after : ∀ c ∈ back, isSpace c = true) {cs : List Char} {segments : List ReadSegment} :
    Reads none (front ++ (cs ++ back)) segments ↔ Reads none cs segments := by
  have skipped := spaces_skipped before (cs ++ back)
  have fronted : Reads none (front ++ (cs ++ back)) segments ↔ Reads none (cs ++ back) segments :=
    ⟨reads_skipped skipped, reads_skipped skipped.symm⟩
  rw [fronted]
  cases back with
  | nil => rw [List.append_nil]
  | cons s back =>
    obtain ⟨tail, blank⟩ := spaces_tail after
    rw [reads_joined_iff tail]
    constructor
    · rintro ⟨front, others, rfl, first, second⟩
      cases second with
      | nothing => rwa [List.append_nil]
      | segment next =>
        rw [blank] at next
        contradiction
    · exact fun reads => ⟨segments, [], (List.append_nil _).symm, reads, .nothing blank⟩

end Path.Reading

/-- Whether trimming a text takes off only what path data may have at its ends. -/
def Path.PlainEnds (text : String) : Prop :=
  ∀ c ∈ Text.ends text, Reading.isSpace c = true

theorem Path.validate_trim_iff (text : String) :
    validate text = .ok () ↔ validate (Text.trim text) = .ok () ∧ PlainEnds text := by
  have between (plain : PlainEnds text) (segments : List ReadSegment) :
      Reading.Reads none text.toList segments ↔
        Reading.Reads none (Text.trim text).toList segments := by
    rw [Text.trim_parts text]
    exact Reading.reads_between_iff (fun c member => plain c (List.mem_append_left _ member))
      (fun c member => plain c (List.mem_append_right _ member))
  rw [validate_iff, validate_iff]
  constructor
  · rintro ⟨segments, reads⟩
    have plain : PlainEnds text := by
      intro c member
      refine Reading.blank_space (Reading.reads_chars reads c ?_) (Text.ends_blank member)
      rw [Text.trim_parts text]
      rcases List.mem_append.mp member with front | back
      · exact List.mem_append_left _ front
      · exact List.mem_append_right _ (List.mem_append_right _ back)
    exact ⟨⟨segments, (between plain segments).mp reads⟩, plain⟩
  · rintro ⟨⟨segments, reads⟩, plain⟩
    exact ⟨segments, (between plain segments).mpr reads⟩

namespace Scene

theorem built_initial_valid {c : Canvas} {initial : String} {steps : List Path.Step}
    {a : Attributes} {drawn : Canvas × Element} (ok : c.drawPath initial steps a = .ok drawn) :
    Path.validate (Text.trim initial) = .ok () := by
  have kept : ((Path.Builder.ofInitial initial).run steps).initial = Text.trim initial :=
    Path.Builder.run_initial steps _
  have built : Path.validate ((Path.Builder.ofInitial initial).run steps).result = .ok () := by
    have checks := (c.draw_checked _ a).symm.trans ok
    exact (path_clean_iff _).mp (List.append_eq_nil_iff.mp (checked_ok_iff.mp checks).1).1
  rw [Path.validate_iff] at built ⊢
  rw [← kept]
  refine ((Path.Builder.reads_result_iff fun c more head => ?_).mp built).1
  exact Path.trimmed_visible (kept ▸ head)

theorem drawShape_built_iff {c : Canvas} {known : Known} {label : ElementLabel} {a : Attributes}
    {data : Option String} {commands : List PathCommand} {drawn : Canvas × Element}
    (filled : commands ≠ [])
    (parsed : ∀ radius direction, .corner radius direction ∈ commands →
      ∃ corner, Path.Corner.ofText direction = .ok corner) :
    drawShape c known label a (.path data commands) = .ok drawn ↔
      c.drawPath (data.getD "") (ownSteps commands) a = .ok drawn ∧
        Path.PlainEnds (data.getD "") := by
  have clean := (corners_clean_iff commands).mpr parsed
  have raw_valid := Path.validate_trim_iff (data.getD "")
  rw [drawShape_built c known label a data filled, clean, List.append_nil]
  constructor
  · intro ok
    cases faults : Path.faults (data.getD "") with
    | cons fault more => simp [faults, checked, bind, Except.bind] at ok
    | nil =>
      rw [faults] at ok
      exact ⟨ok, (raw_valid.mp ((path_clean_iff _).mp faults)).2⟩
  · rintro ⟨ok, plain⟩
    rw [(path_clean_iff _).mpr (raw_valid.mpr ⟨built_initial_valid ok, plain⟩)]
    exact ok

/-- A path with commands is drawn in a scene exactly as the canvas draws it by itself, if its id is
    not taken and if the blanks around its initial data are those of path data. -/
theorem built_path_drawn_iff {d : ElementDef} {data : Option String} {commands : List PathCommand}
    (shape : d.shape = .path data commands) (filled : commands ≠ [])
    (parsed : ∀ radius direction, .corner radius direction ∈ commands →
      ∃ corner, Path.Corner.ofText direction = .ok corner)
    (index : Nat) (c : Canvas) (known : Known) (drawn : Canvas × Element) :
    d.draw index c known = .ok drawn ↔
      c.drawPath (data.getD "") (ownSteps commands) { attributeSet d.attributes with id := d.id } =
          .ok drawn ∧
        Path.PlainEnds (data.getD "") ∧ ∀ id, d.id = some id → Entries.get? id known = none := by
  unfold ElementDef.draw
  rw [shape]
  cases named : d.id with
  | none => simp [drawShape_built_iff filled parsed]
  | some id =>
    cases found : Entries.get? id known with
    | none => simp [found, drawShape_built_iff filled parsed]
    | some e => simp [found]

theorem unnamed_path_drawn (c : Canvas) {initial : String} {steps : List Path.Step}
    {a : Attributes} (unnamed : a.id = none)
    (valid : Path.faults ((Path.Builder.ofInitial initial).run steps).result = []) :
    ∃ drawn, c.drawPath initial steps a = .ok drawn ∧ drawn.1.statements = c.statements ++
      (.create (c.nextName .path none) c.name "path"
        [.text ((Path.Builder.ofInitial initial).run steps).result] ::
          (c.made .path none).apply a) := by
  have alone := c.draw_checked (.path ((Path.Builder.ofInitial initial).run steps).result) a
  rw [Shape.faults, valid, unnamed] at alone
  exact ⟨_, alone, rfl⟩

theorem spaced_path_drawn :
    let commands : List PathCommand := [.step (.lineTo ⟨3, 4⟩), .corner 5 " LU"]
    let d : ElementDef := ⟨.path (some " \nM1 2\t") commands, none, [], [], none⟩
    let c : Canvas := ⟨0, "paper", .position 0 0 9 9, toString, 0, []⟩
    commands ≠ [] ∧
      (∀ radius direction, .corner radius direction ∈ commands →
        ∃ corner, Path.Corner.ofText direction = .ok corner) ∧
      ∃ drawn, d.draw 0 c [] = .ok drawn ∧ drawn.1.statements.map Statement.text =
        ["var rafa_path_1 = paper.path(\"M1 2 L3 4 c-2.761 0 -5 -2.239 -5 -5\");"] := by
  intro commands d c
  have filled : commands ≠ [] := List.cons_ne_nil _ _
  have parsed : ∀ radius direction, .corner radius direction ∈ commands →
      ∃ corner, Path.Corner.ofText direction = .ok corner := by
    intro radius direction member
    simp only [commands, List.mem_cons, List.not_mem_nil, or_false, reduceCtorEq, false_or,
      PathCommand.corner.injEq] at member
    exact ⟨.leftUp, by rw [member.2]; decide +kernel⟩
  have plain : Path.PlainEnds " \nM1 2\t" := List.all_eq_true.mp (by decide)
  have valid : Path.faults
      ((Path.Builder.ofInitial " \nM1 2\t").run (ownSteps commands)).result = [] := by
    decide +kernel
  have unnamed : (⟨none, []⟩ : Attributes).id = none := rfl
  obtain ⟨drawn, alone, statements⟩ := unnamed_path_drawn c unnamed valid
  refine ⟨filled, parsed, drawn, ?_, by rw [statements]; decide +kernel⟩
  exact (built_path_drawn_iff (d := d) rfl filled parsed 0 c [] drawn).mpr
    ⟨alone, plain, by simp [d]⟩

theorem no_break_space_refused :
    let commands : List PathCommand := [.step (.lineTo ⟨3, 4⟩)]
    let d : ElementDef := ⟨.path (some "\u00a0M1 2") commands, none, [], [], none⟩
    let c : Canvas := ⟨0, "_raphael_canvas_1", .container "holder" 9 9, toString, 1, []⟩
    (∃ drawn, c.drawPath "\u00a0M1 2" (ownSteps commands)
        { attributeSet d.attributes with id := d.id } = .ok drawn ∧
      drawn.1.statements.map Statement.text =
        ["var rafa_path_2 = _raphael_canvas_1.path(\"M1 2 L3 4\");"]) ∧
      d.draw 0 c [] = .error (.invalidPath (.unexpectedData 1)) := by
  intro commands d c
  have valid : Path.faults
      ((Path.Builder.ofInitial "\u00a0M1 2").run (ownSteps commands)).result = [] := by
    decide +kernel
  have unnamed : ({ attributeSet d.attributes with id := d.id } : Attributes).id = none := rfl
  obtain ⟨drawn, alone, statements⟩ := unnamed_path_drawn c unnamed valid
  have raw : Path.faults "\u00a0M1 2" = [.invalidPath (.unexpectedData 1)] := by decide
  have refused := drawShape_built c [] (d.label 0) { attributeSet d.attributes with id := d.id }
    (some "\u00a0M1 2") (List.cons_ne_nil _ _ : commands ≠ [])
  rw [Option.getD_some, raw] at refused
  exact ⟨⟨drawn, alone, by rw [statements]; decide +kernel⟩, refused⟩

end Scene

end SceneScript
