import SceneScript.Proofs.Acceptance

/- Path commands are replayed with directions that were all read before. A corner takes the next
   one, which is its own: what is left at any time are the directions of the commands that are
   still to come. -/
namespace SceneScript.Scene

def PathCommand.isCorner : PathCommand → Bool
  | corner _ _ => true
  | step _ => false

/-- A builder among the commands of a path, and the directions that no corner has taken so far. -/
structure Replay where
  builder : Path.Builder
  directions : List Path.Corner

namespace Replay

/-- A corner takes the next direction; with none left it does nothing. -/
def step (r : Replay) : PathCommand → Replay
  | .step s => { r with builder := r.builder.step s }
  | .corner radius _ =>
    match r.directions with
    | [] => r
    | direction :: more => ⟨r.builder.step (.corner radius direction), more⟩

def run (r : Replay) (commands : List PathCommand) : Replay :=
  commands.foldl step r

theorem run_builder (r : Replay) (commands : List PathCommand) :
    (r.run commands).builder = r.builder.run (steps commands r.directions) := by
  induction commands generalizing r with
  | nil => rfl
  | cons command rest ih =>
    obtain ⟨b, directions⟩ := r
    cases command with
    | step s => exact ih ⟨b.step s, directions⟩
    | corner radius text =>
      cases directions with
      | nil => exact ih ⟨b, []⟩
      | cons direction more => exact ih ⟨b.step (.corner radius direction), more⟩

end Replay

section Directions
variable {command : PathCommand} {rest front back : List PathCommand}
  {directions : List Path.Corner}

theorem replay_step (b : Path.Builder) (read : corners (command :: rest) = .ok directions) :
    let left := directions.drop (if command.isCorner then 1 else 0)
    ∃ s, command.ownStep = .ok s ∧ (Replay.mk b directions).step command = ⟨b.step s, left⟩ ∧
      corners rest = .ok left ∧
      (∀ more, steps (command :: more) directions = s :: steps more left) ∧
      ∀ radius text, command = .corner radius text →
        ∃ corner, s = .corner radius corner ∧ directions.head? = some corner := by
  cases command with
  | step s => exact ⟨s, rfl, rfl, read, fun _ => rfl, nofun⟩
  | corner radius text =>
    cases own : Path.Corner.ofText text with
    | error e => simp [corners, own, bind, Except.bind] at read
    | ok corner =>
      cases later : corners rest with
      | error e => simp [corners, own, later, bind, Except.bind] at read
      | ok more =>
        have taken : corner :: more = directions := by
          simpa [corners, own, later, bind, Except.bind] using read
        subst taken
        refine ⟨.corner radius corner, ?_, rfl, rfl, fun _ => rfl, ?_⟩
        · rw [PathCommand.ownStep, own]
          rfl
        · rintro _ _ ⟨⟩
          exact ⟨corner, rfl, rfl⟩

theorem replay_front (b : Path.Builder) (read : corners (front ++ back) = .ok directions) :
    let left := directions.drop (front.countP PathCommand.isCorner)
    front.mapM PathCommand.ownStep = .ok (steps front directions) ∧
      (Replay.mk b directions).run front = ⟨b.run (steps front directions), left⟩ ∧
      corners back = .ok left := by
  induction front generalizing b directions with
  | nil => exact ⟨rfl, rfl, read⟩
  | cons command rest ih =>
    obtain ⟨s, own, stepped, later, split, _⟩ := replay_step b read
    obtain ⟨mapped, replayed, left⟩ := ih (b.step s) later
    rw [List.drop_drop, ← Nat.add_comm (rest.countP _), ← List.countP_cons] at replayed left
    have first : (Replay.mk b directions).run (command :: rest) =
        ((Replay.mk b directions).step command).run rest := rfl
    refine ⟨?_, ?_, left⟩
    · rw [List.mapM_cons, own, split, mapped]
      rfl
    · rw [first, stepped, replayed, split]
      rfl

end Directions

section Refusal

/-- The first corner whose direction is none, and what is reported of it. -/
def FirstBadCorner (commands : List PathCommand) (e : Error) : Prop :=
  ∃ front radius text back, commands = front ++ .corner radius text :: back ∧
    (∀ command ∈ front, ∃ s, command.ownStep = .ok s) ∧
    Path.Corner.ofText text = .error e ∧ e = .invalidCorner text

theorem first_fault_corner {commands : List PathCommand} {e : Error} :
    (cornerFaults commands).head? = some e ↔ FirstBadCorner commands e := by
  rw [cornerFaults, List.head?_filterMap, List.findSome?_eq_some_iff]
  constructor
  · rintro ⟨front, command, back, rfl, fault, earlier⟩
    obtain ⟨radius, text, rfl, failed⟩ := command_fault_iff.mp fault
    exact ⟨front, radius, text, back, rfl, fun c member => command_sound_iff.mp (earlier c member),
      failed, corner_text_error failed⟩
  · rintro ⟨front, radius, text, back, rfl, earlier, failed, _⟩
    exact ⟨front, _, back, rfl, command_fault_iff.mpr ⟨radius, text, rfl, failed⟩,
      fun c member => command_sound_iff.mpr (earlier c member)⟩

theorem corners_error_iff {commands : List PathCommand} {e : Error} :
    corners commands = .error e ↔ FirstBadCorner commands e := by
  have whole := directions_then_steps commands
  rw [← first_fault_corner, ← checked_error_iff (a := ownSteps commands), ← whole]
  cases corners commands <;> simp [Except.map]

theorem corners_faulty {commands : List PathCommand} {e : Error}
    (failed : corners commands = .error e) : (cornerFaults commands).head? = some e :=
  first_fault_corner.mpr (corners_error_iff.mp failed)

theorem corners_filled {commands : List PathCommand} {e : Error}
    (failed : corners commands = .error e) : commands ≠ [] := by
  intro empty
  rw [empty] at failed
  contradiction

theorem bad_corner_refused {commands : List PathCommand} {e : Error}
    (failed : corners commands = .error e) (c : Canvas) (known : Known) (label : ElementLabel)
    (a : Attributes) (data : Option String) (drawn : Canvas × Element) :
    drawShape c known label a (.path data commands) =
      checked (Path.faults (data.getD "") ++ [e]) drawn := by
  obtain ⟨more, faults⟩ := List.head?_eq_some_iff.mp (corners_faulty failed)
  rw [drawShape_built c known label a data (corners_filled failed), faults]
  cases Path.faults (data.getD "") <;> rfl

theorem bad_corner_unrendered {commands : List PathCommand} {e : Error}
    (failed : corners commands = .error e) {s : Scene} {d : ElementDef} {data : Option String}
    (member : d ∈ s.elements) (shape : d.shape = .path data commands) (suffix : Nat → String)
    (c : Canvas) : s.render suffix ≠ .ok c := by
  intro rendered
  rw [render_checked, checked_ok_iff, faults_empty_iff] at rendered
  obtain ⟨front, back, split⟩ := List.append_of_mem member
  have clean := rendered.1.shapes front d back split
  have parsed := (clean.builtPath data commands shape (corners_filled failed)).2.1
  have faulty := corners_faulty failed
  rw [(corners_clean_iff commands).mpr parsed] at faulty
  contradiction

end Refusal

/-- The steps that a path is built with are those of a replay. If all directions are read, the
    replay takes, command by command, the step that the command has by itself: each corner takes the
    direction at its own place among the corners, which is the next one left, and in the end none is
    left. If not all are read, what is reported is the first corner whose direction is none, and
    nothing is drawn. -/
theorem corners_take_their_own (commands : List PathCommand) (b : Path.Builder) :
    (∀ directions,
      (Replay.run ⟨b, directions⟩ commands).builder = b.run (steps commands directions)) ∧
    (∀ directions, corners commands = .ok directions →
      commands.mapM PathCommand.ownStep = .ok (steps commands directions) ∧
      Replay.run ⟨b, directions⟩ commands = ⟨b.run (steps commands directions), []⟩ ∧
      ∀ front command back, commands = front ++ command :: back →
        let r := Replay.run ⟨b, directions⟩ front
        ∃ s, command.ownStep = .ok s ∧ (r.step command).builder = r.builder.step s ∧
          ∀ radius text, command = .corner radius text →
            ∃ corner, s = .corner radius corner ∧ r.directions.head? = some corner ∧
              directions[front.countP PathCommand.isCorner]? = some corner) ∧
    (∀ e, corners commands = .error e ↔ FirstBadCorner commands e) ∧
    ∀ e, corners commands = .error e →
      (∀ c known label a data,
        (∀ drawn, drawShape c known label a (.path data commands) ≠ .ok drawn) ∧
        (Path.validate (data.getD "") = .ok () →
          drawShape c known label a (.path data commands) = .error e)) ∧
      ∀ (s : Scene) d data, d ∈ s.elements → d.shape = .path data commands →
        ∀ suffix c, s.render suffix ≠ .ok c := by
  refine ⟨fun directions => Replay.run_builder _ commands, fun directions read => ?_,
    fun e => corners_error_iff, fun e failed => ⟨?_, ?_⟩⟩
  · have whole : corners (commands ++ []) = .ok directions := by rwa [List.append_nil]
    obtain ⟨mapped, replayed, none_left⟩ := replay_front b whole
    rw [← Except.ok.inj none_left] at replayed
    refine ⟨mapped, replayed, ?_⟩
    rintro front command back rfl
    obtain ⟨_, before, later⟩ := replay_front b read
    obtain ⟨s, own, stepped, _, _, taken⟩ := replay_step (b.run (steps front directions)) later
    rw [before]
    refine ⟨s, own, congrArg Replay.builder stepped, fun radius text corner => ?_⟩
    obtain ⟨direction, same, next⟩ := taken radius text corner
    exact ⟨direction, same, next, List.head?_drop.symm.trans next⟩
  · intro c known label a data
    constructor
    · intro drawn ok
      rw [bad_corner_refused failed c known label a data drawn, checked_ok_iff] at ok
      exact List.append_ne_nil_of_right_ne_nil _ (List.cons_ne_nil e []) ok.1
    · intro valid
      rw [bad_corner_refused failed c known label a data (c, c.made .path a.id),
        (path_clean_iff _).mpr valid]
      rfl
  · exact fun s d data member shape => bad_corner_unrendered failed member shape

theorem mixed_corners_taken :
    let commands : List PathCommand := [.step (.moveTo ⟨1, 2⟩), .corner 5 "lu",
      .step .relatively, .corner 3 " DR", .step .close]
    let directions : List Path.Corner := [.leftUp, .downRight]
    corners commands = .ok directions ∧
    commands.mapM PathCommand.ownStep = .ok [.moveTo ⟨1, 2⟩, .corner 5 .leftUp, .relatively,
      .corner 3 .downRight, .close] ∧
    (Replay.run ⟨.ofInitial "", directions⟩ commands).directions = [] ∧
    corners (.corner 1 "up" :: commands) = .error (.invalidCorner "up") ∧
    FirstBadCorner (.corner 1 "up" :: commands) (.invalidCorner "up") := by
  intro commands directions
  have read : corners commands = .ok directions := by decide +kernel
  have failed : corners (.corner 1 "up" :: commands) = .error (.invalidCorner "up") := by
    decide +kernel
  obtain ⟨mapped, replayed, _⟩ :=
    (corners_take_their_own commands (.ofInitial "")).2.1 directions read
  have bad := (corners_take_their_own (.corner 1 "up" :: commands) (.ofInitial "")).2.2.1
  exact ⟨read, mapped, by rw [replayed], failed, (bad _).mp failed⟩

end SceneScript.Scene
