import SceneScript.Proofs.Checked
import SceneScript.Scene.Render

/- Path commands taken one by one, a corner with the direction that stands in it. Reading all
   directions first and handing them out again comes to the same. -/
namespace SceneScript.Scene

def PathCommand.ownStep : PathCommand → Except Error Path.Step
  | .step s => .ok s
  | .corner radius direction => (Path.Corner.ofText direction).map (.corner radius)

def ownSteps (commands : List PathCommand) : List Path.Step :=
  commands.filterMap fun command => command.ownStep.toOption

def PathCommand.fault? (command : PathCommand) : Option Error :=
  match command.ownStep with
  | .ok _ => none
  | .error e => some e

def cornerFaults (commands : List PathCommand) : List Error :=
  commands.filterMap PathCommand.fault?

theorem corner_text_error {text : String} {e : Error}
    (failed : Path.Corner.ofText text = .error e) : e = .invalidCorner text := by
  unfold Path.Corner.ofText at failed
  split at failed
  · contradiction
  · exact (Except.error.inj failed).symm

theorem command_fault_iff {command : PathCommand} {e : Error} :
    command.fault? = some e ↔
      ∃ radius text, command = .corner radius text ∧ Path.Corner.ofText text = .error e := by
  cases command with
  | step s => simp [PathCommand.fault?, PathCommand.ownStep]
  | corner radius text =>
    constructor
    · intro found
      refine ⟨radius, text, rfl, ?_⟩
      cases own : Path.Corner.ofText text with
      | ok corner => simp [PathCommand.fault?, PathCommand.ownStep, own, Except.map] at found
      | error other =>
        simpa [PathCommand.fault?, PathCommand.ownStep, own, Except.map] using found
    · rintro ⟨_, _, ⟨⟩, failed⟩
      simp [PathCommand.fault?, PathCommand.ownStep, failed, Except.map]

theorem command_sound_iff {command : PathCommand} :
    command.fault? = none ↔ ∃ s, command.ownStep = .ok s := by
  unfold PathCommand.fault?
  cases command.ownStep <;> simp

theorem cornerFaults_empty_iff (commands : List PathCommand) :
    cornerFaults commands = [] ↔ ∀ command ∈ commands, ∃ s, command.ownStep = .ok s := by
  simp only [cornerFaults, List.filterMap_eq_nil_iff, command_sound_iff]

theorem own_step_exists_iff (command : PathCommand) :
    (∃ s, command.ownStep = .ok s) ↔
      ∀ radius direction, command = .corner radius direction →
        ∃ corner, Path.Corner.ofText direction = .ok corner := by
  cases command with
  | step s => simp [PathCommand.ownStep]
  | corner radius direction =>
    cases found : Path.Corner.ofText direction <;> simp [PathCommand.ownStep, found, Except.map]

theorem ownSteps_cons {command : PathCommand} {s : Path.Step} (own : command.ownStep = .ok s)
    (rest : List PathCommand) : ownSteps (command :: rest) = s :: ownSteps rest := by
  simp [ownSteps, own, Except.toOption]

theorem cornerFaults_cons_ok {command : PathCommand} {s : Path.Step} (own : command.ownStep = .ok s)
    (rest : List PathCommand) : cornerFaults (command :: rest) = cornerFaults rest := by
  simp [cornerFaults, PathCommand.fault?, own]

theorem cornerFaults_cons_error {command : PathCommand} {e : Error}
    (own : command.ownStep = .error e) (rest : List PathCommand) :
    cornerFaults (command :: rest) = e :: cornerFaults rest := by
  simp [cornerFaults, PathCommand.fault?, own]

/-- Collecting directions fails with the first corner that has none; else every corner is given
    the direction that stands in it, and none is left over. -/
theorem directions_then_steps (commands : List PathCommand) :
    (corners commands).map (steps commands) =
      checked (cornerFaults commands) (ownSteps commands) := by
  induction commands with
  | nil => rfl
  | cons command rest ih =>
    cases command with
    | step s =>
      have own : (PathCommand.step s).ownStep = .ok s := rfl
      rw [cornerFaults_cons_ok own, ownSteps_cons own, ← checked_map, ← ih]
      simp only [corners]
      cases corners rest <;> rfl
    | corner radius direction =>
      cases found : Path.Corner.ofText direction with
      | error e =>
        have own : (PathCommand.corner radius direction).ownStep = .error e := by
          simp [PathCommand.ownStep, found, Except.map]
        rw [cornerFaults_cons_error own]
        simp [corners, found, checked, bind, Except.bind, Except.map]
      | ok corner =>
        have own : (PathCommand.corner radius direction).ownStep = .ok (.corner radius corner) := by
          simp [PathCommand.ownStep, found, Except.map]
        rw [cornerFaults_cons_ok own, ownSteps_cons own, ← checked_map _ _ (_ :: ·), ← ih]
        simp only [corners, found]
        cases corners rest <;> rfl

end SceneScript.Scene
