import SceneScript.Path.Reading
import SceneScript.Proofs.Tracing

/- A builder keeps its initial path as it is and counts from the origin all the same. What it draws
   from its own pen, a wave, begins beside the pen of a reader of the whole path only where the
   initial path has no say in it. Coordinates are those of the commands, before any rounding. -/
namespace SceneScript.Path

def Argument.value : Argument → Float
  | number d => d.toFloat
  | flag b => if b then 1 else 0

def ReadSegment.instruction (s : ReadSegment) : Instruction :=
  ⟨s.letter, s.arguments.map Argument.value⟩

def Reader.behind (path : List ReadSegment) : Reader :=
  Reader.atOrigin.executeAll (path.map ReadSegment.instruction)

/-- Whether two readers must be at one place, and in subpaths that began at one place. -/
structure Settled where
  pen : Prop
  start : Prop

def Settled.after (k : Settled) : Segment → Settled
  | .draw .absolute (.moveTo _) => ⟨True, True⟩
  | .draw .relative (.moveTo _) => ⟨k.pen, k.pen⟩
  | .draw .absolute _ => ⟨True, k.start⟩
  | .draw .relative _ => k
  | .close => ⟨k.start, k.start⟩

structure Agree (k : Settled) (r q : Reader) : Prop where
  pen : k.pen → r.pen = q.pen
  start : k.start → r.start = q.start

theorem resolve_agree {k : Settled} {r q : Reader} (agree : Agree k r q) (settled : k.pen)
    (mode : Mode) (p : Point) : r.resolve mode p = q.resolve mode p := by
  cases mode with
  | absolute => rfl
  | relative => rw [Reader.resolve, Reader.resolve, agree.pen settled]

theorem segment_agree {k : Settled} {r q : Reader} (agree : Agree k r q) (s : Segment) :
    Agree (k.after s) (r.execute s.instruction) (q.execute s.instruction) := by
  cases s with
  | close => exact ⟨agree.start, agree.start⟩
  | draw mode command =>
    rw [Reader.execute_drawn, Reader.execute_drawn]
    cases mode with
    | absolute =>
      cases command with
      | moveTo p => exact ⟨fun _ => rfl, fun _ => rfl⟩
      | _ => exact ⟨fun _ => rfl, agree.start⟩
    | relative =>
      have moved (settled : k.pen) (p : Point) := resolve_agree agree settled .relative p
      cases command with
      | moveTo p => exact ⟨fun settled => moved settled p, fun settled => moved settled p⟩
      | _ => exact ⟨fun settled => moved settled _, agree.start⟩

theorem segments_agree (ss : List Segment) {k : Settled} {r q : Reader} (agree : Agree k r q) :
    Agree (ss.foldl Settled.after k) (r.executeAll (ss.map Segment.instruction))
      (q.executeAll (ss.map Segment.instruction)) := by
  induction ss generalizing k r q with
  | nil => exact agree
  | cons s rest ih => exact ih (segment_agree agree s)

namespace Builder

/-- Whether a wave is drawn as a cubic curve in absolute coordinates, with its first control point
    to the right of a point. -/
def WaveBeside (b : Builder) (pen p : Point) (width : Float) : Prop :=
  ∃ second, (b.step (.waveTo p (some width))).segments =
    b.segments ++ [.draw .absolute (.cubic ⟨pen.x + width, pen.y⟩ second p)]

theorem wave_beside_iff {b : Builder} (absolute : b.mode = .absolute) (pen p : Point)
    (width : Float) : b.WaveBeside pen p width ↔
      b.cursor.pen.x + width = pen.x + width ∧ b.cursor.pen.y = pen.y := by
  simp [WaveBeside, step, draw, wave, absolute]

/-- In absolute mode a wave begins beside the pen of a reader of the whole path exactly where that
    is beside the pen that the builder's own commands reach from the origin. So it does when an
    absolute command has settled the pen, or when the pen or the start of the subpath that it
    depends on is left at the origin by the initial path, as an empty one does. -/
theorem wave_beside_pen_iff (initial : String) (path : List ReadSegment)
    (_ : read initial = .ok path) (steps : List Step) (absolute : lastMode steps = .absolute)
    (p : Point) (width : Float) :
    let b := (ofInitial initial).run steps
    let drawn := b.segments.map Segment.instruction
    let own := (Reader.atOrigin.executeAll drawn).pen
    let actual := ((Reader.behind path).executeAll drawn).pen
    (b.WaveBeside actual p width ↔ own.x + width = actual.x + width ∧ own.y = actual.y) ∧
      ((b.segments.foldl Settled.after
          ⟨(Reader.behind path).pen = origin, (Reader.behind path).start = origin⟩).pen →
        b.WaveBeside actual p width) := by
  intro b drawn own actual
  obtain ⟨tracks, written⟩ := run_tracks steps (initial_tracks initial)
  have mode : b.mode = .absolute := (run_mode steps _).trans absolute
  have pen : b.cursor.pen = own := by
    rw [tracks.pen, ← List.nil_append (instructions _ _ _)]
    exact congrArg (fun path => (Reader.executeAll .atOrigin path).pen) written.symm
  have exact_when := wave_beside_iff mode actual p width
  rw [pen] at exact_when
  refine ⟨exact_when, fun settled => exact_when.mpr ?_⟩
  have start : Agree ⟨(Reader.behind path).pen = origin, (Reader.behind path).start = origin⟩
      .atOrigin (Reader.behind path) := ⟨Eq.symm, Eq.symm⟩
  have same : own = actual := (segments_agree b.segments start).pen settled
  rw [same]
  exact ⟨rfl, rfl⟩

theorem wave_beside_pen_after_close :
    let steps : List Step := [.moveTo ⟨3, 4⟩, .relatively, .lineTo ⟨1, 1⟩, .close, .absolutely]
    let path : List ReadSegment := [⟨'M', [.number ⟨false, 10, 0⟩, .number ⟨false, 10, 0⟩]⟩,
      ⟨'l', [.number ⟨false, 5, 0⟩, .number ⟨false, 5, 0⟩]⟩]
    read "M10 10l5,5" = .ok path ∧ lastMode steps = .absolute ∧
      ((ofInitial "M10 10l5,5").run steps).WaveBeside ⟨3, 4⟩ ⟨50, 50⟩ 5 := by
  intro steps path
  have valid : read "M10 10l5,5" = .ok path := rfl
  obtain ⟨_, settled⟩ := wave_beside_pen_iff "M10 10l5,5" path valid steps rfl ⟨50, 50⟩ 5
  exact ⟨valid, rfl, settled True.intro⟩

theorem wave_beside_origin :
    let path : List ReadSegment := [⟨'M', [.number ⟨false, 10, 0⟩, .number ⟨false, 10, 0⟩]⟩]
    let b := ofInitial "M10 10"
    read "M10 10" = .ok path ∧ (Reader.behind path).pen = ⟨10, 10⟩ ∧
      (b.step (.waveTo ⟨50, 50⟩ (some 5))).result = "M10 10 C5 0 45 50 50 50" ∧
      ¬ b.WaveBeside (Reader.behind path).pen ⟨50, 50⟩ 5 := by
  intro path b
  have valid : read "M10 10" = .ok path := rfl
  have ten : (⟨false, 10, 0⟩ : Number.Decimal).toFloat = 10 := by decide +kernel
  have pen : (Reader.behind path).pen = ⟨10, 10⟩ := by
    exact congrArg (fun x => (⟨x, x⟩ : Point)) ten
  refine ⟨valid, pen, by decide +kernel, fun beside => ?_⟩
  rw [pen, wave_beside_iff rfl] at beside
  have apart : (0 : Float) ≠ 10 := by decide
  exact apart beside.2

end Builder

end SceneScript.Path
