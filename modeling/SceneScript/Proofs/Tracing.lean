import SceneScript.Path.Builder

/- Path data as a reader of it goes through it, command by command, and the builder beside that
   reader: the pen and the control point that the builder keeps are those of the reader. -/
namespace SceneScript.Path

structure Instruction where
  letter : Char
  numbers : List Float

namespace Instruction

def text (i : Instruction) : String :=
  i.letter.toString ++ " ".intercalate (i.numbers.map Number.coordinate)

end Instruction

def Segment.instruction (s : Segment) : Instruction :=
  ⟨s.letter, s.numbers⟩

/-- Where a reader is between two commands, and the letter of the last one. -/
structure Reader where
  pen : Point
  control : Point
  start : Point
  previous : Option Char

namespace Reader

def atOrigin : Reader :=
  ⟨origin, origin, origin, none⟩

/-- Coordinates after a capital letter are a place, after a small one a way from the pen. -/
def place (r : Reader) (letter : Char) (x y : Float) : Point :=
  if letter.isUpper then ⟨x, y⟩ else ⟨r.pen.x + x, r.pen.y + y⟩

def afterQuadratic (r : Reader) : Bool :=
  r.previous.any fun letter => ['Q', 'q', 'T', 't'].contains letter

/-- The control point of a smooth quadratic curve: the last one on the other side of the pen. -/
def mirrored (r : Reader) : Point :=
  if r.afterQuadratic then ⟨2 * r.pen.x - r.control.x, 2 * r.pen.y - r.control.y⟩ else r.pen

def goTo (r : Reader) (letter : Char) (control pen : Point) : Reader :=
  { r with pen := pen, control := control, previous := some letter }

/-- Executes one command. Numbers that do not fit the letter are no command. -/
def execute (r : Reader) (i : Instruction) : Reader :=
  let place := r.place i.letter
  match i.letter, i.numbers with
  | 'M', [x, y] | 'm', [x, y] =>
    { r.goTo i.letter (place x y) (place x y) with start := place x y }
  | 'L', [x, y] | 'l', [x, y] => r.goTo i.letter (place x y) (place x y)
  | 'H', [x] | 'h', [x] => r.goTo i.letter ⟨(place x 0).x, r.pen.y⟩ ⟨(place x 0).x, r.pen.y⟩
  | 'V', [y] | 'v', [y] => r.goTo i.letter ⟨r.pen.x, (place 0 y).y⟩ ⟨r.pen.x, (place 0 y).y⟩
  | 'C', [_, _, x2, y2, x, y] | 'c', [_, _, x2, y2, x, y] =>
    r.goTo i.letter (place x2 y2) (place x y)
  | 'S', [x2, y2, x, y] | 's', [x2, y2, x, y] => r.goTo i.letter (place x2 y2) (place x y)
  | 'Q', [x1, y1, x, y] | 'q', [x1, y1, x, y] => r.goTo i.letter (place x1 y1) (place x y)
  | 'T', [x, y] | 't', [x, y] => r.goTo i.letter r.mirrored (place x y)
  | 'A', [_, _, _, _, _, x, y] | 'a', [_, _, _, _, _, x, y] =>
    r.goTo i.letter (place x y) (place x y)
  | 'Z', [] | 'z', [] => r.goTo i.letter r.start r.start
  | _, _ => r

def executeAll (r : Reader) (path : List Instruction) : Reader :=
  path.foldl execute r

theorem executeAll_append (r : Reader) (path more : List Instruction) :
    r.executeAll (path ++ more) = (r.executeAll path).executeAll more :=
  List.foldl_append

end Reader

def Mode.cased : Mode → Char → Char
  | .absolute, letter => letter
  | .relative, letter => letter.toLower

namespace Step

def switch? : Step → Option Mode
  | relatively => some .relative
  | absolutely => some .absolute
  | _ => none

def instruction? (mode : Mode) (pen : Point) : Step → Option Instruction
  | relatively | absolutely => none
  | moveTo p => some ⟨mode.cased 'M', [p.x, p.y]⟩
  | lineTo p => some ⟨mode.cased 'L', [p.x, p.y]⟩
  | curveTo a b p => some ⟨mode.cased 'C', [a.x, a.y, b.x, b.y, p.x, p.y]⟩
  | smoothCurveTo b p => some ⟨mode.cased 'S', [b.x, b.y, p.x, p.y]⟩
  | quadraticTo a p => some ⟨mode.cased 'Q', [a.x, a.y, p.x, p.y]⟩
  | smoothQuadraticTo p => some ⟨mode.cased 'T', [p.x, p.y]⟩
  | arcTo r rotation large sweep p =>
    some ⟨mode.cased 'A', [r.x, r.y, rotation, if large then 1 else 0, if sweep then 1 else 0,
      p.x, p.y]⟩
  | waveTo p none => some ⟨mode.cased 'L', [p.x, p.y]⟩
  | waveTo p (some width) =>
    match mode with
    | .absolute => some ⟨'C', [pen.x + width, pen.y, p.x - width, p.y, p.x, p.y]⟩
    | .relative => some ⟨'c', [width, 0, p.x - width, p.y, p.x, p.y]⟩
  | corner radius direction =>
    let (a, b, p) := quarter radius direction
    some ⟨'c', [a.x, a.y, b.x, b.y, p.x, p.y]⟩
  | close => some ⟨'z', []⟩

end Step

def lastMode (steps : List Step) : Mode :=
  (steps.filterMap Step.switch?).getLast?.getD .absolute

def instructions (mode : Mode) (r : Reader) : List Step → List Instruction
  | [] => []
  | s :: rest =>
    let written := (s.instruction? mode r.pen).toList
    written ++ instructions (s.switch?.getD mode) (r.executeAll written) rest

namespace Reader

def resolve (r : Reader) (mode : Mode) (p : Point) : Point :=
  match mode with
  | .absolute => p
  | .relative => ⟨r.pen.x + p.x, r.pen.y + p.y⟩

theorem execute_drawn (r : Reader) (mode : Mode) (command : Command) :
    r.execute (Segment.draw mode command).instruction =
      { pen := r.resolve mode command.target
        control := match command with
          | .cubic _ control _ | .smoothCubic control _ | .quadratic control _ =>
            r.resolve mode control
          | .smoothQuadratic _ => r.mirrored
          | _ => r.resolve mode command.target
        start := match command with
          | .moveTo p => r.resolve mode p
          | _ => r.start
        previous := some (mode.cased command.letter) } := by
  cases mode <;> cases command <;> rfl

end Reader

namespace Builder

/-- A builder whose account is that of a reader. -/
structure Tracks (b : Builder) (r : Reader) : Prop where
  pen : b.cursor.pen = r.pen
  control : b.cursor.control = r.control
  subpath : b.subpath = r.start
  quadratic : b.quadratic = r.afterQuadratic

theorem resolve_tracks {b : Builder} {r : Reader} (tracks : b.Tracks r) (mode : Mode) (p : Point) :
    b.resolve mode p = r.resolve mode p := by
  cases mode with
  | absolute => rfl
  | relative => rw [resolve, Reader.resolve, tracks.pen]

theorem mirrored_tracks {b : Builder} {r : Reader} (tracks : b.Tracks r) (mode : Mode)
    (p : Point) : b.controlAfter mode (.smoothQuadratic p) = r.mirrored := by
  simp only [controlAfter, Reader.mirrored, tracks.pen, tracks.control, tracks.quadratic]

theorem draw_tracks {b : Builder} {r : Reader} (tracks : b.Tracks r) (mode : Mode)
    (command : Command) :
    (b.draw mode command).Tracks (r.execute (Segment.draw mode command).instruction) := by
  have placed (p : Point) := resolve_tracks tracks mode p
  rw [Reader.execute_drawn]
  refine ⟨placed command.target, ?_, ?_, ?_⟩
  · cases command with
    | smoothQuadratic p => exact mirrored_tracks tracks mode p
    | _ => exact placed _
  · cases command with
    | moveTo p => exact placed p
    | _ => exact tracks.subpath
  · cases command <;> cases mode <;> rfl

theorem close_tracks {b : Builder} {r : Reader} (tracks : b.Tracks r) :
    (b.step .close).Tracks (r.execute Segment.close.instruction) :=
  ⟨tracks.subpath, tracks.subpath, tracks.subpath, rfl⟩

theorem mode_tracks {b : Builder} {r : Reader} (tracks : b.Tracks r) (mode : Mode) :
    ({ b with mode := mode } : Builder).Tracks r :=
  ⟨tracks.pen, tracks.control, tracks.subpath, tracks.quadratic⟩

theorem step_mode (b : Builder) (s : Step) : (b.step s).mode = s.switch?.getD b.mode := by
  cases s with
  | waveTo p width => cases width <;> rfl
  | _ => rfl

theorem instruction_drawn (mode : Mode) (command : Command) :
    (Segment.draw mode command).instruction =
      ⟨mode.cased command.letter, command.numbers⟩ := by
  cases mode <;> rfl

structure Advances (b : Builder) (r : Reader) (s : Step) : Prop where
  written : (b.step s).segments.map Segment.instruction =
    b.segments.map Segment.instruction ++ (s.instruction? b.mode r.pen).toList
  tracks : (b.step s).Tracks (r.executeAll (s.instruction? b.mode r.pen).toList)

theorem drawn_advances {b : Builder} {r : Reader} (tracks : b.Tracks r) {s : Step} {mode : Mode}
    {command : Command} (draws : b.step s = b.draw mode command)
    (own : s.instruction? b.mode r.pen = some ⟨mode.cased command.letter, command.numbers⟩) :
    b.Advances r s := by
  have written := instruction_drawn mode command
  constructor
  · rw [draws, own, ← written]
    exact List.map_append
  · rw [draws, own, ← written]
    exact draw_tracks tracks mode command

theorem wave_instruction {b : Builder} {r : Reader} (tracks : b.Tracks r) (p : Point)
    (width : Float) :
    (Step.waveTo p (some width)).instruction? b.mode r.pen =
      some ⟨b.mode.cased (b.wave p width).letter, (b.wave p width).numbers⟩ := by
  have pen := tracks.pen
  unfold wave
  cases b.mode with
  | absolute => simp only [pen]; rfl
  | relative => rfl

theorem step_advances {b : Builder} {r : Reader} (tracks : b.Tracks r) (s : Step) :
    b.Advances r s := by
  cases s with
  | relatively => exact ⟨(List.append_nil _).symm, mode_tracks tracks .relative⟩
  | absolutely => exact ⟨(List.append_nil _).symm, mode_tracks tracks .absolute⟩
  | close => exact ⟨List.map_append, close_tracks tracks⟩
  | waveTo p width =>
    cases width with
    | none => exact drawn_advances tracks rfl rfl
    | some width => exact drawn_advances tracks rfl (wave_instruction tracks p width)
  | _ => exact drawn_advances tracks rfl rfl

theorem run_cons (b : Builder) (s : Step) (rest : List Step) :
    b.run (s :: rest) = (b.step s).run rest := rfl

theorem run_tracks (steps : List Step) {b : Builder} {r : Reader} (tracks : b.Tracks r) :
    (b.run steps).Tracks (r.executeAll (instructions b.mode r steps)) ∧
      (b.run steps).segments.map Segment.instruction =
        b.segments.map Segment.instruction ++ instructions b.mode r steps := by
  induction steps generalizing b r with
  | nil => exact ⟨tracks, (List.append_nil _).symm⟩
  | cons s rest ih =>
    obtain ⟨written, follows⟩ := step_advances tracks s
    obtain ⟨ends, all_written⟩ := ih follows
    rw [step_mode] at ends all_written
    rw [run_cons, instructions, Reader.executeAll_append]
    exact ⟨ends, by rw [all_written, written, List.append_assoc]⟩

theorem run_mode (steps : List Step) (b : Builder) :
    (b.run steps).mode = (steps.filterMap Step.switch?).getLast?.getD b.mode := by
  induction steps generalizing b with
  | nil => rfl
  | cons s rest ih =>
    rw [run_cons, ih, step_mode]
    cases switch : s.switch? <;> simp [switch, List.getLast?_cons]

theorem initial_tracks (initial : String) : (ofInitial initial).Tracks .atOrigin :=
  ⟨rfl, rfl, rfl, rfl⟩

theorem run_initial (steps : List Step) (b : Builder) : (b.run steps).initial = b.initial := by
  induction steps generalizing b with
  | nil => rfl
  | cons s rest ih =>
    rw [run_cons, ih]
    cases s with
    | waveTo p width => cases width <;> rfl
    | _ => rfl

/-- After any number of steps on an empty path, the pen and the control point are where a reader of
    the commands so far ends when it starts at the origin. The path is these commands in order and
    nothing else, each in the case that the last switch of the mode asks for, but corners always
    small. -/
theorem cursor_follows_path (steps : List Step) (n : Nat) :
    let b := (ofInitial "").run (steps.take n)
    let path := instructions .absolute .atOrigin (steps.take n)
    let r := Reader.atOrigin.executeAll path
    b.cursor.pen = r.pen ∧ b.cursor.control = r.control ∧
      b.segments.map Segment.instruction = path ∧
      b.segments.map Segment.text = path.map Instruction.text ∧
      b.result = " ".intercalate (path.map Instruction.text) ∧
      b.mode = lastMode (steps.take n) := by
  intro b path r
  obtain ⟨tracks, written⟩ := run_tracks (steps.take n) (initial_tracks "")
  have same : b.segments.map Segment.instruction = path := written
  have texts : b.segments.map Segment.text = path.map Instruction.text := by
    rw [← same, List.map_map]
    rfl
  have result : b.result = " ".intercalate (b.segments.map Segment.text) :=
    if_pos (run_initial (steps.take n) (ofInitial ""))
  exact ⟨tracks.pen, tracks.control, same, texts, texts ▸ result, run_mode _ _⟩

end Builder

end SceneScript.Path
