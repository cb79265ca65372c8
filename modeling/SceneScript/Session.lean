import SceneScript.Canvas

/- Drawing on several canvases through handles. Operations change a session step by step, and where
   one fails, what it has changed before stays changed. -/
namespace SceneScript

structure Generator where
  texts : Nat → String
  /-- How many suffixes were drawn from it, whatever canvas they were for. -/
  drawn : Nat

structure Session where
  /-- In order of creation; the number of a canvas is its place here. -/
  canvases : List Canvas
  /-- For each canvas the place of the generator that it shares, if it shares one. -/
  sources : List (Option Nat)
  generators : List Generator
  canvasHandles : List (String × Nat)
  elements : List (String × Element)
  boxes : List (String × Box)

namespace Session

def empty : Session :=
  ⟨[], [], [], [], [], []⟩

inductive Op where
  | canvas (handle : String) (target : Target) (name : Option String) (suffix : Nat → String)
  | generator (texts : Nat → String)
  | canvasFrom (handle : String) (target : Target) (name : Option String) (generator : Nat)
  | push (canvas text : String)
  | draw (canvas handle : String) (shape : Shape) (attributes : Attributes)
  | drawPath (canvas handle initial : String) (steps : List Path.Step) (attributes : Attributes)
  | group (canvas handle : String) (members : List String) (attributes : Attributes)
  | attr (element name : String) (value : Value)
  | apply (element : String) (attributes : Attributes)
  | transform (element : String) (t : Transform)
  | node (element : String)
  | animate (element : String) (seconds : Float) (attributes : Attributes)
    (callback : Option String)
  | animateWith (element : String) (seconds : Float) (steps : List Animation.Step)
  | every (element : String) (seconds : Float) (steps : List Animation.Step)
  | bbox (element handle : String)
  | bboxNamed (element handle name : String)
  | reloadBbox (element handle : String)
  | update (box : String)
  | field (box : String) (f : Box.Field)

inductive Answer where
  | nothing
  | canvas (c : Canvas)
  | element (e : Element)
  | box (b : Box)
  | expression (source : String)

def numbered? (s : Session) (handle : String) : Option (Nat × Canvas) := do
  let number ← Entries.get? handle s.canvasHandles
  let c ← s.canvases[number]?
  return (number, c)

def canvas? (s : Session) (handle : String) : Option Canvas :=
  (s.numbered? handle).map Prod.snd

def element? (s : Session) (handle : String) : Option Element :=
  Entries.get? handle s.elements

def box? (s : Session) (handle : String) : Option Box :=
  Entries.get? handle s.boxes

def pushAll (s : Session) (number : Nat) (statements : List Statement) : Session :=
  { s with canvases := s.canvases.modify number fun c => c.pushAll statements }

/-- A canvas as it draws next: with the suffixes that its generator is about to give. -/
def lent (s : Session) (source : Option Nat) (c : Canvas) : Canvas :=
  match source.bind (s.generators[·]?) with
  | some g => { c with suffix := fun n => g.texts (g.drawn + (n - c.drawn)) }
  | none => c

def spent (s : Session) (source : Option Nat) (draws : Nat) : Session :=
  match source with
  | some i =>
    { s with generators := s.generators.modify i fun g => { g with drawn := g.drawn + draws } }
  | none => s

def putCanvas (s : Session) (number : Nat) (source : Option Nat) (before after : Canvas) :
    Session :=
  { s.spent source (after.drawn - before.drawn) with
    canvases := s.canvases.set number { after with suffix := before.suffix } }

def putElement (s : Session) (handle : String) (e : Element) (given : List Statement) : Session :=
  { s.pushAll e.canvas given with elements := Entries.insert handle e s.elements }

def keepCanvas (s : Session) (handle : String) (source : Option Nat) (c : Canvas) : Session :=
  { s with
    canvases := s.canvases ++ [c]
    sources := s.sources ++ [source]
    canvasHandles := Entries.insert handle c.number s.canvasHandles }

/-- A change of a session. Where it fails, what it has changed before stays changed. -/
abbrev Change := EStateM Error Session

namespace Change
variable {σ α : Type}

/-- Runs a change on a part of the session and puts back what it leaves, also when it fails. -/
def within (part : σ) (put : Session → σ → Session) (change : EStateM Error σ α) : Change α :=
  fun s =>
    match change.run part with
    | .ok a left => .ok a (put s left)
    | .error fault left => .error fault (put s left)

/-- A new canvas. What it has drawn stays drawn when it fails, and nothing else of it is left. -/
def create (handle : String) (target : Target) (name : Option String) (suffix : Nat → String)
    (source : Option Nat) : Change Answer := do
  let s ← get
  let blank := Canvas.blank s.canvases.length target suffix
  let c ← within (s.lent source blank) (fun s left => s.spent source left.drawn)
    (Canvas.Change.start name)
  let c := { c with suffix := suffix }
  modify fun s => s.keepCanvas handle source c
  return .canvas c

def onCanvas (handle : String) (change : Canvas.Change α) (next : α → Change Answer) :
    Change Answer := do
  let s ← get
  match s.numbered? handle with
  | some (number, c) =>
    let source := s.sources[number]?.join
    let a ← within (s.lent source c) (fun s left => s.putCanvas number source c left) change
    next a
  | none => return .nothing

def onElement (handle : String) (change : Element.Change α) (next : α → Change Answer) :
    Change Answer := do
  let s ← get
  match s.element? handle with
  | some e =>
    let a ← within (e, []) (fun s (e, given) => s.putElement handle e given) change
    next a
  | none => return .nothing

def onBox (handle : String) (statement : Box → Statement) (answer : Box → Answer) :
    Change Answer := do
  let s ← get
  match s.box? handle with
  | some b =>
    set (s.pushAll b.canvas [statement b])
    return answer b
  | none => return .nothing

def give (handle : String) (statements : Element → List Statement) : Change Answer :=
  onElement handle (.give statements) fun _ => return .nothing

def answerElement (handle : String) (e : Element) : Change Answer := do
  modify fun s => { s with elements := Entries.insert handle e s.elements }
  return .element e

def answerBox (handle : String) (b : Box) : Change Answer := do
  modify fun s => { s with boxes := Entries.insert handle b s.boxes }
  return .box b

end Change

open Change in
/-- Runs one operation. On a handle that was never given it does nothing. -/
def act : Op → Change Answer
  | .canvas handle target name suffix => create handle target name suffix none
  | .generator texts => do
    modify fun s => { s with generators := s.generators ++ [⟨texts, 0⟩] }
    return .nothing
  | .canvasFrom handle target name generator => do
    match (← get).generators[generator]? with
    | some g => create handle target name g.texts (some generator)
    | none => return .nothing
  | .push canvas text =>
    onCanvas canvas (modify fun c => c.push (.raw text)) fun _ => return .nothing
  | .draw canvas handle shape attributes =>
    onCanvas canvas (.draw shape attributes) (answerElement handle)
  | .drawPath canvas handle initial steps attributes =>
    onCanvas canvas (.drawPath initial steps attributes) (answerElement handle)
  | .group canvas handle members attributes => do
    let s ← get
    onCanvas canvas (.group (members.filterMap s.element?) attributes) (answerElement handle)
  | .attr element name value => give element fun e => [e.attr name value]
  | .apply element attributes => give element fun e => e.apply attributes
  | .transform element t => give element fun e => [e.transform t]
  | .node element =>
    onElement element (do Element.Change.give fun e => [e.node]; return (← get).1.nodeName)
      fun source => return .expression source
  | .animate element seconds attributes callback =>
    give element fun e => [e.animate seconds attributes callback]
  | .animateWith element seconds steps =>
    give element fun e => [((e.animation seconds).run steps).launch]
  | .every element seconds steps =>
    give element fun e => [((e.animation seconds).run steps).cycle]
  | .bbox element handle => onElement element .bbox (answerBox handle)
  | .bboxNamed element handle name => onElement element (.bboxNamed name) (answerBox handle)
  | .reloadBbox element handle => onElement element .reloadBbox (answerBox handle)
  | .update box => onBox box Box.update .box
  | .field box f => onBox box (fun b => b.field f) fun b => .expression (b.fieldName f)

def run (s : Session) : List Op → List (Except Error Answer) × Session
  | [] => ([], s)
  | op :: rest =>
    match (act op).run s with
    | .ok answer s =>
      let (answers, s) := s.run rest
      (.ok answer :: answers, s)
    | .error fault s =>
      let (answers, s) := s.run rest
      (.error fault :: answers, s)

end Session

end SceneScript
