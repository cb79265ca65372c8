import SceneScript.Proofs.Failures

/- What an operation of a session comes to when it does not fail: which canvas gains which
   statements, and which handle is given to what. What runs of operations keep follows from these
   cases. -/
namespace SceneScript

def Canvas.started (c : Canvas) (name : Option String) : Canvas :=
  { c with
    name := name.getD ("_raphael_canvas_" ++ c.suffix (c.drawn + 1))
    drawn := c.drawn + (if name.isNone then 1 else 0) }

namespace Session

section Parts
variable (s : Session)

def lentAt (number : Nat) (c : Canvas) : Canvas :=
  s.lent s.sources[number]?.join c

def keepElement (handle : String) (e : Element) : Session :=
  { s with elements := Entries.insert handle e s.elements }

def keepBox (handle : String) (b : Box) : Session :=
  { s with boxes := Entries.insert handle b s.boxes }

/-- The session with statements on one canvas that make an element; a suffix is drawn if the element
    has no id. -/
def grown (number : Nat) (c : Canvas) (id : Option String) (given : List Statement) : Session :=
  { s.spent s.sources[number]?.join (if id.isNone then 1 else 0) with
    canvases := s.canvases.set number (c.extended id given) }

def withElement (handle : String) (number : Nat) (c : Canvas) (kind : Kind) (a : Attributes)
    (creation : String → List Statement) : Session :=
  let e := (s.lentAt number c).made kind a.id
  (s.grown number c a.id (creation e.name ++ e.apply a)).keepElement handle e

def opened (target : Target) (name : Option String) (suffix : Nat → String) (source : Option Nat) :
    Canvas :=
  let blank := Canvas.blank s.canvases.length target suffix
  { (s.lent source blank).started name with suffix := suffix }

def withCanvas (handle : String) (target : Target) (name : Option String) (suffix : Nat → String)
    (source : Option Nat) : Session :=
  let c := s.opened target name suffix source
  (s.spent source c.drawn).keepCanvas handle source c

def withBox (element handle : String) (e : Element) (name : String) : Session :=
  let b : Box := ⟨e.canvas, e.name, name⟩
  ((s.pushAll e.canvas [b.declare]).keepElement element { e with box := some b }).keepBox handle b

end Parts

def Op.gives? : Op → Option (String × (Element → List Statement))
  | .attr element name value => some (element, fun e => [e.attr name value])
  | .apply element attributes => some (element, fun e => e.apply attributes)
  | .transform element t => some (element, fun e => [e.transform t])
  | .animate element seconds attributes callback =>
    some (element, fun e => [e.animate seconds attributes callback])
  | .animateWith element seconds steps =>
    some (element, fun e => [((e.animation seconds).run steps).launch])
  | .every element seconds steps =>
    some (element, fun e => [((e.animation seconds).run steps).cycle])
  | _ => none

def Op.draws? : Op → Option (String × String × Shape × Attributes)
  | .draw paper handle shape attributes => some (paper, handle, shape, attributes)
  | .drawPath paper handle initial steps attributes =>
    some (paper, handle, .path ((Path.Builder.ofInitial initial).run steps).result, attributes)
  | _ => none

def Op.Misses (s : Session) : Op → Prop
  | .canvas _ _ _ _ | .generator _ => False
  | .canvasFrom _ _ _ place => s.generators[place]? = none
  | .push paper _ | .draw paper _ _ _ | .drawPath paper _ _ _ _ | .group paper _ _ _ =>
    s.numbered? paper = none
  | .attr element _ _ | .apply element _ | .transform element _ | .node element
  | .animate element _ _ _ | .animateWith element _ _ | .every element _ _ | .bbox element _
  | .bboxNamed element _ _ | .reloadBbox element _ => s.element? element = none
  | .update handle | .field handle _ => s.box? handle = none

/-- What an operation that does not fail gives back, and the session that it leaves. -/
inductive Effect (s : Session) : Op → Answer → Session → Prop
  | missed {op : Op} (misses : op.Misses s) : Effect s op .nothing s
  | canvas {handle : String} {target : Target} {name : Option String} {suffix : Nat → String}
      (clean : idFaults name ++ target.faults = []) :
      Effect s (.canvas handle target name suffix) (.canvas (s.opened target name suffix none))
        (s.withCanvas handle target name suffix none)
  | generator (texts : Nat → String) :
      Effect s (.generator texts) .nothing { s with generators := s.generators ++ [⟨texts, 0⟩] }
  | canvasFrom {handle : String} {target : Target} {name : Option String} {place : Nat}
      {g : Generator} (known : s.generators[place]? = some g)
      (clean : idFaults name ++ target.faults = []) :
      Effect s (.canvasFrom handle target name place)
        (.canvas (s.opened target name g.texts (some place)))
        (s.withCanvas handle target name g.texts (some place))
  | pushed {canvas text : String} {number : Nat} {c : Canvas}
      (found : s.numbered? canvas = some (number, c)) :
      Effect s (.push canvas text) .nothing (s.pushAll number [.raw text])
  | drew {op : Op} {canvas handle : String} {shape : Shape} {a : Attributes} {number : Nat}
      {c : Canvas} (draws : op.draws? = some (canvas, handle, shape, a))
      (found : s.numbered? canvas = some (number, c))
      (clean : shape.faults ++ idFaults a.id = []) :
      Effect s op (.element ((s.lentAt number c).made shape.kind a.id))
        (s.withElement handle number c shape.kind a fun name =>
          [.create name c.name shape.kind.name shape.arguments])
  | grouped {canvas handle : String} {members : List String} {a : Attributes} {number : Nat}
      {c : Canvas} (found : s.numbered? canvas = some (number, c))
      (own : ∀ m ∈ members.filterMap s.element?, m.canvas = c.number)
      (clean : idFaults a.id = []) :
      Effect s (.group canvas handle members a) (.element ((s.lentAt number c).made .set a.id))
        (s.withElement handle number c .set a fun name =>
          .create name c.name "set" [] ::
            if (members.filterMap s.element?).isEmpty then []
            else [.join name ((members.filterMap s.element?).map Element.name)])
  | gave {op : Op} {element : String} {given : Element → List Statement} {e : Element}
      (gives : op.gives? = some (element, given)) (found : s.element? element = some e) :
      Effect s op .nothing (s.pushAll e.canvas (given e))
  | node {element : String} {e : Element} (found : s.element? element = some e) :
      Effect s (.node element) (.expression e.nodeName) (s.pushAll e.canvas [e.node])
  | boxNamed {element handle name : String} {e : Element} (found : s.element? element = some e)
      (clean : idFaults (some name) = []) :
      Effect s (.bboxNamed element handle name) (.box ⟨e.canvas, e.name, name⟩)
        (s.withBox element handle e name)
  | boxFirst {op : Op} {element handle : String} {e : Element}
      (asks : op = .bbox element handle ∨ op = .reloadBbox element handle)
      (found : s.element? element = some e) (none_before : e.box = none) :
      Effect s op (.box ⟨e.canvas, e.name, e.name ++ "_bbox"⟩)
        (s.withBox element handle e (e.name ++ "_bbox"))
  | boxCached {element handle : String} {e : Element} {b : Box}
      (found : s.element? element = some e) (before : e.box = some b) :
      Effect s (.bbox element handle) (.box b) (s.keepBox handle b)
  | boxReloaded {element handle : String} {e : Element} {b : Box}
      (found : s.element? element = some e) (before : e.box = some b) :
      Effect s (.reloadBbox element handle) (.box b)
        ((s.pushAll e.canvas [b.update]).keepBox handle b)
  | boxUpdated {box : String} {b : Box} (found : s.box? box = some b) :
      Effect s (.update box) (.box b) (s.pushAll b.canvas [b.update])
  | boxField {box : String} {f : Box.Field} {b : Box} (found : s.box? box = some b) :
      Effect s (.field box f) (.expression (b.fieldName f)) (s.pushAll b.canvas [b.field f])

section Canvases
variable {s : Session} {number : Nat} {c : Canvas}

theorem lentAt_fields (s : Session) (number : Nat) (c : Canvas) :
    ∃ suffix, s.lentAt number c = { c with suffix := suffix } :=
  lent_suffix s _ c

@[simp] theorem lentAt_number (s : Session) (number : Nat) (c : Canvas) :
    (s.lentAt number c).number = c.number := by
  obtain ⟨suffix, lent⟩ := lentAt_fields s number c
  rw [lent]

@[simp] theorem lentAt_name (s : Session) (number : Nat) (c : Canvas) :
    (s.lentAt number c).name = c.name := by
  obtain ⟨suffix, lent⟩ := lentAt_fields s number c
  rw [lent]

theorem spent_generators (s : Session) (source : Option Nat) (draws : Nat) :
    ∃ generators, s.spent source draws = { s with generators := generators } := by
  cases source <;> exact ⟨_, rfl⟩

theorem putCanvas_extended (s : Session) (number : Nat) (c : Canvas) (id : Option String)
    (given : List Statement) :
    s.putCanvas number s.sources[number]?.join c ((s.lentAt number c).extended id given) =
      s.grown number c id given := by
  obtain ⟨suffix, lent⟩ := lentAt_fields s number c
  rw [lent, putCanvas, grown]
  simp only [Canvas.extended, Nat.add_sub_cancel_left]

theorem pushAll_set (found : s.canvases[number]? = some c) (given : List Statement) :
    s.pushAll number given = { s with canvases := s.canvases.set number (c.pushAll given) } := by
  have modified : s.canvases.modify number (fun c => c.pushAll given) =
      s.canvases.set number (c.pushAll given) := by
    rw [List.modify_eq_set_getElem?, found]
    rfl
  rw [pushAll, modified]

theorem putCanvas_pushed (found : s.canvases[number]? = some c) (given : List Statement) :
    s.putCanvas number s.sources[number]?.join c ((s.lentAt number c).pushAll given) =
      s.pushAll number given := by
  obtain ⟨suffix, lent⟩ := lentAt_fields s number c
  rw [lent, putCanvas, pushAll_set found]
  simp only [Canvas.pushAll, Nat.sub_self, spent_nothing]

theorem start_settled (c : Canvas) (name : Option String) :
    (Canvas.Change.start name).run c =
      settled c (idFaults name ++ c.target.faults) (c.started name) (c.started name) := by
  cases name with
  | none => exact settled_bind_ok (Canvas.Change.takeFreshName_settled c) rfl
  | some name => exact settled_bind_ok (Canvas.Change.takeName_settled c name) rfl

end Canvases

namespace Change
variable {α σ : Type} {s : Session}

theorem within_settled {part after : σ} {put : Session → σ → Session}
    {change : EStateM Error σ α} {faults : List Error} {a : α}
    (run : change.run part = settled part faults a after) (same : put s part = s) :
    (within part put change).run s = settled s faults a (put s after) := by
  simp only [EStateM.run, within] at run ⊢
  rw [run]
  cases faults with
  | nil => rfl
  | cons fault rest =>
    simp only [settled]
    rw [same]

section Canvas
variable {handle : String} {number : Nat} {c : Canvas}

theorem onCanvas_settled {change : Canvas.Change α} {next : α → Change Answer}
    {faults : List Error} {a : α} {after : Canvas} {answer : Answer} {done : Session}
    (found : s.numbered? handle = some (number, c))
    (run : change.run (s.lentAt number c) = settled (s.lentAt number c) faults a after)
    (follows : (next a).run (s.putCanvas number s.sources[number]?.join c after) =
      .ok answer done) :
    (onCanvas handle change next).run s = settled s faults answer done := by
  have put_back := putCanvas_lent (numbered_canvas found) s.sources[number]?.join
  rw [onCanvas, bind_after_ok (EStateM.run_get s)]
  simp only [found]
  exact settled_bind_ok (within_settled run put_back) follows

theorem onCanvas_missed {change : Canvas.Change α} {next : α → Change Answer}
    (missing : s.numbered? handle = none) :
    (onCanvas handle change next).run s = .ok .nothing s := by
  rw [onCanvas, bind_after_ok (EStateM.run_get s)]
  simp only [missing]
  rfl

theorem push_run (found : s.numbered? handle = some (number, c)) (text : String) :
    (act (.push handle text)).run s = .ok .nothing (s.pushAll number [.raw text]) := by
  have pushed : (modify fun c => c.push (.raw text) : Canvas.Change Unit).run (s.lentAt number c) =
      settled (s.lentAt number c) [] () ((s.lentAt number c).pushAll [.raw text]) := rfl
  refine onCanvas_settled found pushed ?_
  rw [putCanvas_pushed (numbered_canvas found)]
  rfl

theorem made_settled {change : Canvas.Change Element} {element : String} {kind : Kind}
    {a : Attributes} {faults : List Error} (creation : String → List Statement)
    (found : s.numbered? handle = some (number, c))
    (run : change.run (s.lentAt number c) = settled (s.lentAt number c) faults
      ((s.lentAt number c).made kind a.id)
      ((s.lentAt number c).extended a.id
        (creation ((s.lentAt number c).nextName kind a.id) ++
          ((s.lentAt number c).made kind a.id).apply a))) :
    (onCanvas handle change (answerElement element)).run s =
      settled s faults (.element ((s.lentAt number c).made kind a.id))
        (s.withElement element number c kind a creation) := by
  refine onCanvas_settled found run ?_
  rw [putCanvas_extended]
  rfl

theorem draw_run {op : Op} {element : String} {shape : Shape} {a : Attributes}
    (draws : op.draws? = some (handle, element, shape, a))
    (found : s.numbered? handle = some (number, c)) :
    (act op).run s = settled s (shape.faults ++ idFaults a.id)
      (.element ((s.lentAt number c).made shape.kind a.id))
      (s.withElement element number c shape.kind a fun name =>
        [.create name c.name shape.kind.name shape.arguments]) := by
  have drawn := Canvas.Change.draw_settled (s.lentAt number c) shape a
  rw [lentAt_name] at drawn
  have own : act op = onCanvas handle (.draw shape a) (answerElement element) := by
    cases op <;> cases draws <;> rfl
  rw [own]
  exact made_settled (fun name => [.create name c.name shape.kind.name shape.arguments]) found drawn

theorem group_run (found : s.numbered? handle = some (number, c)) (element : String)
    (members : List String) (a : Attributes) :
    (act (.group handle element members a)).run s =
      settled s (c.foreignFaults (members.filterMap s.element?) ++ idFaults a.id)
        (.element ((s.lentAt number c).made .set a.id))
        (s.withElement element number c .set a fun name =>
          .create name c.name "set" [] ::
            if (members.filterMap s.element?).isEmpty then []
            else [.join name ((members.filterMap s.element?).map Element.name)]) := by
  have grouped := Canvas.Change.group_settled (s.lentAt number c) (members.filterMap s.element?) a
  have same_faults : (s.lentAt number c).foreignFaults = c.foreignFaults := by
    funext members
    simp only [Canvas.foreignFaults, lentAt_number]
  rw [lentAt_name, same_faults] at grouped
  rw [act, bind_after_ok (EStateM.run_get s)]
  exact made_settled (fun name => .create name c.name "set" [] :: _) found grouped

end Canvas

section Creation

theorem create_run (s : Session) (handle : String) (target : Target) (name : Option String)
    (suffix : Nat → String) (source : Option Nat) :
    (create handle target name suffix source).run s =
      settled s (idFaults name ++ target.faults) (.canvas (s.opened target name suffix source))
        (s.withCanvas handle target name suffix source) := by
  have lent := lent_suffix s source (Canvas.blank s.canvases.length target suffix)
  have unspent :
      s.spent source (s.lent source (Canvas.blank s.canvases.length target suffix)).drawn = s := by
    obtain ⟨_, lent⟩ := lent
    rw [lent]
    exact spent_nothing s source
  have started := start_settled (s.lent source (Canvas.blank s.canvases.length target suffix)) name
  have same : (s.lent source (Canvas.blank s.canvases.length target suffix)).target = target := by
    obtain ⟨_, lent⟩ := lent
    rw [lent]
    rfl
  rw [same] at started
  rw [create, bind_after_ok (EStateM.run_get s)]
  let put (s : Session) (left : Canvas) : Session := s.spent source left.drawn
  have within : (within _ put (Canvas.Change.start name)).run s = _ :=
    within_settled started unspent
  exact settled_bind_ok within rfl

end Creation

section Element
variable {handle : String} {e : Element}

theorem onElement_settled {change : Element.Change α} {next : α → Change Answer}
    {faults : List Error} {a : α} {after : Element × List Statement} {answer : Answer}
    {done : Session} (found : s.element? handle = some e)
    (run : change.run (e, []) = settled (e, []) faults a after)
    (follows : (next a).run (s.putElement handle after.1 after.2) = .ok answer done) :
    (onElement handle change next).run s = settled s faults answer done := by
  rw [onElement, bind_after_ok (EStateM.run_get s)]
  simp only [found]
  exact settled_bind_ok (within_settled run (putElement_same found)) follows

theorem onElement_missed {change : Element.Change α} {next : α → Change Answer}
    (missing : s.element? handle = none) :
    (onElement handle change next).run s = .ok .nothing s := by
  rw [onElement, bind_after_ok (EStateM.run_get s)]
  simp only [missing]
  rfl

theorem putElement_unchanged (found : s.element? handle = some e) (given : List Statement) :
    s.putElement handle e given = s.pushAll e.canvas given := by
  rw [putElement, Entries.insert_same found]
  rfl

theorem give_run {op : Op} {given : Element → List Statement}
    (gives : op.gives? = some (handle, given)) (found : s.element? handle = some e) :
    (act op).run s = .ok .nothing (s.pushAll e.canvas (given e)) := by
  have own : act op = give handle given := by
    cases op <;> cases gives; all_goals rfl
  have gave : (Element.Change.give given).run (e, []) = settled (e, []) [] () (e, given e) := rfl
  rw [own]
  exact onElement_settled found gave (by rw [putElement_unchanged found]; rfl)

theorem node_run (found : s.element? handle = some e) :
    (act (.node handle)).run s = .ok (.expression e.nodeName) (s.pushAll e.canvas [e.node]) := by
  have gave : (do Element.Change.give fun e => [e.node]; return (← get).1.nodeName :
      Element.Change String).run (e, []) = settled (e, []) [] e.nodeName (e, [e.node]) := rfl
  exact onElement_settled found gave (by rw [putElement_unchanged found]; rfl)

theorem bboxNamed_run (found : s.element? handle = some e) (box name : String) :
    (act (.bboxNamed handle box name)).run s = settled s (idFaults (some name))
      (.box ⟨e.canvas, e.name, name⟩) (s.withBox handle box e name) := by
  let b : Box := ⟨e.canvas, e.name, name⟩
  have named : (Element.Change.bboxNamed name).run (e, []) = settled (e, [])
      (idFaults (some name)) b ({ e with box := some b }, [b.declare]) := by
    rw [Element.Change.bboxNamed, idFaults, faultIf]
    cases isIdentifier name <;> rfl
  exact onElement_settled found named rfl

theorem bbox_first_run {op : Op} {box : String}
    (asks : op = .bbox handle box ∨ op = .reloadBbox handle box)
    (found : s.element? handle = some e) (none_before : e.box = none) :
    (act op).run s = .ok (.box ⟨e.canvas, e.name, e.name ++ "_bbox"⟩)
      (s.withBox handle box e (e.name ++ "_bbox")) := by
  let b : Box := ⟨e.canvas, e.name, e.name ++ "_bbox"⟩
  have first : Element.Change.bbox.run (e, []) = settled (e, []) [] b
      ({ e with box := some b }, [b.declare]) := by
    rw [Element.Change.bbox, bind_after_ok (EStateM.run_get _)]
    simp only [none_before]
    rfl
  have reloaded : Element.Change.reloadBbox.run (e, []) = settled (e, []) [] b
      ({ e with box := some b }, [b.declare]) := by
    rw [Element.Change.reloadBbox, bind_after_ok (EStateM.run_get _)]
    simp only [none_before]
    exact first
  rcases asks with rfl | rfl
  · exact onElement_settled found first rfl
  · exact onElement_settled found reloaded rfl

variable {b : Box}

theorem bbox_cached_run (found : s.element? handle = some e) (before : e.box = some b)
    (box : String) : (act (.bbox handle box)).run s = .ok (.box b) (s.keepBox box b) := by
  have cached : Element.Change.bbox.run (e, []) = settled (e, []) [] b (e, []) := by
    rw [Element.Change.bbox, bind_after_ok (EStateM.run_get _)]
    simp only [before]
    rfl
  exact onElement_settled found cached (by rw [putElement_same found]; rfl)

theorem reload_run (found : s.element? handle = some e) (before : e.box = some b) (box : String) :
    (act (.reloadBbox handle box)).run s =
      .ok (.box b) ((s.pushAll e.canvas [b.update]).keepBox box b) := by
  have reloaded : Element.Change.reloadBbox.run (e, []) = settled (e, []) [] b (e, [b.update]) := by
    rw [Element.Change.reloadBbox, bind_after_ok (EStateM.run_get _)]
    simp only [before]
    rfl
  exact onElement_settled found reloaded (by rw [putElement_unchanged found]; rfl)

end Element

section Box
variable {handle : String} {b : Box}

theorem onBox_run (found : s.box? handle = some b) (statement : Box → Statement)
    (answer : Box → Answer) :
    (onBox handle statement answer).run s =
      .ok (answer b) (s.pushAll b.canvas [statement b]) := by
  rw [onBox, bind_after_ok (EStateM.run_get s)]
  simp only [found]
  rfl

theorem onBox_missed (missing : s.box? handle = none) (statement : Box → Statement)
    (answer : Box → Answer) : (onBox handle statement answer).run s = .ok .nothing s := by
  rw [onBox, bind_after_ok (EStateM.run_get s)]
  simp only [missing]
  rfl

end Box

theorem missed_run {op : Op} (misses : op.Misses s) : (act op).run s = .ok .nothing s := by
  cases op with
  | canvas => exact misses.elim
  | generator => exact misses.elim
  | canvasFrom handle target name place =>
    rw [act, bind_after_ok (EStateM.run_get s)]
    simp only [show s.generators[place]? = none from misses]
    rfl
  | group =>
    rw [act, bind_after_ok (EStateM.run_get s)]
    exact onCanvas_missed misses
  | push => exact onCanvas_missed misses
  | draw => exact onCanvas_missed misses
  | drawPath => exact onCanvas_missed misses
  | update => exact onBox_missed misses _ _
  | field => exact onBox_missed misses _ _
  | _ => exact onElement_missed misses

end Change

section Effects
open Change
variable {s : Session} {op : Op} {answer : Answer} {after : Session}

theorem effect_runs (effect : Effect s op answer after) : (act op).run s = .ok answer after := by
  have clear {faults : List Error} {a : Answer} {left : Session} (clean : faults = []) :
      settled s faults a left = .ok a left := by rw [clean]; rfl
  cases effect with
  | missed misses => exact missed_run misses
  | canvas clean => exact (create_run s _ _ _ _ none).trans (clear clean)
  | generator texts => rfl
  | canvasFrom known clean =>
    rw [act, bind_after_ok (EStateM.run_get s)]
    simp only [known]
    exact (create_run s _ _ _ _ _).trans (clear clean)
  | pushed found => exact push_run found _
  | drew draws found clean => exact (draw_run draws found).trans (clear clean)
  | grouped found own clean =>
    refine (group_run found _ _ _).trans (clear ?_)
    rw [clean, List.append_nil, Canvas.foreignFaults, List.find?_eq_none.mpr]
    simpa using own
  | gave gives found => exact give_run gives found
  | node found => exact node_run found
  | boxNamed found clean => exact (bboxNamed_run found _ _).trans (clear clean)
  | boxFirst asks found none_before => exact bbox_first_run asks found none_before
  | boxCached found before => exact bbox_cached_run found before _
  | boxReloaded found before => exact reload_run found before _
  | boxUpdated found => exact onBox_run found _ _
  | boxField found => exact onBox_run found _ _

theorem foreign_none {c : Canvas} {members : List Element} (clean : c.foreignFaults members = []) :
    ∀ m ∈ members, m.canvas = c.number := by
  unfold Canvas.foreignFaults at clean
  split at clean
  · contradiction
  · rename_i none_foreign
    simpa using List.find?_eq_none.mp none_foreign

theorem effect_of_run (run : (act op).run s = .ok answer after) : Effect s op answer after := by
  have same {a : Answer} {left : Session} (own : (act op).run s = .ok a left)
      (effect : Effect s op a left) : Effect s op answer after := by
    cases own.symm.trans run
    exact effect
  have clean {faults : List Error} {a : Answer} {left : Session}
      (own : (act op).run s = settled s faults a left) (effect : faults = [] → Effect s op a left) :
      Effect s op answer after := by
    cases faults with
    | nil => exact same own (effect rfl)
    | cons fault rest => exact absurd (own.symm.trans run) (by simp [settled])
  have missed (misses : op.Misses s) : Effect s op answer after :=
    same (missed_run misses) (.missed misses)
  have gave {element : String} {given : Element → List Statement}
      (gives : op.gives? = some (element, given))
      (misses : s.element? element = none → op.Misses s) : Effect s op answer after := by
    cases found : s.element? element with
    | none => exact missed (misses found)
    | some e => exact same (give_run gives found) (.gave gives found)
  have drew {paper handle : String} {shape : Shape} {a : Attributes}
      (draws : op.draws? = some (paper, handle, shape, a))
      (misses : s.numbered? paper = none → op.Misses s) : Effect s op answer after := by
    cases found : s.numbered? paper with
    | none => exact missed (misses found)
    | some numbered => exact clean (draw_run draws found) (.drew draws found)
  cases op with
  | canvas handle target name suffix => exact clean (create_run s _ _ _ _ none) .canvas
  | generator texts => exact same rfl (.generator texts)
  | canvasFrom handle target name place =>
    cases known : s.generators[place]? with
    | none => exact missed known
    | some g =>
      have created := create_run s handle target name g.texts (some place)
      refine clean ?_ (.canvasFrom known)
      rw [act, bind_after_ok (EStateM.run_get s)]
      simpa only [known] using created
  | push paper text =>
    cases found : s.numbered? paper with
    | none => exact missed found
    | some numbered => exact same (push_run found text) (.pushed found)
  | draw paper handle shape a => exact drew rfl id
  | drawPath paper handle initial steps a => exact drew rfl id
  | group paper handle members a =>
    cases found : s.numbered? paper with
    | none => exact missed found
    | some numbered =>
      refine clean (group_run found handle members a) fun no_fault => ?_
      obtain ⟨own, named⟩ := List.append_eq_nil_iff.mp no_fault
      exact .grouped found (foreign_none own) named
  | node element =>
    cases found : s.element? element with
    | none => exact missed found
    | some e => exact same (node_run found) (.node found)
  | bbox element handle =>
    cases found : s.element? element with
    | none => exact missed found
    | some e =>
      cases before : e.box with
      | none =>
        exact same (bbox_first_run (.inl rfl) found before) (.boxFirst (.inl rfl) found before)
      | some b => exact same (bbox_cached_run found before handle) (.boxCached found before)
  | bboxNamed element handle name =>
    cases found : s.element? element with
    | none => exact missed found
    | some e => exact clean (bboxNamed_run found handle name) (.boxNamed found)
  | reloadBbox element handle =>
    cases found : s.element? element with
    | none => exact missed found
    | some e =>
      cases before : e.box with
      | none =>
        exact same (bbox_first_run (.inr rfl) found before) (.boxFirst (.inr rfl) found before)
      | some b => exact same (reload_run found before handle) (.boxReloaded found before)
  | update handle =>
    cases found : s.box? handle with
    | none => exact missed found
    | some b => exact same (onBox_run found _ _) (.boxUpdated found)
  | field handle f =>
    cases found : s.box? handle with
    | none => exact missed found
    | some b => exact same (onBox_run found _ _) (.boxField found)
  | _ => exact gave rfl id

theorem act_ok_iff : (act op).run s = .ok answer after ↔ Effect s op answer after :=
  ⟨effect_of_run, effect_runs⟩

theorem run_keeps_among {holds : Session → Prop} {ops : List Op}
    (kept : ∀ op ∈ ops, ∀ s answer after, Effect s op answer after → holds s → holds after)
    {s : Session} (start : holds s) : holds (s.run ops).2 := by
  induction ops generalizing s with
  | nil => exact start
  | cons op rest ih =>
    obtain ⟨first, later⟩ := List.forall_mem_cons.mp kept
    cases outcome : (act op).run s with
    | ok answer after =>
      simp only [run, outcome]
      exact ih later (first s answer after (act_ok_iff.mp outcome) start)
    | error fault left =>
      obtain rfl := act_untouched op s fault left outcome
      simp only [run, outcome]
      exact ih later start

theorem run_keeps {holds : Session → Prop}
    (kept : ∀ s op answer after, Effect s op answer after → holds s → holds after)
    (ops : List Op) {s : Session} (start : holds s) : holds (s.run ops).2 :=
  run_keeps_among (fun op _ s answer after => kept s op answer after) start

end Effects

end Session

end SceneScript
