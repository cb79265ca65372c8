import SceneScript.Proofs.Drawing
import SceneScript.Proofs.Entries
import SceneScript.Session

/- Operations that fail leave no trace. All checks of a change come before its first effect, so a
   change that fails leaves what it was run on as it found it, and a run of operations is the same
   without those that fail in it. -/
namespace SceneScript

/-- When the change fails here, it leaves everything as it was. -/
def Untouched {σ α : Type} (change : EStateM Error σ α) (s : σ) : Prop :=
  ∀ fault left, change.run s = .error fault left → left = s

section
variable {σ α β : Type} {s : σ}

theorem untouched_of_ok {change : EStateM Error σ α} {a : α} {after : σ}
    (run : change.run s = .ok a after) : Untouched change s := by
  intro fault left failed
  rw [run] at failed
  contradiction

theorem untouched_of_settled {change : EStateM Error σ α} {faults : List Error} {a : α} {after : σ}
    (run : change.run s = settled s faults a after) : Untouched change s := by
  intro fault left failed
  rw [run] at failed
  exact settled_error failed

theorem untouched_bind {change : EStateM Error σ α} {next : α → EStateM Error σ β}
    (first : Untouched change s)
    (sure : ∀ a between, ∃ b after, (next a).run between = .ok b after) :
    Untouched (change >>= next) s := by
  intro fault left failed
  cases run : change.run s with
  | ok a between =>
    obtain ⟨b, after, follows⟩ := sure a between
    rw [bind_after_ok run, follows] at failed
    contradiction
  | error other between =>
    rw [bind_after_error run] at failed
    cases failed
    exact first _ _ run

theorem untouched_get {next : σ → EStateM Error σ β} (follows : Untouched (next s) s) :
    Untouched (get >>= next) s := by
  intro fault left failed
  rw [bind_after_ok (EStateM.run_get s)] at failed
  exact follows fault left failed

end

namespace Canvas.Change

theorem start_untouched (name : Option String) (c : Canvas) : Untouched (start name) c := by
  cases name with
  | none =>
    have named := untouched_of_settled (takeFreshName_settled c)
    exact untouched_bind named fun _ _ => ⟨_, _, rfl⟩
  | some name =>
    have named := untouched_of_settled (takeName_settled c name)
    exact untouched_bind named fun _ _ => ⟨_, _, rfl⟩

end Canvas.Change

namespace Element.Change

theorem bboxNamed_untouched (name : String) (s : Element × List Statement) :
    Untouched (bboxNamed name) s := by
  rw [bboxNamed]
  cases isIdentifier name with
  | true => exact untouched_of_ok rfl
  | false =>
    intro fault left failed
    cases failed
    rfl

theorem bbox_untouched (s : Element × List Statement) : Untouched bbox s := by
  obtain ⟨⟨canvas, name, kind, box⟩, given⟩ := s
  apply untouched_get
  cases box <;> exact untouched_of_ok rfl

theorem reloadBbox_untouched (s : Element × List Statement) : Untouched reloadBbox s := by
  obtain ⟨⟨canvas, name, kind, box⟩, given⟩ := s
  apply untouched_get
  cases box with
  | some b => exact untouched_of_ok rfl
  | none => exact bbox_untouched _

end Element.Change

namespace Session

theorem pushAll_nothing (s : Session) (number : Nat) : s.pushAll number [] = s := by
  have same : (fun c : Canvas => c.pushAll []) = id := by
    funext c
    rw [Canvas.pushAll, List.append_nil]
    rfl
  rw [pushAll, same, List.modify_id]

theorem spent_nothing (s : Session) (source : Option Nat) : s.spent source 0 = s := by
  cases source with
  | none => rfl
  | some i =>
    have same : (fun g : Generator => { g with drawn := g.drawn + 0 }) = id := rfl
    rw [spent, same, List.modify_id]

theorem numbered_canvas {s : Session} {handle : String} {number : Nat} {c : Canvas}
    (found : s.numbered? handle = some (number, c)) : s.canvases[number]? = some c := by
  simp only [numbered?, Option.bind_eq_bind, Option.bind_eq_some_iff] at found
  obtain ⟨n, _, d, at_n, same⟩ := found
  obtain ⟨rfl, rfl⟩ := Prod.mk.inj (Option.some.inj same)
  exact at_n

theorem lent_suffix (s : Session) (source : Option Nat) (c : Canvas) :
    ∃ suffix, s.lent source c = { c with suffix := suffix } := by
  unfold lent
  split
  · exact ⟨_, rfl⟩
  · exact ⟨c.suffix, rfl⟩

theorem putCanvas_lent {s : Session} {number : Nat} {c : Canvas}
    (found : s.canvases[number]? = some c) (source : Option Nat) :
    s.putCanvas number source c (s.lent source c) = s := by
  obtain ⟨suffix, lent⟩ := lent_suffix s source c
  have back : s.canvases.set number c = s.canvases := by
    obtain ⟨bound, rfl⟩ := List.getElem?_eq_some_iff.mp found
    exact List.set_getElem_self bound
  calc s.putCanvas number source c (s.lent source c)
      = { s.spent source (c.drawn - c.drawn) with canvases := s.canvases.set number c } := by
        rw [lent]
        rfl
    _ = s := by rw [Nat.sub_self, spent_nothing, back]

theorem putElement_same {s : Session} {handle : String} {e : Element}
    (found : s.element? handle = some e) : s.putElement handle e [] = s := by
  rw [putElement, pushAll_nothing, Entries.insert_same found]

namespace Change
variable {σ α : Type}

theorem within_untouched {s : Session} {part : σ} {put : Session → σ → Session}
    {change : EStateM Error σ α} (own : Untouched change part) (same : put s part = s) :
    Untouched (within part put change) s := by
  intro fault left failed
  simp only [EStateM.run, within] at failed
  split at failed
  · contradiction
  · rename_i after result
    cases failed
    rw [own _ after result, same]

theorem create_untouched (s : Session) (handle : String) (target : Target) (name : Option String)
    (suffix : Nat → String) (source : Option Nat) :
    Untouched (create handle target name suffix source) s := by
  let blank := Canvas.blank s.canvases.length target suffix
  have unspent : s.spent source (s.lent source blank).drawn = s := by
    obtain ⟨_, lent⟩ := lent_suffix s source blank
    rw [lent]
    exact spent_nothing s source
  have started : Untouched (within (s.lent source blank)
      (fun s left => s.spent source left.drawn) (Canvas.Change.start name)) s :=
    within_untouched (Canvas.Change.start_untouched name _) unspent
  exact untouched_get (untouched_bind started fun _ _ => ⟨_, _, rfl⟩)

section
variable {next : α → Change Answer}
  (sure : ∀ a s, ∃ answer after, (next a).run s = .ok answer after) (handle : String) (s : Session)
include sure

theorem onCanvas_untouched {change : Canvas.Change α} (own : ∀ c, Untouched change c) :
    Untouched (onCanvas handle change next) s := by
  apply untouched_get
  cases found : s.numbered? handle with
  | none => exact untouched_of_ok rfl
  | some numbered =>
    obtain ⟨number, c⟩ := numbered
    have unchanged := putCanvas_lent (numbered_canvas found) s.sources[number]?.join
    exact untouched_bind (within_untouched (own _) unchanged) sure

theorem onElement_untouched {change : Element.Change α} (own : ∀ e, Untouched change e) :
    Untouched (onElement handle change next) s := by
  apply untouched_get
  cases found : s.element? handle with
  | none => exact untouched_of_ok rfl
  | some e => exact untouched_bind (within_untouched (own _) (putElement_same found)) sure

end

theorem onBox_untouched (handle : String) (statement : Box → Statement) (answer : Box → Answer)
    (s : Session) : Untouched (onBox handle statement answer) s := by
  apply untouched_get
  cases s.box? handle <;> exact untouched_of_ok rfl

theorem give_untouched (handle : String) (statements : Element → List Statement) (s : Session) :
    Untouched (give handle statements) s :=
  onElement_untouched (fun _ _ => ⟨_, _, rfl⟩) handle s fun _ => untouched_of_ok rfl

end Change

open Change in
theorem act_untouched (op : Op) (s : Session) : Untouched (act op) s := by
  have kept (handle : String) (e : Element) (s : Session) :
      ∃ answer after, (answerElement handle e).run s = .ok answer after := ⟨_, _, rfl⟩
  have boxed (handle : String) (b : Box) (s : Session) :
      ∃ answer after, (answerBox handle b).run s = .ok answer after := ⟨_, _, rfl⟩
  cases op with
  | canvas handle target name suffix => exact create_untouched s handle target name suffix none
  | generator texts => exact untouched_of_ok rfl
  | canvasFrom handle target name generator =>
    apply untouched_get
    cases s.generators[generator]? with
    | none => exact untouched_of_ok rfl
    | some g => exact create_untouched s handle target name g.texts (some generator)
  | push canvas text =>
    exact onCanvas_untouched (fun _ _ => ⟨_, _, rfl⟩) canvas s fun _ => untouched_of_ok rfl
  | draw canvas handle shape attributes =>
    exact onCanvas_untouched (kept handle) canvas s fun c =>
      untouched_of_settled (Canvas.Change.draw_settled c shape attributes)
  | drawPath canvas handle initial steps attributes =>
    exact onCanvas_untouched (kept handle) canvas s fun c =>
      untouched_of_settled (Canvas.Change.draw_settled c _ attributes)
  | group canvas handle members attributes =>
    exact untouched_get (onCanvas_untouched (kept handle) canvas s fun c =>
      untouched_of_settled (Canvas.Change.group_settled c _ attributes))
  | attr element name value => exact give_untouched element _ s
  | apply element attributes => exact give_untouched element _ s
  | transform element t => exact give_untouched element _ s
  | node element =>
    exact onElement_untouched (fun _ _ => ⟨_, _, rfl⟩) element s fun _ => untouched_of_ok rfl
  | animate element seconds attributes callback => exact give_untouched element _ s
  | animateWith element seconds steps => exact give_untouched element _ s
  | every element seconds steps => exact give_untouched element _ s
  | bbox element handle =>
    exact onElement_untouched (boxed handle) element s Element.Change.bbox_untouched
  | bboxNamed element handle name =>
    exact onElement_untouched (boxed handle) element s (Element.Change.bboxNamed_untouched name)
  | reloadBbox element handle =>
    exact onElement_untouched (boxed handle) element s Element.Change.reloadBbox_untouched
  | update box => exact onBox_untouched box _ _ s
  | field box f => exact onBox_untouched box _ _ s

def survivors (s : Session) : List Op → List Op
  | [] => []
  | op :: rest =>
    match (act op).run s with
    | .ok _ s => op :: s.survivors rest
    | .error _ s => s.survivors rest

/-- Without its failed operations a run gives the same answers, and the same session is left: the
    canvases with their names and statements, the elements with their boxes, the generators. -/
theorem failures_leave_no_trace (s : Session) (ops : List Op) :
    s.run (s.survivors ops) =
      ((s.run ops).1.filter fun answer => answer.isOk, (s.run ops).2) ∧
    ∀ op fault left, (act op).run s = .error fault left → left = s := by
  refine ⟨?_, fun op => act_untouched op s⟩
  induction ops generalizing s with
  | nil => rfl
  | cons op rest ih =>
    cases outcome : (act op).run s with
    | ok answer next =>
      simp only [survivors, run, outcome, ih next]
      rfl
    | error fault left =>
      obtain rfl := act_untouched op s fault left outcome
      simp only [survivors, run, outcome, ih left]
      rfl

theorem failed_calls_skipped :
    let s : Session := { empty with generators := [⟨fun n => "g" ++ toString n, 0⟩] }
    let bad : Op := .canvasFrom "a" (.container " " 9 9) none 0
    let page : Target := .position 0 0 9 9
    let ops : List Op := [bad, .canvasFrom "a" page none 0, .canvasFrom "b" page (some "var") 0,
      .canvasFrom "b" (.position 0 0 0 9) none 0, .canvasFrom "b" page none 0,
      .draw "a" "x" (.path "L1") .empty,
      .draw "a" "x" (.circle 0 0 1) (Attributes.empty.withId "not valid"),
      .draw "a" "x" (.circle 0 0 1) .empty, .group "b" "y" ["x"] .empty,
      .bboxNamed "x" "box" "1", .bbox "x" "box", .draw "b" "y" (.circle 0 0 1) .empty]
    (s.run ops).1.map Except.isOk = [false, true, false, false, true, false, false, true, false,
      false, true, true] ∧
    ((s.run (s.survivors ops)).2.canvases.map fun c => c.statements.map Statement.text) = [
      ["var rafa_circle_g3 = _raphael_canvas_g1.circle(0, 0, 1);",
        "var rafa_circle_g3_bbox = rafa_circle_g3.getBBox();"],
      ["var rafa_circle_g4 = _raphael_canvas_g2.circle(0, 0, 1);"]] ∧
    s.run (s.survivors ops) = ((s.run ops).1.filter fun answer => answer.isOk, (s.run ops).2) ∧
    (act bad).run s = .error .invalidContainer s := by
  intro s bad page ops
  obtain ⟨same, unchanged⟩ := failures_leave_no_trace s ops
  have failed : (act bad).run s = .error .invalidContainer _ := rfl
  refine ⟨by decide +kernel, ?_, same, ?_⟩
  · rw [same]
    decide +kernel
  · rw [failed, unchanged bad _ _ failed]

end Session

end SceneScript
