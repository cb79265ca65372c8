import SceneScript.Proofs.Subjects
import SceneScript.Uid

/- Canvases are apart. Whatever is done to other canvases in between, a canvas comes out as if it
   were the only one and only the operations on it were run. What it is called does not matter: an
   element belongs to the canvas that it was made on, and to no other of the same name. -/
namespace SceneScript

def Canvas.alone (c : Canvas) : Canvas :=
  { c with number := 0 }

def Box.alone (b : Box) : Box :=
  { b with canvas := 0 }

def Element.alone (e : Element) : Element :=
  { e with canvas := 0, box := e.box.map Box.alone }

namespace Session

def Op.members (s : Session) : Op → List Element
  | .group _ _ members _ => members.filterMap s.element?
  | _ => []

/-- Whether an operation is on a canvas and about nothing from another one. -/
def Owns (s : Session) (number : Nat) (op : Op) : Prop :=
  op.subject? s = some number ∧ ∀ m ∈ op.members s, m.canvas = number

instance (s : Session) (number : Nat) (op : Op) : Decidable (s.Owns number op) :=
  inferInstanceAs (Decidable (_ ∧ _))

def own (number : Nat) (s : Session) : List Op → List Op
  | [] => []
  | op :: rest =>
    let later := own number (s.run [op]).2 rest
    if s.Owns number op then op :: later else later

/-- Whether a session has one canvas only, and it is like a canvas of another session, with all
    that is known there of this canvas. -/
structure Mirrors (number : Nat) (s t : Session) : Prop where
  canvas : ∃ c, s.canvases[number]? = some c ∧ t.canvases = [c.alone]
  source : s.sources[number]? = some none ∧ t.sources = [none]
  papers : ∀ handle, Entries.get? handle s.canvasHandles = some number →
    Entries.get? handle t.canvasHandles = some 0
  elements : ∀ handle e, s.element? handle = some e → e.canvas = number →
    t.element? handle = some e.alone
  unknown : ∀ handle, s.element? handle = none → t.element? handle = none
  boxes : ∀ handle b, s.box? handle = some b → b.canvas = number → t.box? handle = some b.alone

namespace Mirrors
variable {number : Nat} {s t after : Session} {c : Canvas}

theorem other (mirrors : Mirrors number s t)
    (same : after.canvases[number]? = s.canvases[number]?) (spares : Spares number s after) :
    Mirrors number after t := by
  refine ⟨?_, ?_, fun handle found => mirrors.papers handle (spares.papers handle found),
    fun handle e found own => mirrors.elements handle e (spares.elements handle e found own) own,
    fun handle missing => mirrors.unknown handle (spares.unknown handle missing),
    fun handle b found own => mirrors.boxes handle b (spares.boxes handle b found own) own⟩
  · rw [same]
    exact mirrors.canvas
  · rw [spares.source]
    exact mirrors.source

theorem numbered (mirrors : Mirrors number s t) {handle : String}
    (found : s.numbered? handle = some (number, c)) :
    t.numbered? handle = some (0, c.alone) := by
  obtain ⟨d, at_number, only⟩ := mirrors.canvas
  cases at_number.symm.trans (numbered_canvas found)
  refine numbered_of_handle (mirrors.papers handle (numbered_handle found)) ?_
  rw [only]
  rfl

theorem set (mirrors : Mirrors number s t) (found : s.canvases[number]? = some c)
    (change : Canvas → Canvas) (alike : change c.alone = (change c).alone) :
    Mirrors number { s with canvases := s.canvases.set number (change c) }
      { t with canvases := t.canvases.set 0 (change c.alone) } := by
  obtain ⟨d, at_number, only⟩ := mirrors.canvas
  cases at_number.symm.trans found
  obtain ⟨bound, _⟩ := List.getElem?_eq_some_iff.mp found
  refine ⟨⟨change c, List.getElem?_set_self bound, ?_⟩, mirrors.source, mirrors.papers,
    mirrors.elements, mirrors.unknown, mirrors.boxes⟩
  rw [only, alike]
  rfl

theorem push (mirrors : Mirrors number s t) (given : List Statement) :
    Mirrors number (s.pushAll number given) (t.pushAll 0 given) := by
  obtain ⟨c, found, only⟩ := mirrors.canvas
  have first : t.canvases[0]? = some c.alone := by
    rw [only]
    rfl
  rw [pushAll_set found, pushAll_set first]
  exact mirrors.set found (fun c => c.pushAll given) rfl

theorem keepElement (mirrors : Mirrors number s t) (handle : String) (e : Element) :
    Mirrors number (s.keepElement handle e) (t.keepElement handle e.alone) := by
  refine ⟨mirrors.canvas, mirrors.source, mirrors.papers, fun name d found placed => ?_,
    fun name missing => ?_, mirrors.boxes⟩
  · rw [element?, Session.keepElement, Entries.lookup_insert] at found ⊢
    split at found
    · rename_i same
      cases found
      rw [if_pos same]
    · rename_i apart
      rw [if_neg apart]
      exact mirrors.elements name d found placed
  · rw [element?, Session.keepElement, Entries.lookup_insert] at missing ⊢
    split at missing
    · contradiction
    · rename_i apart
      rw [if_neg apart]
      exact mirrors.unknown name missing

theorem keepBox (mirrors : Mirrors number s t) (handle : String) (b : Box) :
    Mirrors number (s.keepBox handle b) (t.keepBox handle b.alone) := by
  refine ⟨mirrors.canvas, mirrors.source, mirrors.papers, mirrors.elements, mirrors.unknown,
    fun name d found placed => ?_⟩
  rw [box?, Session.keepBox, Entries.lookup_insert] at found ⊢
  split at found
  · rename_i same
    cases found
    rw [if_pos same]
  · rename_i apart
    rw [if_neg apart]
    exact mirrors.boxes name d found placed

theorem make (mirrors : Mirrors number s t) (found : s.canvases[number]? = some c)
    (handle : String) (kind : Kind) (a : Attributes)
    (creation : String → List Statement) :
    Mirrors number (s.withElement handle number c kind a creation)
      (t.withElement handle 0 c.alone kind a creation) := by
  obtain ⟨source, alone⟩ := mirrors.source
  have first : t.sources[0]? = some none := by
    rw [alone]
    rfl
  let e := c.made kind a.id
  have grown : Mirrors number (s.grown number c a.id (creation e.name ++ e.apply a))
      (t.grown 0 c.alone a.id (creation e.name ++ e.apply a)) := by
    rw [Session.grown, Session.grown, source, first]
    exact mirrors.set found (fun c => c.extended a.id _) rfl
  rw [withElement, withElement, lentAt_own source, lentAt_own first]
  exact grown.keepElement handle e

theorem box (mirrors : Mirrors number s t) {e : Element} (placed : e.canvas = number)
    (element handle name : String) :
    Mirrors number (s.withBox element handle e name) (t.withBox element handle e.alone name) := by
  subst placed
  let b : Box := ⟨e.canvas, e.name, name⟩
  have pushed := mirrors.push [b.declare]
  exact (pushed.keepElement element { e with box := some b }).keepBox handle b

theorem members (mirrors : Mirrors number s t) {handles : List String}
    (own : ∀ m ∈ handles.filterMap s.element?, m.canvas = number) :
    handles.filterMap t.element? = (handles.filterMap s.element?).map Element.alone := by
  induction handles with
  | nil => rfl
  | cons handle rest ih =>
    cases found : s.element? handle with
    | none =>
      rw [List.filterMap_cons_none found] at own ⊢
      rw [List.filterMap_cons_none (mirrors.unknown handle found), ih own]
    | some e =>
      rw [List.filterMap_cons_some found] at own ⊢
      have placed := own e List.mem_cons_self
      rw [List.filterMap_cons_some (mirrors.elements handle e found placed),
        ih fun m member => own m (List.mem_cons_of_mem _ member)]
      rfl

end Mirrors

section Steps
variable {number : Nat} {s t : Session} {op : Op} {c : Canvas}

def Matched (number : Nat) (s t : Session) (op : Op) : Prop :=
  ∃ faults answer after answer' after', (act op).run s = settled s faults answer after ∧
    (act op).run t = settled t faults answer' after' ∧ Mirrors number after after'

theorem matched_runs (mirrors : Mirrors number s t) (matched : Matched number s t op) :
    Mirrors number (s.run [op]).2 (t.run [op]).2 := by
  obtain ⟨faults, answer, after, answer', after', first, second, later⟩ := matched
  cases faults with
  | nil =>
    rw [run_one_ok first, run_one_ok second]
    exact later
  | cons fault rest =>
    rw [run_one_error first, run_one_error second]
    exact mirrors

theorem gives_alone {element : String} {given : Element → List Statement}
    (gives : op.gives? = some (element, given)) (e : Element) : given e.alone = given e := by
  cases op <;> cases gives <;> rfl

theorem foreign_nothing {members : List Element} (own : ∀ m ∈ members, m.canvas = c.number) :
    c.foreignFaults members = [] := by
  rw [Canvas.foreignFaults, List.find?_eq_none.mpr]
  simpa using own

open Change in
theorem draw_matched (mirrors : Mirrors number s t) {paper handle : String} {shape : Shape}
    {a : Attributes} (draws : op.draws? = some (paper, handle, shape, a))
    (found : s.numbered? paper = some (number, c)) : Matched number s t op := by
  have first := draw_run draws found
  have second := draw_run draws (mirrors.numbered found)
  exact ⟨_, _, _, _, _, first, second, mirrors.make (numbered_canvas found) handle shape.kind a _⟩

open Change in
theorem group_matched (sound : Sound s) (mirrors : Mirrors number s t) {paper : String}
    (found : s.numbered? paper = some (number, c)) (handle : String) (members : List String)
    (a : Attributes) (own : ∀ m ∈ members.filterMap s.element?, m.canvas = number) :
    Matched number s t (.group paper handle members a) := by
  have at_number := numbered_canvas found
  have placed : c.number = number := sound.scripts.numbers number c at_number
  have same := mirrors.members own
  have first := group_run found handle members a
  have second := group_run (mirrors.numbered found) handle members a
  have names : (members.filterMap t.element?).map Element.name =
      (members.filterMap s.element?).map Element.name := by
    rw [same, List.map_map]
    rfl
  have no_fault : c.foreignFaults (members.filterMap s.element?) = [] :=
    foreign_nothing fun m member => (own m member).trans placed.symm
  have no_fault_alone : c.alone.foreignFaults (members.filterMap t.element?) = [] := by
    refine foreign_nothing fun m member => ?_
    rw [same] at member
    obtain ⟨e, _, rfl⟩ := List.mem_map.mp member
    rfl
  rw [no_fault] at first
  rw [no_fault_alone, names, same, List.isEmpty_map] at second
  exact ⟨_, _, _, _, _, first, second, mirrors.make at_number handle .set a _⟩

variable {element : String} {e : Element} {b : Box}

open Change in
theorem give_matched (mirrors : Mirrors number s t) {given : Element → List Statement}
    (gives : op.gives? = some (element, given)) (found : s.element? element = some e)
    (own : e.canvas = number) : Matched number s t op := by
  have first := give_run gives found
  have second := give_run gives (mirrors.elements element e found own)
  rw [own] at first
  rw [gives_alone gives] at second
  exact ⟨[], _, _, _, _, first, second, mirrors.push (given e)⟩

open Change in
theorem node_matched (mirrors : Mirrors number s t) (found : s.element? element = some e)
    (own : e.canvas = number) : Matched number s t (.node element) := by
  have first := node_run found
  have second := node_run (mirrors.elements element e found own)
  rw [own] at first
  exact ⟨[], _, _, _, _, first, second, mirrors.push [e.node]⟩

open Change in
theorem bboxNamed_matched (mirrors : Mirrors number s t) (found : s.element? element = some e)
    (own : e.canvas = number) (handle name : String) :
    Matched number s t (.bboxNamed element handle name) := by
  have first := bboxNamed_run found handle name
  have second := bboxNamed_run (mirrors.elements element e found own) handle name
  exact ⟨_, _, _, _, _, first, second, mirrors.box own element handle name⟩

open Change in
theorem bbox_first_matched (mirrors : Mirrors number s t) {handle : String}
    (asks : op = .bbox element handle ∨ op = .reloadBbox element handle)
    (found : s.element? element = some e) (own : e.canvas = number) (none_before : e.box = none) :
    Matched number s t op := by
  have none_alone : e.alone.box = none := by
    rw [Element.alone, none_before]
    rfl
  have first := bbox_first_run asks found none_before
  have second := bbox_first_run asks (mirrors.elements element e found own) none_alone
  exact ⟨[], _, _, _, _, first, second, mirrors.box own element handle (e.name ++ "_bbox")⟩

theorem box_alone (before : e.box = some b) : e.alone.box = some b.alone := by
  rw [Element.alone, before]
  rfl

open Change in
theorem bbox_cached_matched (mirrors : Mirrors number s t) (found : s.element? element = some e)
    (own : e.canvas = number) (before : e.box = some b) (handle : String) :
    Matched number s t (.bbox element handle) := by
  have first := bbox_cached_run found before handle
  have second := bbox_cached_run (mirrors.elements element e found own) (box_alone before) handle
  exact ⟨[], _, _, _, _, first, second, mirrors.keepBox handle b⟩

open Change in
theorem reload_matched (mirrors : Mirrors number s t) (found : s.element? element = some e)
    (own : e.canvas = number) (before : e.box = some b) (handle : String) :
    Matched number s t (.reloadBbox element handle) := by
  have first := reload_run found before handle
  have second := reload_run (mirrors.elements element e found own) (box_alone before) handle
  rw [own] at first
  exact ⟨[], _, _, _, _, first, second, (mirrors.push [b.update]).keepBox handle b⟩

open Change in
theorem onBox_matched (mirrors : Mirrors number s t) {handle : String}
    (found : s.box? handle = some b) (own : b.canvas = number) (statement : Box → Statement)
    (answer : Box → Answer) (runs : act op = onBox handle statement answer)
    (alike : statement b.alone = statement b) : Matched number s t op := by
  have first := onBox_run found statement answer
  have second := onBox_run (mirrors.boxes handle b found own) statement answer
  rw [← runs, own] at first
  rw [← runs, alike] at second
  exact ⟨[], _, _, _, _, first, second, mirrors.push [statement b]⟩

theorem own_matched (sound : Sound s) (mirrors : Mirrors number s t) (owns : s.Owns number op) :
    Matched number s t op := by
  obtain ⟨subject, own⟩ := owns
  have on_paper {paper : String} (same : op.subject? s = (s.numbered? paper).map Prod.fst) :
      ∃ c, s.numbered? paper = some (number, c) := by
    rw [same] at subject
    obtain ⟨⟨n, c⟩, found, rfl⟩ := Option.map_eq_some_iff.mp subject
    exact ⟨c, found⟩
  have on_element {element : String}
      (same : op.subject? s = (s.element? element).map Element.canvas) :
      ∃ e, s.element? element = some e ∧ e.canvas = number := by
    rw [same] at subject
    exact Option.map_eq_some_iff.mp subject
  have on_box {handle : String} (same : op.subject? s = (s.box? handle).map Box.canvas) :
      ∃ b, s.box? handle = some b ∧ b.canvas = number := by
    rw [same] at subject
    exact Option.map_eq_some_iff.mp subject
  have gives {element : String} {given : Element → List Statement}
      (gives : op.gives? = some (element, given))
      (same : op.subject? s = (s.element? element).map Element.canvas) :
      Matched number s t op := by
    obtain ⟨e, found, placed⟩ := on_element same
    exact give_matched mirrors gives found placed
  cases op with
  | canvas => contradiction
  | generator => contradiction
  | canvasFrom => contradiction
  | push paper text =>
    obtain ⟨c, found⟩ := on_paper rfl
    exact ⟨[], _, _, _, _, Change.push_run found text,
      Change.push_run (mirrors.numbered found) text, mirrors.push [.raw text]⟩
  | draw paper handle shape a =>
    obtain ⟨c, found⟩ := on_paper rfl
    exact draw_matched mirrors rfl found
  | drawPath paper handle initial steps a =>
    obtain ⟨c, found⟩ := on_paper rfl
    exact draw_matched mirrors rfl found
  | group paper handle members a =>
    obtain ⟨c, found⟩ := on_paper rfl
    exact group_matched sound mirrors found handle members a own
  | node element =>
    obtain ⟨e, found, placed⟩ := on_element rfl
    exact node_matched mirrors found placed
  | bbox element handle =>
    obtain ⟨e, found, placed⟩ := on_element rfl
    cases before : e.box with
    | none => exact bbox_first_matched mirrors (.inl rfl) found placed before
    | some b => exact bbox_cached_matched mirrors found placed before handle
  | bboxNamed element handle name =>
    obtain ⟨e, found, placed⟩ := on_element rfl
    exact bboxNamed_matched mirrors found placed handle name
  | reloadBbox element handle =>
    obtain ⟨e, found, placed⟩ := on_element rfl
    cases before : e.box with
    | none => exact bbox_first_matched mirrors (.inr rfl) found placed before
    | some b => exact reload_matched mirrors found placed before handle
  | update handle =>
    obtain ⟨b, found, placed⟩ := on_box rfl
    exact onBox_matched mirrors found placed _ _ rfl rfl
  | field handle f =>
    obtain ⟨b, found, placed⟩ := on_box rfl
    exact onBox_matched mirrors found placed _ _ rfl rfl
  | _ => exact gives rfl rfl

theorem effect_members {after : Session} {answer : Answer} (sound : Sound s)
    (effect : Effect s op answer after) (subject : op.subject? s = some number) :
    ∀ m ∈ op.members s, m.canvas = number := by
  cases effect with
  | @grouped paper handle members a k c found own clean =>
    intro m member
    rw [Op.subject?, found] at subject
    cases subject
    rw [own m member, sound.scripts.numbers k c (numbered_canvas found)]
  | drew draws found clean =>
    cases op <;> simp [Op.draws?, Op.members] at draws ⊢
  | gave gives found =>
    cases op <;> simp [Op.gives?, Op.members] at gives ⊢
  | boxFirst asks found none_before =>
    rcases asks with rfl | rfl <;> simp [Op.members]
  | missed misses =>
    rw [misses_subject misses] at subject
    contradiction
  | _ => simp [Op.members]

theorem other_mirrors (sound : Sound s) (mirrors : Mirrors number s t)
    (other : ¬ s.Owns number op) : Mirrors number (s.run [op]).2 t := by
  rcases step_cases s op with ⟨fault, failed, left⟩ | ⟨answer, _, effect⟩
  · rw [left]
    exact mirrors
  · have apart : op.subject? s ≠ some number := fun subject =>
      other ⟨subject, effect_members sound effect subject⟩
    obtain ⟨c, found, _⟩ := mirrors.canvas
    obtain ⟨inside, _⟩ := List.getElem?_eq_some_iff.mp found
    obtain ⟨given, later, silent⟩ := effect_grows effect found
    have undrawn : op.draws s number = 0 := if_neg fun both => apart both.1
    refine mirrors.other ?_ (effect_spares sound effect inside apart)
    rw [later, found, silent apart, undrawn, List.append_nil]
    rfl

theorem run_mirrors (sound : Sound s) (mirrors : Mirrors number s t) (ops : List Op) :
    Mirrors number (s.run ops).2 (t.run (s.own number ops)).2 := by
  induction ops generalizing s t with
  | nil => exact mirrors
  | cons op rest ih =>
    have later := run_sound sound [op]
    rw [run_cons, own]
    by_cases owns : s.Owns number op
    · rw [if_pos owns, run_cons t]
      exact ih later (matched_runs mirrors (own_matched sound mirrors owns))
    · rw [if_neg owns]
      exact ih later (other_mirrors sound mirrors owns)

theorem opened_mirrors (sound : Sound s) (named : Named s) (handle : String) (target : Target)
    (name : Option String) (suffix : Nat → String) :
    Mirrors s.canvases.length (s.withCanvas handle target name suffix none)
      (empty.withCanvas handle target name suffix none) := by
  let c := s.opened target name suffix none
  have outside {names : List String} (declares : Declares s.canvases s.canvases.length names) :
      False := by
    obtain ⟨d, found, _⟩ := declares
    obtain ⟨bound, _⟩ := List.getElem?_eq_some_iff.mp found
    exact Nat.lt_irrefl _ bound
  refine ⟨⟨c, List.getElem?_concat_length, rfl⟩, ⟨?_, rfl⟩, fun other found => ?_,
    fun other e found own => ?_, fun other _ => rfl, fun other b found own => ?_⟩
  · rw [← sound.scripts.paired]
    exact List.getElem?_concat_length
  · change Entries.get? other (Entries.insert handle c.number s.canvasHandles) = _ at found
    change Entries.get? other (Entries.insert handle 0 []) = _
    rw [Entries.lookup_insert] at found ⊢
    split at found
    · rename_i same
      rw [if_pos same]
    · exact absurd (named other _ found) (Nat.lt_irrefl _)
  · have held := sound.elements other e found
    exact (outside (own ▸ held.own)).elim
  · exact (outside (own ▸ sound.boxes other b found)).elim

open Change in
theorem group_outcome (sound : Sound s) {paper : String}
    (found : s.numbered? paper = some (number, c)) (element : String) (members : List String)
    (a : Attributes) :
    ((∃ e after, (act (.group paper element members a)).run s = .ok (.element e) after) ↔
      (∀ m ∈ members.filterMap s.element?, m.canvas = number) ∧
        ∀ id, a.id = some id → isIdentifier id = true) ∧
    ∀ front m back, members.filterMap s.element? = front ++ m :: back →
      (∀ k ∈ front, k.canvas = number) → m.canvas ≠ number →
        (act (.group paper element members a)).run s = .error (.foreignElement m.name) s := by
  have placed : c.number = number := sound.scripts.numbers number c (numbered_canvas found)
  have run := group_run found element members a
  refine ⟨⟨?_, ?_⟩, ?_⟩
  · rintro ⟨e, after, ok⟩
    rw [run] at ok
    have clean : c.foreignFaults (members.filterMap s.element?) ++ idFaults a.id = [] := by
      by_contra faulty
      obtain ⟨fault, rest, faults⟩ := List.exists_cons_of_ne_nil faulty
      rw [faults] at ok
      contradiction
    obtain ⟨no_foreign, named⟩ := List.append_eq_nil_iff.mp clean
    refine ⟨fun m member => ?_, (idFaults_empty_iff a.id).mp named⟩
    rw [foreign_none no_foreign m member, placed]
  · rintro ⟨own, named⟩
    have no_fault : c.foreignFaults (members.filterMap s.element?) = [] :=
      foreign_nothing fun m member => (own m member).trans placed.symm
    rw [no_fault, (idFaults_empty_iff a.id).mpr named] at run
    exact ⟨_, _, run⟩
  · intro front m back split own foreign
    have first : (members.filterMap s.element?).find? (fun m => m.canvas != c.number) = some m := by
      rw [split, placed, List.find?_append, List.find?_eq_none.mpr]
      · simp [foreign]
      · simpa using own
    have fault : c.foreignFaults (members.filterMap s.element?) = [.foreignElement m.name] := by
      rw [Canvas.foreignFaults, first]
    rw [fault] at run
    exact run

end Steps

theorem empty_named : Named empty := by
  intro handle number found
  contradiction

theorem alone_run (before : List Op) {handle : String} {target : Target} {name : Option String}
    {suffix : Nat → String} {c : Canvas} {start : Session}
    (created : (act (.canvas handle target name suffix)).run (empty.run before).2 =
      .ok (.canvas c) start) (ops : List Op) :
    Mirrors c.number (start.run ops).2
      (empty.run (.canvas handle target name suffix :: start.own c.number ops)).2 := by
  have sound : Sound (empty.run before).2 := run_sound empty_sound before
  have named : Named (empty.run before).2 := run_named empty_named before
  have effect := act_ok_iff.mp created
  have later := effect_sound sound effect
  have mirrors := opened_mirrors sound named handle target name suffix
  cases effect with
  | canvas clean =>
    have alone : (act (.canvas handle target name suffix)).run empty =
        .ok (.canvas (empty.opened target name suffix none))
          (empty.withCanvas handle target name suffix none) := by
      have run := Change.create_run empty handle target name suffix none
      rw [clean] at run
      exact run
    rw [opened_number, run_cons, run_one_ok alone]
    exact run_mirrors later mirrors ops

theorem run_one_appends {s : Session} {number : Nat} {c : Canvas} (op : Op)
    (found : s.canvases[number]? = some c) :
    ∃ draws given, (s.run [op]).2.canvases[number]? =
        some { c with drawn := c.drawn + draws, statements := c.statements ++ given } ∧
      (op.subject? s ≠ some number → draws = 0 ∧ given = []) := by
  rcases step_cases s op with ⟨fault, _, left⟩ | ⟨answer, _, effect⟩
  · refine ⟨0, [], ?_, fun _ => ⟨rfl, rfl⟩⟩
    rw [left, found, List.append_nil]
    rfl
  · obtain ⟨given, later, silent⟩ := effect_grows effect found
    refine ⟨op.draws s number, given, later, fun apart => ⟨?_, silent apart⟩⟩
    exact if_neg fun both => apart both.1

/-- No canvas bears on another. Take a canvas with suffixes of its own, made at any time, and any
    operations afterwards on any canvases, elements and boxes. It comes out as it does when it is
    the only canvas and only its own operations are run. One operation only adds statements at the
    end of the canvas that its handle is of, which is also the canvas of what it gives back, and
    draws suffixes for this canvas alone. A set takes members of its own canvas and no others; the
    first of another canvas is reported, and nothing changes. -/
theorem canvases_apart (before : List Op) {handle : String} {target : Target}
    {name : Option String} {suffix : Nat → String} {c : Canvas} {start : Session}
    (created : (act (.canvas handle target name suffix)).run (empty.run before).2 =
      .ok (.canvas c) start) (ops : List Op) :
    let s := (start.run ops).2
    (∃ d, s.canvases[c.number]? = some d ∧
      (empty.run (.canvas handle target name suffix :: start.own c.number ops)).2.canvases =
        [d.alone] ∧ d.alone.script = d.script) ∧
    (∀ op number d, s.canvases[number]? = some d → ∃ draws given,
      (s.run [op]).2.canvases[number]? =
        some { d with drawn := d.drawn + draws, statements := d.statements ++ given } ∧
      (op.subject? s ≠ some number → draws = 0 ∧ given = [])) ∧
    (∀ op answer after number, (act op).run s = .ok answer after →
      answer.canvas? = some number → op.subject? s = some number) ∧
    ∀ paper element members a number d, s.numbered? paper = some (number, d) →
      ((∃ e after, (act (.group paper element members a)).run s = .ok (.element e) after) ↔
        (∀ m ∈ members.filterMap s.element?, m.canvas = number) ∧
          ∀ id, a.id = some id → isIdentifier id = true) ∧
      ∀ front m back, members.filterMap s.element? = front ++ m :: back →
        (∀ k ∈ front, k.canvas = number) → m.canvas ≠ number →
          (act (.group paper element members a)).run s = .error (.foreignElement m.name) s := by
  intro s
  have sound : Sound s :=
    run_sound (effect_sound (run_sound empty_sound before) (act_ok_iff.mp created)) ops
  refine ⟨?_, fun op number d found => run_one_appends op found, ?_,
    fun paper element members a number d found => group_outcome sound found element members a⟩
  · obtain ⟨d, found, only⟩ := (alone_run before created ops).canvas
    exact ⟨d, found, only, rfl⟩
  · intro op answer after number run given
    exact effect_answer sound (act_ok_iff.mp run) given

theorem namesakes_apart :
    let page : Target := .container "holder" 9 9
    let numbers := Uid.Strategy.sequential.suffix ⟨fun _ => 0, fun _ => 0, fun _ => 0⟩
    let before : List Op := [.canvas "a" page (some "p") numbers,
      .draw "a" "x" (.circle 0 0 1) .empty]
    let ops : List Op := [.draw "b" "y" (.circle 0 0 1) .empty, .bbox "x" "old",
      .group "b" "s" ["y", "x"] .empty, .bbox "y" "new", .draw "a" "x" (.text 1 1 "x") .empty,
      .group "b" "s" ["y", "unknown"] .empty, .update "old", .field "new" .x]
    ∃ c start, (act (.canvas "b" page (some "p") numbers)).run (empty.run before).2 =
        .ok (.canvas c) start ∧
      (start.run ops).1.map Except.isOk =
        [true, true, false, true, true, true, true, true] ∧
      ∃ d, (start.run ops).2.canvases[c.number]? = some d ∧
        (empty.run (.canvas "b" page (some "p") numbers :: start.own c.number ops)).2.canvases =
          [d.alone] ∧
        d.statements.map Statement.text = ["var rafa_circle_1 = p.circle(0, 0, 1);",
          "var rafa_circle_1_bbox = rafa_circle_1.getBBox();", "var rafa_set_2 = p.set();",
          "rafa_set_2.push(rafa_circle_1);",
          "var rafa_circle_1_bbox_x = rafa_circle_1_bbox.x;"] := by
  intro page numbers before ops
  obtain ⟨c, start, created⟩ : ∃ c start,
      (act (.canvas "b" page (some "p") numbers)).run (empty.run before).2 =
        .ok (.canvas c) start := ⟨_, _, rfl⟩
  obtain ⟨⟨d, found, only, _⟩, _⟩ := canvases_apart before created ops
  refine ⟨c, start, created, ?_, d, found, only, ?_⟩
  · cases created
    decide +kernel
  · have texts : ((start.run ops).2.canvases[c.number]?).map
        (fun d => d.statements.map Statement.text) = some (d.statements.map Statement.text) := by
      rw [found]
      rfl
    refine Option.some.inj (texts.symm.trans ?_)
    cases created
    decide +kernel

end Session

end SceneScript
