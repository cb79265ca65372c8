import SceneScript.Proofs.Declarations

/- The canvas that an operation is on. An operation adds statements at the end of this canvas and
   may draw a suffix for it; every other canvas stays as it is, and so does every handle to another
   canvas or to what was made on one. -/
namespace SceneScript.Session

/-- The canvas of the handle that an operation is given. -/
def Op.subject? (s : Session) : Op → Option Nat
  | .canvas _ _ _ _ | .generator _ | .canvasFrom _ _ _ _ => none
  | .push paper _ | .draw paper _ _ _ | .drawPath paper _ _ _ _ | .group paper _ _ _ =>
    (s.numbered? paper).map Prod.fst
  | .attr element _ _ | .apply element _ | .transform element _ | .node element
  | .animate element _ _ _ | .animateWith element _ _ | .every element _ _ | .bbox element _
  | .bboxNamed element _ _ | .reloadBbox element _ => (s.element? element).map Element.canvas
  | .update handle | .field handle _ => (s.box? handle).map Box.canvas

def Op.attributes? : Op → Option Attributes
  | .draw _ _ _ a | .drawPath _ _ _ _ a | .group _ _ _ a => some a
  | _ => none

def Op.makesUnnamed (op : Op) : Bool :=
  op.attributes?.any fun a => a.id.isNone

def Op.draws (op : Op) (s : Session) (number : Nat) : Nat :=
  if op.subject? s = some number ∧ op.makesUnnamed then 1 else 0

section Lookups
variable {s : Session} {op : Op}

theorem misses_subject (misses : op.Misses s) : op.subject? s = none := by
  cases op with
  | canvas => exact misses.elim
  | generator => exact misses.elim
  | canvasFrom => rfl
  | _ => exact Option.map_eq_none_iff.mpr misses

theorem gives_subject {element : String} {given : Element → List Statement} {e : Element}
    (gives : op.gives? = some (element, given)) (found : s.element? element = some e) :
    op.subject? s = some e.canvas ∧ op.makesUnnamed = false := by
  have subject : op.subject? s = (s.element? element).map Element.canvas := by
    cases op <;> cases gives <;> rfl
  refine ⟨by rw [subject, found]; rfl, ?_⟩
  cases op <;> cases gives <;> rfl

theorem draws_subject {paper handle : String} {shape : Shape} {a : Attributes} {number : Nat}
    {c : Canvas} (draws : op.draws? = some (paper, handle, shape, a))
    (found : s.numbered? paper = some (number, c)) :
    op.subject? s = some number ∧ op.makesUnnamed = a.id.isNone := by
  have subject : op.subject? s = (s.numbered? paper).map Prod.fst := by
    cases op <;> cases draws <;> rfl
  refine ⟨by rw [subject, found]; rfl, ?_⟩
  cases op <;> cases draws <;> rfl

theorem numbered_handle {handle : String} {number : Nat} {c : Canvas}
    (found : s.numbered? handle = some (number, c)) :
    Entries.get? handle s.canvasHandles = some number := by
  simp only [numbered?, Option.bind_eq_bind, Option.bind_eq_some_iff] at found
  obtain ⟨n, at_handle, d, _, same⟩ := found
  obtain ⟨rfl, rfl⟩ := Prod.mk.inj (Option.some.inj same)
  exact at_handle

theorem numbered_of_handle {handle : String} {number : Nat} {c : Canvas}
    (at_handle : Entries.get? handle s.canvasHandles = some number)
    (found : s.canvases[number]? = some c) : s.numbered? handle = some (number, c) := by
  simp [numbered?, at_handle, found]

end Lookups

section Appending
variable {s after : Session} {op : Op} {answer : Answer} {number : Nat} {c : Canvas}

def Grows (op : Op) (s after : Session) (number : Nat) (c : Canvas) : Prop :=
  ∃ given, after.canvases[number]? =
      some { c with drawn := c.drawn + op.draws s number, statements := c.statements ++ given } ∧
    (op.subject? s ≠ some number → given = [])

theorem grows_unchanged (found : s.canvases[number]? = some c)
    (same : after.canvases[number]? = s.canvases[number]?) (silent : op.draws s number = 0) :
    Grows op s after number c := by
  refine ⟨[], ?_, fun _ => rfl⟩
  rw [same, found, silent, List.append_nil]
  rfl

theorem draws_none (subject : op.subject? s = none) : op.draws s number = 0 := by
  rw [Op.draws, subject, if_neg]
  rintro ⟨same, _⟩
  contradiction

theorem draws_silent (named : op.makesUnnamed = false) : op.draws s number = 0 := by
  rw [Op.draws, named, if_neg]
  rintro ⟨_, unnamed⟩
  contradiction

theorem grows_pushed {k : Nat} {given : List Statement} (found : s.canvases[number]? = some c)
    (same : after.canvases = (s.pushAll k given).canvases) (subject : op.subject? s = some k)
    (named : op.makesUnnamed = false) : Grows op s after number c := by
  by_cases own : k = number
  · subst k
    obtain ⟨bound, _⟩ := List.getElem?_eq_some_iff.mp found
    refine ⟨given, ?_, fun other => absurd subject other⟩
    rw [same, pushAll_set found, List.getElem?_set_self bound, draws_silent named]
    rfl
  · refine grows_unchanged found ?_ (draws_silent named)
    rw [same]
    exact List.getElem?_modify_ne _ _ own

theorem grows_set {k : Nat} {d : Canvas} {id : Option String} {given : List Statement}
    (found : s.canvases[number]? = some c) (at_k : s.canvases[k]? = some d)
    (same : after.canvases = s.canvases.set k (d.extended id given))
    (subject : op.subject? s = some k) (unnamed : op.makesUnnamed = id.isNone) :
    Grows op s after number c := by
  by_cases own : k = number
  · subst k
    cases at_k.symm.trans found
    obtain ⟨bound, _⟩ := List.getElem?_eq_some_iff.mp found
    refine ⟨given, ?_, fun other => absurd subject other⟩
    rw [same, List.getElem?_set_self bound, Op.draws, subject, unnamed]
    simp only [Canvas.extended, true_and]
  · refine grows_unchanged found ?_ ?_
    · rw [same, List.getElem?_set_ne own]
    · rw [Op.draws, subject, if_neg]
      rintro ⟨here, _⟩
      exact own (Option.some.inj here)

theorem effect_grows (effect : Effect s op answer after) (found : s.canvases[number]? = some c) :
    Grows op s after number c := by
  obtain ⟨inside, _⟩ := List.getElem?_eq_some_iff.mp found
  have opened {handle : String} {d : Canvas} {source : Option Nat} {draws : Nat}
      (nowhere : op.subject? s = none)
      (same : after = (s.spent source draws).keepCanvas handle source d) :
      Grows op s after number c := by
    obtain ⟨generators, spent⟩ := spent_generators s source draws
    refine grows_unchanged found ?_ (draws_none nowhere)
    rw [same, spent, keepCanvas, List.getElem?_append_left inside]
  have made {handle : String} {k : Nat} {d : Canvas} {kind : Kind} {a : Attributes}
      {creation : String → List Statement} (at_k : s.canvases[k]? = some d)
      (subject : op.subject? s = some k) (unnamed : op.makesUnnamed = a.id.isNone)
      (same : after = s.withElement handle k d kind a creation) : Grows op s after number c := by
    obtain ⟨generators, spent⟩ :=
      spent_generators s s.sources[k]?.join (if a.id.isNone then 1 else 0)
    exact grows_set found at_k (by rw [same]; rfl) subject unnamed
  cases effect with
  | missed misses => exact grows_unchanged found rfl (draws_none (misses_subject misses))
  | canvas clean => exact opened rfl rfl
  | generator texts => exact grows_unchanged found rfl (draws_none rfl)
  | canvasFrom known clean => exact opened rfl rfl
  | @pushed paper text k d at_paper =>
    exact grows_pushed found rfl (by rw [Op.subject?, at_paper]; rfl) rfl
  | drew draws at_paper clean =>
    obtain ⟨subject, unnamed⟩ := draws_subject draws at_paper
    exact made (numbered_canvas at_paper) subject unnamed rfl
  | grouped at_paper own clean =>
    exact made (numbered_canvas at_paper) (by rw [Op.subject?, at_paper]; rfl) rfl rfl
  | gave gives at_element =>
    obtain ⟨subject, named⟩ := gives_subject gives at_element
    exact grows_pushed found rfl subject named
  | node at_element =>
    exact grows_pushed found rfl (by rw [Op.subject?, at_element]; rfl) rfl
  | boxNamed at_element clean =>
    exact grows_pushed found rfl (by rw [Op.subject?, at_element]; rfl) rfl
  | boxFirst asks at_element none_before =>
    rcases asks with rfl | rfl
    · exact grows_pushed found rfl (by rw [Op.subject?, at_element]; rfl) rfl
    · exact grows_pushed found rfl (by rw [Op.subject?, at_element]; rfl) rfl
  | boxCached at_element before => exact grows_unchanged found rfl (draws_silent rfl)
  | boxReloaded at_element before =>
    exact grows_pushed found rfl (by rw [Op.subject?, at_element]; rfl) rfl
  | boxUpdated at_box => exact grows_pushed found rfl (by rw [Op.subject?, at_box]; rfl) rfl
  | boxField at_box => exact grows_pushed found rfl (by rw [Op.subject?, at_box]; rfl) rfl

end Appending

section Handles
variable {s after : Session} {op : Op} {answer : Answer} {number : Nat}

theorem lentAt_own (source : s.sources[number]? = some none) (c : Canvas) :
    s.lentAt number c = c := by
  rw [lentAt, source]
  rfl

/-- Whether no handle has come to a canvas, or to what is made on it, and none is forgotten. -/
structure Spares (number : Nat) (s after : Session) : Prop where
  source : after.sources[number]? = s.sources[number]?
  papers : ∀ handle, Entries.get? handle after.canvasHandles = some number →
    Entries.get? handle s.canvasHandles = some number
  elements : ∀ handle e, after.element? handle = some e → e.canvas = number →
    s.element? handle = some e
  unknown : ∀ handle, after.element? handle = none → s.element? handle = none
  boxes : ∀ handle b, after.box? handle = some b → b.canvas = number → s.box? handle = some b

namespace Spares

theorem same (sources : after.sources = s.sources) (papers : after.canvasHandles = s.canvasHandles)
    (elements : after.elements = s.elements) (boxes : after.boxes = s.boxes) :
    Spares number s after := by
  refine ⟨by rw [sources], fun handle => ?_, fun handle e found _ => ?_, fun handle => ?_,
    fun handle b found _ => ?_⟩
  · rw [papers]
    exact id
  · rwa [element?, elements] at found
  · rw [element?, element?, elements]
    exact id
  · rwa [box?, boxes] at found

theorem keepElement (spares : Spares number s after) (handle : String) {e : Element}
    (other : e.canvas ≠ number) : Spares number s (after.keepElement handle e) := by
  refine ⟨spares.source, spares.papers, fun name d found own => ?_, fun name missing => ?_,
    spares.boxes⟩
  · rw [element?, Session.keepElement, Entries.lookup_insert] at found
    split at found
    · cases found
      exact absurd own other
    · exact spares.elements name d found own
  · rw [element?, Session.keepElement, Entries.lookup_insert] at missing
    split at missing
    · contradiction
    · exact spares.unknown name missing

theorem keepBox (spares : Spares number s after) (handle : String) {b : Box}
    (other : b.canvas ≠ number) : Spares number s (after.keepBox handle b) := by
  refine ⟨spares.source, spares.papers, spares.elements, spares.unknown, fun name d found own => ?_⟩
  rw [box?, Session.keepBox, Entries.lookup_insert] at found
  split at found
  · cases found
    exact absurd own other
  · exact spares.boxes name d found own

theorem keepCanvas (spares : Spares number s after) (handle : String) {source : Option Nat}
    {c : Canvas} (inside : number < after.sources.length) (other : c.number ≠ number) :
    Spares number s (after.keepCanvas handle source c) := by
  refine ⟨?_, fun name found => ?_, spares.elements, spares.unknown, spares.boxes⟩
  · rw [Session.keepCanvas, List.getElem?_append_left inside]
    exact spares.source
  · rw [Session.keepCanvas, Entries.lookup_insert] at found
    split at found
    · exact absurd (Option.some.inj found) other
    · exact spares.papers name found

end Spares

theorem made_canvas (sound : Sound s) {c : Canvas} (found : s.canvases[number]? = some c)
    (kind : Kind) (id : Option String) : ((s.lentAt number c).made kind id).canvas = number := by
  have own : ((s.lentAt number c).made kind id).canvas = c.number := lentAt_number s number c
  rw [own, sound.scripts.numbers number c found]

theorem opened_number (s : Session) (target : Target) (name : Option String)
    (suffix : Nat → String) (source : Option Nat) :
    (s.opened target name suffix source).number = s.canvases.length := by
  obtain ⟨_, lent⟩ := lent_suffix s source (Canvas.blank s.canvases.length target suffix)
  rw [opened, lent]
  rfl

theorem opened_statements (s : Session) (target : Target) (name : Option String)
    (suffix : Nat → String) (source : Option Nat) :
    (s.opened target name suffix source).statements = [] := by
  obtain ⟨_, lent⟩ := lent_suffix s source (Canvas.blank s.canvases.length target suffix)
  rw [opened, lent]
  rfl

theorem effect_spares (sound : Sound s) (effect : Effect s op answer after)
    (inside : number < s.canvases.length) (other : op.subject? s ≠ some number) :
    Spares number s after := by
  have opened (handle : String) (target : Target) (name : Option String) (suffix : Nat → String)
      (source : Option Nat) :
      Spares number s (s.withCanvas handle target name suffix source) := by
    obtain ⟨generators, spent⟩ :=
      spent_generators s source (s.opened target name suffix source).drawn
    rw [withCanvas, spent]
    refine Spares.keepCanvas ?_ handle ?_ ?_
    · exact Spares.same rfl rfl rfl rfl
    · rw [sound.scripts.paired]
      exact inside
    · rw [opened_number]
      exact Nat.ne_of_gt inside
  have made {k : Nat} {d : Canvas} (at_k : s.canvases[k]? = some d)
      (subject : op.subject? s = some k) (handle : String) (kind : Kind) (a : Attributes)
      (creation : String → List Statement) :
      Spares number s (s.withElement handle k d kind a creation) := by
    obtain ⟨generators, spent⟩ :=
      spent_generators s s.sources[k]?.join (if a.id.isNone then 1 else 0)
    rw [withElement, grown, spent]
    refine Spares.keepElement ?_ handle ?_
    · exact Spares.same rfl rfl rfl rfl
    · rw [made_canvas sound at_k]
      exact fun same => other (same ▸ subject)
  have boxed {e : Element} (subject : op.subject? s = some e.canvas)
      (element handle name : String) :
      Spares number s (s.withBox element handle e name) := by
    have apart : e.canvas ≠ number := fun same => other (same ▸ subject)
    let b : Box := ⟨e.canvas, e.name, name⟩
    have held : { e with box := some b }.canvas ≠ number := apart
    refine Spares.keepBox (b := b) (Spares.keepElement ?_ element held) handle apart
    exact Spares.same rfl rfl rfl rfl
  have on_element {element : String} {e : Element} (found : s.element? element = some e)
      (own : op.subject? s = (s.element? element).map Element.canvas) :
      op.subject? s = some e.canvas := by
    rw [own, found]
    rfl
  cases effect with
  | canvas clean => exact opened _ _ _ _ _
  | canvasFrom known clean => exact opened _ _ _ _ _
  | drew draws at_paper clean =>
    exact made (numbered_canvas at_paper) (draws_subject draws at_paper).1 _ _ _ _
  | grouped at_paper own clean =>
    exact made (numbered_canvas at_paper) (by rw [Op.subject?, at_paper]; rfl) _ _ _ _
  | boxNamed at_element clean => exact boxed (on_element at_element rfl) _ _ _
  | boxFirst asks at_element none_before =>
    rcases asks with rfl | rfl
    · exact boxed (on_element at_element rfl) _ _ _
    · exact boxed (on_element at_element rfl) _ _ _
  | @boxCached element handle e b at_element before =>
    obtain ⟨placed, _⟩ := (sound.elements element e at_element).box b before
    refine Spares.keepBox ?_ handle ?_
    · exact Spares.same rfl rfl rfl rfl
    · exact fun same => other (same ▸ placed ▸ on_element at_element rfl)
  | @boxReloaded element handle e b at_element before =>
    obtain ⟨placed, _⟩ := (sound.elements element e at_element).box b before
    refine Spares.keepBox ?_ handle ?_
    · exact Spares.same rfl rfl rfl rfl
    · exact fun same => other (same ▸ placed ▸ on_element at_element rfl)
  | _ => exact Spares.same rfl rfl rfl rfl

def Answer.canvas? : Answer → Option Nat
  | .element e => some e.canvas
  | .box b => some b.canvas
  | _ => none

theorem effect_answer (sound : Sound s) (effect : Effect s op answer after)
    (given : answer.canvas? = some number) : op.subject? s = some number := by
  cases effect with
  | drew draws at_paper clean =>
    obtain ⟨subject, _⟩ := draws_subject draws at_paper
    rw [subject, ← given, Answer.canvas?, made_canvas sound (numbered_canvas at_paper)]
  | grouped at_paper own clean =>
    rw [Op.subject?, at_paper, ← given, Answer.canvas?,
      made_canvas sound (numbered_canvas at_paper)]
    rfl
  | boxNamed at_element clean =>
    rw [Op.subject?, at_element]
    exact given
  | boxFirst asks at_element none_before =>
    rcases asks with rfl | rfl
    · rw [Op.subject?, at_element]
      exact given
    · rw [Op.subject?, at_element]
      exact given
  | @boxCached element handle e b at_element before =>
    rw [Op.subject?, at_element, ← given, Answer.canvas?,
      ((sound.elements element e at_element).box b before).1]
    rfl
  | @boxReloaded element handle e b at_element before =>
    rw [Op.subject?, at_element, ← given, Answer.canvas?,
      ((sound.elements element e at_element).box b before).1]
    rfl
  | boxUpdated at_box =>
    rw [Op.subject?, at_box]
    exact given
  | _ => contradiction

end Handles

section Running
variable {s : Session} {op : Op} {answer : Answer} {after : Session}

theorem run_one_ok (outcome : (act op).run s = .ok answer after) : (s.run [op]).2 = after := by
  simp only [run, outcome]

theorem run_one_error {fault : Error} {left : Session}
    (outcome : (act op).run s = .error fault left) : (s.run [op]).2 = s := by
  obtain rfl := act_untouched op s fault left outcome
  simp only [run, outcome]

theorem step_cases (s : Session) (op : Op) :
    (∃ fault, (act op).run s = .error fault s ∧ (s.run [op]).2 = s) ∨
      ∃ answer, (act op).run s = .ok answer (s.run [op]).2 ∧
        Effect s op answer (s.run [op]).2 := by
  cases outcome : (act op).run s with
  | ok answer after =>
    refine Or.inr ⟨answer, ?_, ?_⟩
    · rw [run_one_ok outcome]
    · rw [run_one_ok outcome]
      exact act_ok_iff.mp outcome
  | error fault left =>
    refine Or.inl ⟨fault, ?_, run_one_error outcome⟩
    rw [act_untouched op s fault left outcome]

theorem run_cons (s : Session) (op : Op) (rest : List Op) :
    (s.run (op :: rest)).2 = ((s.run [op]).2.run rest).2 := by
  cases outcome : (act op).run s <;> simp only [run, outcome]

def collect {α : Type} (asked : Op → Answer → Option α) (s : Session) (ops : List Op) : List α :=
  (ops.zip (s.run ops).1).filterMap fun (op, answer) => answer.toOption.bind (asked op)

theorem collect_cons {α : Type} (asked : Op → Answer → Option α) (s : Session) (op : Op)
    (rest : List Op) :
    (s.run (op :: rest)).2 = (s.run rest).2 ∧
        s.collect asked (op :: rest) = s.collect asked rest ∨
      ∃ answer after, Effect s op answer after ∧ (s.run (op :: rest)).2 = (after.run rest).2 ∧
        s.collect asked (op :: rest) = (asked op answer).toList ++ after.collect asked rest := by
  cases outcome : (act op).run s with
  | error fault left =>
    obtain rfl := act_untouched op s fault left outcome
    refine Or.inl ⟨by simp only [run, outcome], ?_⟩
    simp only [collect, run, outcome, List.zip_cons_cons]
    exact List.filterMap_cons_none rfl
  | ok answer after =>
    refine Or.inr ⟨answer, after, act_ok_iff.mp outcome, by simp only [run, outcome], ?_⟩
    simp only [collect, run, outcome, List.zip_cons_cons]
    cases given : asked op answer with
    | none => exact List.filterMap_cons_none given
    | some a => exact List.filterMap_cons_some given

theorem run_sound (sound : Sound s) (ops : List Op) : Sound (s.run ops).2 :=
  run_keeps (fun _ _ _ _ effect sound => effect_sound sound effect) ops sound

theorem effect_opens (effect : Effect s op answer after) :
    after.canvasHandles = s.canvasHandles ∧ after.sources = s.sources ∧
        after.canvases.length = s.canvases.length ∨
      ∃ handle source c, after.canvasHandles =
          Entries.insert handle s.canvases.length s.canvasHandles ∧
        after.sources = s.sources ++ [source] ∧ after.canvases = s.canvases ++ [c] := by
  have opened (handle : String) (target : Target) (name : Option String) (suffix : Nat → String)
      (source : Option Nat) (same : after = s.withCanvas handle target name suffix source) :
      ∃ handle source c, after.canvasHandles =
          Entries.insert handle s.canvases.length s.canvasHandles ∧
        after.sources = s.sources ++ [source] ∧ after.canvases = s.canvases ++ [c] := by
    obtain ⟨generators, spent⟩ :=
      spent_generators s source (s.opened target name suffix source).drawn
    refine ⟨handle, source, s.opened target name suffix source, ?_, ?_, ?_⟩
    · rw [same, withCanvas, spent, keepCanvas, opened_number]
    · rw [same, withCanvas, spent, keepCanvas]
    · rw [same, withCanvas, spent, keepCanvas]
  have made {handle : String} {number : Nat} {c : Canvas} {kind : Kind} {a : Attributes}
      {creation : String → List Statement}
      (same : after = s.withElement handle number c kind a creation) :
      after.canvasHandles = s.canvasHandles ∧ after.sources = s.sources ∧
        after.canvases.length = s.canvases.length := by
    obtain ⟨generators, spent⟩ :=
      spent_generators s s.sources[number]?.join (if a.id.isNone then 1 else 0)
    rw [same, withElement, grown, spent]
    exact ⟨rfl, rfl, List.length_set⟩
  cases effect with
  | canvas clean => exact Or.inr (opened _ _ _ _ _ rfl)
  | canvasFrom known clean => exact Or.inr (opened _ _ _ _ _ rfl)
  | drew draws found clean => exact Or.inl (made rfl)
  | grouped found own clean => exact Or.inl (made rfl)
  | missed misses => exact Or.inl ⟨rfl, rfl, rfl⟩
  | generator texts => exact Or.inl ⟨rfl, rfl, rfl⟩
  | boxCached found before => exact Or.inl ⟨rfl, rfl, rfl⟩
  | _ => exact Or.inl ⟨rfl, rfl, List.length_modify _ _ _⟩

theorem effect_source (effect : Effect s op answer after) {number : Nat}
    (inside : number < s.sources.length) : after.sources[number]? = s.sources[number]? := by
  rcases effect_opens effect with ⟨_, same, _⟩ | ⟨_, source, _, _, added, _⟩
  · rw [same]
  · rw [added, List.getElem?_append_left inside]

def Named (s : Session) : Prop :=
  ∀ handle number, Entries.get? handle s.canvasHandles = some number → number < s.canvases.length

theorem effect_named (named : Named s) (effect : Effect s op answer after) : Named after := by
  intro other number found
  rcases effect_opens effect with ⟨same, _, length⟩ | ⟨handle, _, c, added, _, canvases⟩
  · rw [same] at found
    rw [length]
    exact named other number found
  · rw [added, Entries.lookup_insert] at found
    rw [canvases, List.length_append, List.length_singleton]
    split at found
    · cases found
      exact Nat.lt_succ_self _
    · exact Nat.lt_succ_of_lt (named other number found)

theorem run_named (named : Named s) (ops : List Op) : Named (s.run ops).2 :=
  run_keeps (fun _ _ _ _ effect named => effect_named named effect) ops named

end Running

end SceneScript.Session
