import SceneScript.Proofs.Lines

/- The boxes of an element over any calls. Which boxes were created is read off the calls: what they
   give back, and what they declare in the script. The element answers with the box created last,
   whatever else is called in between, and boxes given out before stay what they are. -/
namespace SceneScript.Session

def Op.makes? : Op → Option String
  | .draw _ handle _ _ | .drawPath _ handle _ _ _ | .group _ handle _ _ => some handle
  | _ => none

def Op.asks? : Op → Option String
  | .bbox element _ | .bboxNamed element _ _ | .reloadBbox element _ => some element
  | _ => none

def Op.boxHandle? : Op → Option String
  | .bbox _ handle | .bboxNamed _ handle _ | .reloadBbox _ handle => some handle
  | _ => none

section Script
variable {s after : Session} {number : Nat} {c : Canvas}

def statementsOn (s : Session) (number : Nat) : List Statement :=
  (s.canvases[number]?.map Canvas.statements).getD []

def added (s after : Session) (number : Nat) : List Statement :=
  (after.statementsOn number).drop (s.statementsOn number).length

/-- Whether a canvas has gained statements of these texts at its end, and no canvas has changed
    otherwise. -/
def Writes (s after : Session) (number : Nat) (lines : List String) : Prop :=
  ∃ c given, s.canvases[number]? = some c ∧
    after.canvases = s.canvases.set number (c.pushAll given) ∧ given.map Statement.text = lines

theorem added_pushed (found : s.canvases[number]? = some c) {given : List Statement}
    (pushed : after.canvases = (s.pushAll number given).canvases) :
    added s after number = given := by
  obtain ⟨bound, _⟩ := List.getElem?_eq_some_iff.mp found
  have before : s.statementsOn number = c.statements := by
    rw [statementsOn, found]
    rfl
  have now : after.statementsOn number = c.statements ++ given := by
    rw [statementsOn, pushed, pushAll_set found, List.getElem?_set_self bound]
    rfl
  rw [added, before, now, List.drop_left]

theorem added_nothing (same : after.canvases = s.canvases) (number : Nat) :
    added s after number = [] := by
  have unchanged : after.statementsOn number = s.statementsOn number := by
    rw [statementsOn, same]
    rfl
  rw [added, unchanged, List.drop_length]

theorem writes_pushed (found : s.canvases[number]? = some c) {given : List Statement}
    (pushed : after.canvases = (s.pushAll number given).canvases) :
    Writes s after number (given.map Statement.text) :=
  ⟨c, given, found, by rw [pushed, pushAll_set found], rfl⟩

theorem writes_nothing (found : s.canvases[number]? = some c)
    (same : after.canvases = s.canvases) : Writes s after number [] := by
  obtain ⟨bound, own⟩ := List.getElem?_eq_some_iff.mp found
  refine ⟨c, [], found, ?_, rfl⟩
  have unchanged : c.pushAll [] = c := by
    rw [Canvas.pushAll, List.append_nil]
  rw [same, unchanged, ← own, List.set_getElem_self]

end Script

section Creating
variable {s after : Session} {x : String} {op : Op} {answer : Answer}

/-- The box that an operation creates for an element: it gives the box back, and it has added the
    declaration of its variable. -/
def creates? (x : String) (s : Session) (op : Op) : Option Box :=
  if op.asks? = some x then
    match (act op).run s with
    | .ok (.box b) after => if b.name ∈ declaredBy (added s after b.canvas) then some b else none
    | _ => none
  else none

def created (x : String) (s : Session) : List Op → List (Op × Box)
  | [] => []
  | op :: rest =>
    ((creates? x s op).map (op, ·)).toList ++ created x (s.run [op]).2 rest

def latest? (x : String) (s : Session) (calls : List Op) : Option Box :=
  (created x s calls).getLast?.map Prod.snd

theorem created_append (x : String) (s : Session) (front back : List Op) :
    created x s (front ++ back) = created x s front ++ created x (s.run front).2 back := by
  induction front generalizing s with
  | nil => rfl
  | cons op rest ih =>
    rw [List.cons_append, created, created, ih, run_cons s op rest, List.append_assoc]

theorem created_one (x : String) (s : Session) (op : Op) :
    created x s [op] = ((creates? x s op).map (op, ·)).toList := by
  rw [created, created, List.append_nil]

theorem latest_after (x : String) (s : Session) (calls : List Op) (op : Op) :
    latest? x s (calls ++ [op]) =
      (creates? x (s.run calls).2 op).or (latest? x s calls) := by
  rw [latest?, created_append, created_one]
  cases creates? x (s.run calls).2 op with
  | none => rw [Option.map_none, Option.toList_none, List.append_nil, Option.none_or, latest?]
  | some b => simp

theorem creates_unasked (unasked : op.asks? ≠ some x) : creates? x s op = none :=
  if_neg unasked

theorem creates_declared {b : Box} (asks : op.asks? = some x)
    (run : (act op).run s = .ok (.box b) after)
    (declares : declaredBy (added s after b.canvas) = [b.name]) : creates? x s op = some b := by
  rw [creates?, if_pos asks, run]
  exact if_pos (declares ▸ List.mem_singleton_self b.name)

theorem creates_silent {b : Box} (run : (act op).run s = .ok (.box b) after)
    (silent : declaredBy (added s after b.canvas) = []) : creates? x s op = none := by
  rw [creates?, run]
  split
  · exact if_neg (silent ▸ List.not_mem_nil)
  · rfl

theorem creates_fault {fault : Error} {left : Session} (run : (act op).run s = .error fault left) :
    creates? x s op = none := by
  rw [creates?, run]
  split <;> rfl

end Creating

section Lookups
variable {s : Session} {x handle other name : String} {e : Element} {b : Box} {number : Nat}
  {c : Canvas} {kind : Kind} {a : Attributes} {creation : String → List Statement}

theorem withBox_canvases : (s.withBox x handle e name).canvases =
    (s.pushAll e.canvas [Box.declare ⟨e.canvas, e.name, name⟩]).canvases :=
  rfl

theorem withBox_element : (s.withBox x handle e name).element? other =
    if x = other then some { e with box := some ⟨e.canvas, e.name, name⟩ }
    else s.element? other :=
  Entries.lookup_insert x other _ s.elements

theorem keepBox_box :
    (s.keepBox handle b).box? other = if handle = other then some b else s.box? other :=
  Entries.lookup_insert handle other b s.boxes

theorem withElement_element : (s.withElement handle number c kind a creation).element? other =
    if handle = other then some ((s.lentAt number c).made kind a.id) else s.element? other := by
  obtain ⟨generators, spent⟩ :=
    spent_generators s s.sources[number]?.join (if a.id.isNone then 1 else 0)
  rw [withElement, grown, spent, element?, keepElement, Entries.lookup_insert]
  rfl

theorem withElement_box :
    (s.withElement handle number c kind a creation).box? other = s.box? other := by
  obtain ⟨generators, spent⟩ :=
    spent_generators s s.sources[number]?.join (if a.id.isNone then 1 else 0)
  rw [withElement, grown, spent]
  rfl

theorem opened_handles {source : Option Nat} {draws : Nat} :
    ((s.spent source draws).keepCanvas handle source c).element? other = s.element? other ∧
      ((s.spent source draws).keepCanvas handle source c).box? other = s.box? other := by
  obtain ⟨generators, spent⟩ := spent_generators s source draws
  rw [spent]
  exact ⟨rfl, rfl⟩

end Lookups

section Elements
variable {s after : Session} {x : String} {e : Element} {op : Op} {answer : Answer}

def MayCreate (x : String) (e : Element) (op : Op) (name : String) : Prop :=
  ∃ handle, op = .bboxNamed x handle name ∨
    (op = .bbox x handle ∨ op = .reloadBbox x handle) ∧ e.box = none ∧ name = e.name ++ "_bbox"

theorem MayCreate.asks {name : String} (allowed : MayCreate x e op name) : op.asks? = some x := by
  obtain ⟨handle, rfl | ⟨rfl | rfl, _⟩⟩ := allowed <;> rfl

/-- What an operation does to the box of an element: a box that it creates for it is a box of the
    element and the one made last from then on. -/
structure KeepsBox (x : String) (s : Session) (e : Element) (op : Op) (after : Session) : Prop where
  element : after.element? x = some { e with box := (creates? x s op).or e.box }
  created : ∀ b, creates? x s op = some b →
    b = ⟨e.canvas, e.name, b.name⟩ ∧ MayCreate x e op b.name

theorem KeepsBox.quiet (quiet : creates? x s op = none) (same : after.element? x = some e) :
    KeepsBox x s e op after := by
  refine ⟨?_, fun b created => ?_⟩
  · rw [quiet, same]
    rfl
  · rw [quiet] at created
    contradiction

theorem element_canvas (sound : Sound s) (found : s.element? x = some e) :
    ∃ c, s.canvases[e.canvas]? = some c := by
  obtain ⟨c, at_canvas, _⟩ := (sound.elements x e found).own
  exact ⟨c, at_canvas⟩

theorem creates_box (sound : Sound s) (found : s.element? x = some e) {handle name : String}
    (asks : op.asks? = some x)
    (run : (act op).run s = .ok (.box ⟨e.canvas, e.name, name⟩) (s.withBox x handle e name)) :
    creates? x s op = some ⟨e.canvas, e.name, name⟩ := by
  obtain ⟨c, at_canvas⟩ := element_canvas sound found
  refine creates_declared asks run ?_
  rw [added_pushed at_canvas withBox_canvases]
  rfl

theorem effect_box (sound : Sound s) (effect : Effect s op answer after)
    (found : s.element? x = some e) (kept : op.makes? ≠ some x) : KeepsBox x s e op after := by
  have run : (act op).run s = .ok answer after := act_ok_iff.mpr effect
  have apart (unasked : op.asks? ≠ some x) (same : after.element? x = s.element? x) :
      KeepsBox x s e op after :=
    .quiet (creates_unasked unasked) (by rw [same, found])
  have aside (unasked : op.asks? = none) (same : after.element? x = s.element? x) :
      KeepsBox x s e op after :=
    apart (unasked ▸ (Option.some_ne_none x).symm) same
  have boxed {element handle name : String} {d : Element} (at_element : s.element? element = some d)
      (allowed : MayCreate element d op name) (given : answer = .box ⟨d.canvas, d.name, name⟩)
      (same : after = s.withBox element handle d name) : KeepsBox x s e op after := by
    -- A new box of another element is no box of this one, whatever canvas they share.
    by_cases own : element = x
    · subst own
      cases at_element.symm.trans found
      have creates := creates_box sound found allowed.asks (given ▸ same ▸ run)
      refine ⟨?_, fun b created => ?_⟩
      · rw [same, withBox_element, if_pos rfl, creates]
        rfl
      · cases creates.symm.trans created
        exact ⟨rfl, allowed⟩
    · refine apart ?_ ?_
      · rw [allowed.asks]
        exact fun eq => own (Option.some.inj eq)
      · rw [same, withBox_element, if_neg own]
  cases effect with
  | missed misses => exact .quiet (by rw [creates?, run]; split <;> rfl) found
  | canvas clean => exact aside rfl opened_handles.1
  | generator texts => exact aside rfl rfl
  | canvasFrom known clean => exact aside rfl opened_handles.1
  | pushed at_paper => exact aside rfl rfl
  | @drew op paper handle shape a number c draws at_paper clean =>
    have makes : op.asks? = none ∧ op.makes? = some handle := by
      cases op <;> cases draws <;> exact ⟨rfl, rfl⟩
    have other : handle ≠ x := fun eq => kept (eq ▸ makes.2)
    exact aside makes.1 (withElement_element.trans (if_neg other))
  | @grouped paper handle members a number c at_paper own clean =>
    have other : handle ≠ x := fun eq => kept (eq ▸ rfl)
    exact aside rfl (withElement_element.trans (if_neg other))
  | gave gives at_element =>
    have unasked : op.asks? = none := by cases op <;> cases gives <;> rfl
    exact aside unasked rfl
  | node at_element => exact aside rfl rfl
  | boxNamed at_element clean => exact boxed at_element ⟨_, .inl rfl⟩ rfl rfl
  | boxFirst asks at_element none_before =>
    exact boxed at_element ⟨_, .inr ⟨asks, none_before, rfl⟩⟩ rfl rfl
  | boxCached at_element before =>
    exact .quiet (creates_silent run (by rw [added_nothing (by rfl)]; rfl)) found
  | @boxReloaded element handle d b at_element before =>
    obtain ⟨placed, c, at_canvas, _⟩ := (sound.elements element d at_element).box b before
    have updated : added s ((s.pushAll d.canvas [b.update]).keepBox handle b) b.canvas =
        [b.update] := added_pushed at_canvas (by rw [placed]; rfl)
    exact .quiet (creates_silent run (by rw [updated]; rfl)) found
  | boxUpdated at_box => exact aside rfl rfl
  | boxField at_box => exact aside rfl rfl

theorem step_box (sound : Sound s) (found : s.element? x = some e) (kept : op.makes? ≠ some x) :
    KeepsBox x s e op (s.run [op]).2 := by
  rcases step_cases s op with ⟨fault, failed, same⟩ | ⟨answer, _, effect⟩
  · exact .quiet (creates_fault failed) (by rw [same, found])
  · exact effect_box sound effect found kept

theorem run_box (sound : Sound s) {calls : List Op} (found : s.element? x = some e)
    (kept : ∀ op ∈ calls, op.makes? ≠ some x) :
    (s.run calls).2.element? x = some { e with box := (latest? x s calls).or e.box } ∧
      ∀ made ∈ created x s calls, made.2 = ⟨e.canvas, e.name, made.2.name⟩ ∧
        MayCreate x e made.1 made.2.name := by
  induction calls generalizing s e with
  | nil => exact ⟨found, fun _ member => absurd member List.not_mem_nil⟩
  | cons op rest ih =>
    obtain ⟨first, later⟩ := List.forall_mem_cons.mp kept
    have step := step_box sound found first
    obtain ⟨now, all⟩ := ih (run_sound sound [op]) step.element later
    -- The rest starts with the element as the step has left it: its own boxes come first.
    have last : latest? x s (op :: rest) =
        (latest? x (s.run [op]).2 rest).or (creates? x s op) := by
      rw [latest?, latest?, created, List.getLast?_append, Option.map_or]
      cases creates? x s op <;> rfl
    refine ⟨?_, fun made member => ?_⟩
    · rw [run_cons, now, last, Option.or_assoc]
    · rw [created] at member
      rcases List.mem_append.mp member with here | there
      · obtain ⟨b, creates, rfl⟩ := Option.map_eq_some_iff.mp (Option.mem_toList.mp here)
        exact step.created b creates
      · obtain ⟨own, handle, allowed⟩ := all made there
        refine ⟨own, handle, allowed.imp_right fun ⟨asks, unboxed, default⟩ => ?_⟩
        exact ⟨asks, (Option.or_eq_none_iff.mp unboxed).2, default⟩

theorem boxed_named (sound : Sound s) {calls : List Op} (found : s.element? x = some e)
    (kept : ∀ op ∈ calls, op.makes? ≠ some x) {b : Box} (before : e.box = some b) :
    ∀ made ∈ created x s calls, ∃ handle, made.1 = .bboxNamed x handle made.2.name := by
  intro made member
  obtain ⟨_, handle, named | ⟨_, unboxed, _⟩⟩ := (run_box sound found kept).2 made member
  · exact ⟨handle, named⟩
  · rw [before] at unboxed
    contradiction

theorem tail_named (sound : Sound s) {calls : List Op} (found : s.element? x = some e)
    (kept : ∀ op ∈ calls, op.makes? ≠ some x) :
    ∀ made ∈ (created x s calls).tail, ∃ handle, made.1 = .bboxNamed x handle made.2.name := by
  induction calls generalizing s e with
  | nil => exact fun _ member => absurd member List.not_mem_nil
  | cons op rest ih =>
    obtain ⟨first, later⟩ := List.forall_mem_cons.mp kept
    have step := step_box sound found first
    have sound_after := run_sound sound [op]
    rw [created]
    cases creates : creates? x s op with
    | none => exact ih sound_after step.element later
    | some b => exact boxed_named sound_after step.element later (by rw [creates]; rfl)

theorem effect_makes (effect : Effect s op (.element e) after) (here : op.makes? = some x) :
    after.element? x = some e ∧ e.box = none := by
  cases effect with
  | @drew op paper handle shape a number c draws at_paper clean =>
    have same : handle = x := by
      cases op <;> cases draws <;> exact Option.some.inj here
    exact ⟨withElement_element.trans (if_pos same), rfl⟩
  | grouped at_paper own clean =>
    exact ⟨withElement_element.trans (if_pos (Option.some.inj here)), rfl⟩

end Elements

section Handles
variable {s after : Session} {op : Op} {answer : Answer} {handle : String} {b : Box}

theorem effect_keeps_handle (effect : Effect s op answer after)
    (kept : op.boxHandle? ≠ some handle) : after.box? handle = s.box? handle := by
  have other {given : String} {d : Box} {before : Session} (own : op.boxHandle? = some given)
      (same : before.boxes = s.boxes) : (before.keepBox given d).box? handle = s.box? handle := by
    have apart : given ≠ handle := fun eq => kept (eq ▸ own)
    rw [keepBox_box, if_neg apart, box?, same]
    rfl
  cases effect with
  | canvas clean => exact opened_handles.2
  | canvasFrom known clean => exact opened_handles.2
  | drew draws at_paper clean => exact withElement_box
  | grouped at_paper own clean => exact withElement_box
  | boxNamed at_element clean => exact other rfl rfl
  | boxFirst asks at_element none_before =>
    rcases asks with rfl | rfl
    · exact other rfl rfl
    · exact other rfl rfl
  | boxCached at_element before => exact other rfl rfl
  | boxReloaded at_element before => exact other rfl rfl
  | _ => rfl

theorem effect_gives_handle (effect : Effect s op (.box b) after)
    (own : op.boxHandle? = some handle) : after.box? handle = some b := by
  have given (before : Session) : (before.keepBox handle b).box? handle = some b := by
    rw [keepBox_box, if_pos rfl]
  cases effect with
  | boxNamed at_element clean =>
    cases own
    exact given _
  | boxFirst asks at_element none_before =>
    rcases asks with rfl | rfl
    · cases own
      exact given _
    · cases own
      exact given _
  | boxCached at_element before =>
    cases own
    exact given _
  | boxReloaded at_element before =>
    cases own
    exact given _
  | boxUpdated at_box => contradiction

theorem handle_kept {front back : List Op}
    (run : (act op).run (s.run front).2 = .ok (.box b) after) (own : op.boxHandle? = some handle)
    (kept : ∀ later ∈ back, later.boxHandle? ≠ some handle) :
    (s.run (front ++ op :: back)).2.box? handle = some b := by
  have given : after.box? handle = some b := effect_gives_handle (act_ok_iff.mp run) own
  rw [run_append, run_cons, run_one_ok run]
  let holds (s : Session) : Prop := s.box? handle = some b
  have keeps : ∀ later ∈ back, ∀ before answer left, Effect before later answer left →
      holds before → holds left := by
    intro later member before answer left effect held
    exact (effect_keeps_handle effect (kept later member)).trans held
  exact run_keeps_among keeps given

end Handles

section Results

/-- What is known of the boxes of an element behind some calls: what the next call about them comes
    to, which boxes the calls have created, and which boxes their handles stand for. -/
structure Boxes (x : String) (e : Element) (s : Session) (calls : List Op) : Prop where
  asked (handle : String) : ∃ b after,
    (act (.bbox x handle)).run (s.run calls).2 = .ok (.box b) after ∧
    latest? x s (calls ++ [.bbox x handle]) = some b ∧
    Writes (s.run calls).2 after e.canvas
      (if (created x s calls).isEmpty then ["var " ++ b.name ++ " = " ++ e.name ++ ".getBBox();"]
        else [])
  reloaded (handle : String) : ∃ b after,
    (act (.reloadBbox x handle)).run (s.run calls).2 = .ok (.box b) after ∧
    latest? x s (calls ++ [.reloadBbox x handle]) = some b ∧
    Writes (s.run calls).2 after e.canvas
      [(if (created x s calls).isEmpty then "var " else "") ++ b.name ++ " = " ++ e.name ++
        ".getBBox();"]
  named (handle name : String) (valid : isIdentifier name = true) : ∃ after,
    (act (.bboxNamed x handle name)).run (s.run calls).2 =
      .ok (.box ⟨e.canvas, e.name, name⟩) after ∧
    latest? x s (calls ++ [.bboxNamed x handle name]) = some ⟨e.canvas, e.name, name⟩ ∧
    Writes (s.run calls).2 after e.canvas ["var " ++ name ++ " = " ++ e.name ++ ".getBBox();"]
  refused (handle name : String) (invalid : isIdentifier name = false) :
    (act (.bboxNamed x handle name)).run (s.run calls).2 =
      .error (.invalidIdentifier name) (s.run calls).2
  own : ∀ made ∈ created x s calls, made.2 = ⟨e.canvas, e.name, made.2.name⟩
  /-- The default variable is declared as that of the first box, by a call without a name. -/
  first : ∀ made ∈ (created x s calls).head?, ∃ handle,
    made.1 = .bboxNamed x handle made.2.name ∨
      (made.1 = .bbox x handle ∨ made.1 = .reloadBbox x handle) ∧
        made.2.name = e.name ++ "_bbox"
  later : ∀ made ∈ (created x s calls).tail, ∃ handle, made.1 = .bboxNamed x handle made.2.name
  held {front back : List Op} {op : Op} {handle : String} {b : Box} {after : Session}
    (split : calls = front ++ op :: back) (own : op.boxHandle? = some handle)
    (run : (act op).run (s.run front).2 = .ok (.box b) after)
    (kept : ∀ later ∈ back, later.boxHandle? ≠ some handle) :
    (s.run calls).2.box? handle = some b
  updated {handle : String} {b : Box} (found : (s.run calls).2.box? handle = some b) : ∃ after,
    (act (.update handle)).run (s.run calls).2 = .ok (.box b) after ∧
    Writes (s.run calls).2 after b.canvas [b.name ++ " = " ++ b.element ++ ".getBBox();"]
  read {handle : String} {b : Box} (found : (s.run calls).2.box? handle = some b)
    (f : Box.Field) : ∃ after,
    (act (.field handle f)).run (s.run calls).2 =
      .ok (.expression (b.name ++ "_" ++ f.name)) after ∧
    Writes (s.run calls).2 after b.canvas
      ["var " ++ (b.name ++ "_" ++ f.name) ++ " = " ++ b.name ++ "." ++ f.name ++ ";"]

variable {s : Session} {x : String} {e : Element} {calls : List Op}

theorem latest_none_iff : latest? x s calls = none ↔ (created x s calls).isEmpty = true := by
  rw [latest?, Option.map_eq_none_iff, List.getLast?_eq_none_iff, List.isEmpty_iff]

theorem latest_mem {b : Box} (last : latest? x s calls = some b) :
    ∃ made ∈ created x s calls, made.2 = b := by
  obtain ⟨made, at_end, same⟩ := Option.map_eq_some_iff.mp last
  exact ⟨made, List.mem_of_getLast? at_end, same⟩

theorem update_text (b : Box) :
    b.update.text = b.name ++ " = " ++ b.element ++ ".getBBox();" := by
  have again : b.update.text = "" ++ b.name ++ " = " ++ b.element ++ ".getBBox();" := rfl
  rw [again, String.empty_append]

theorem named_asked (sound : Sound s) (found : s.element? x = some e) (handle name : String)
    (valid : isIdentifier name = true) : ∃ after,
      (act (.bboxNamed x handle name)).run s = .ok (.box ⟨e.canvas, e.name, name⟩) after ∧
      creates? x s (.bboxNamed x handle name) = some ⟨e.canvas, e.name, name⟩ ∧
      Writes s after e.canvas ["var " ++ name ++ " = " ++ e.name ++ ".getBBox();"] := by
  obtain ⟨c, at_canvas⟩ := element_canvas sound found
  have run := Change.bboxNamed_run found handle name
  have clean : idFaults (some name) = [] :=
    (idFaults_empty_iff _).mpr fun own same => Option.some.inj same ▸ valid
  rw [clean] at run
  exact ⟨_, run, creates_box sound found rfl run,
    writes_pushed at_canvas withBox_canvases⟩

theorem first_asked {op : Op} {handle : String} (sound : Sound s) (found : s.element? x = some e)
    (asks : op = .bbox x handle ∨ op = .reloadBbox x handle) (unboxed : e.box = none) :
    ∃ b after, (act op).run s = .ok (.box b) after ∧ creates? x s op = some b ∧
      Writes s after e.canvas ["var " ++ b.name ++ " = " ++ e.name ++ ".getBBox();"] := by
  obtain ⟨c, at_canvas⟩ := element_canvas sound found
  have run := Change.bbox_first_run asks found unboxed
  have own : op.asks? = some x := by rcases asks with rfl | rfl <;> rfl
  exact ⟨_, _, run, creates_box sound found own run,
    writes_pushed at_canvas withBox_canvases⟩

theorem cached_asked (sound : Sound s) (found : s.element? x = some e) (handle : String) {b : Box}
    (before : e.box = some b) : ∃ after,
      (act (.bbox x handle)).run s = .ok (.box b) after ∧ creates? x s (.bbox x handle) = none ∧
      Writes s after e.canvas [] := by
  obtain ⟨c, at_canvas⟩ := element_canvas sound found
  have run := Change.bbox_cached_run found before handle
  exact ⟨_, run, creates_silent run (by rw [added_nothing (by rfl)]; rfl),
    writes_nothing at_canvas rfl⟩

theorem cached_reloaded (sound : Sound s) (found : s.element? x = some e) (handle : String)
    {b : Box} (before : e.box = some b) : ∃ after,
      (act (.reloadBbox x handle)).run s = .ok (.box b) after ∧
      creates? x s (.reloadBbox x handle) = none ∧
      Writes s after e.canvas [b.name ++ " = " ++ b.element ++ ".getBBox();"] := by
  obtain ⟨placed, c, at_canvas, _⟩ := (sound.elements x e found).box b before
  have run := Change.reload_run found before handle
  rw [placed] at at_canvas
  have updated : added s ((s.pushAll e.canvas [b.update]).keepBox handle b) b.canvas =
      [b.update] := by
    rw [placed]
    exact added_pushed at_canvas rfl
  refine ⟨_, run, creates_silent run (by rw [updated]; rfl), ?_⟩
  exact update_text b ▸ writes_pushed at_canvas rfl

theorem held_updated (sound : Sound s) {handle : String} {b : Box}
    (found : s.box? handle = some b) : ∃ after,
      (act (.update handle)).run s = .ok (.box b) after ∧
      Writes s after b.canvas [b.name ++ " = " ++ b.element ++ ".getBBox();"] := by
  obtain ⟨c, at_canvas, _⟩ := sound.boxes handle b found
  exact ⟨_, Change.onBox_run found _ _, update_text b ▸ writes_pushed at_canvas rfl⟩

theorem held_read (sound : Sound s) {handle : String} {b : Box} (found : s.box? handle = some b)
    (f : Box.Field) : ∃ after,
      (act (.field handle f)).run s = .ok (.expression (b.name ++ "_" ++ f.name)) after ∧
      Writes s after b.canvas
        ["var " ++ (b.name ++ "_" ++ f.name) ++ " = " ++ b.name ++ "." ++ f.name ++ ";"] := by
  obtain ⟨c, at_canvas, _⟩ := sound.boxes handle b found
  exact ⟨_, Change.onBox_run found _ _, writes_pushed at_canvas rfl⟩

/-- The boxes of an element over any calls, among which no other element takes its handle. -/
theorem boxes_follow_calls (before : List Op) (making : Op)
    (made : (act making).run (empty.run before).2 = .ok (.element e) s)
    (here : making.makes? = some x) (kept : ∀ op ∈ calls, op.makes? ≠ some x) :
    Boxes x e s calls := by
  have effect := act_ok_iff.mp made
  have sound : Sound s := effect_sound (run_sound empty_sound before) effect
  obtain ⟨found, unboxed⟩ := effect_makes effect here
  obtain ⟨now, all⟩ := run_box sound found kept
  rw [unboxed, Option.or_none] at now
  have sound_now := run_sound sound calls
  have some_before {b : Box} (last : latest? x s calls = some b) :
      ¬ (created x s calls).isEmpty = true := by
    intro empty
    rw [latest_none_iff.mpr empty] at last
    contradiction
  refine {
    asked := fun handle => ?_
    reloaded := fun handle => ?_
    named := fun handle name valid => ?_
    refused := fun handle name invalid => ?_
    own := fun made member => (all made member).1
    first := fun made member => ?_
    later := tail_named sound found kept
    held := fun split own run kept => split ▸ handle_kept run own kept
    updated := held_updated sound_now
    read := held_read sound_now }
  · cases last : latest? x s calls with
    | none =>
      obtain ⟨b, after, run, creates, writes⟩ := first_asked sound_now now (.inl rfl) last
      refine ⟨b, after, run, by rw [latest_after, creates]; rfl, ?_⟩
      rwa [if_pos (latest_none_iff.mp last)]
    | some b =>
      obtain ⟨after, run, creates, writes⟩ := cached_asked sound_now now handle last
      refine ⟨b, after, run, by rw [latest_after, creates, last]; rfl, ?_⟩
      rwa [if_neg (some_before last)]
  · cases last : latest? x s calls with
    | none =>
      obtain ⟨b, after, run, creates, writes⟩ := first_asked sound_now now (.inr rfl) last
      refine ⟨b, after, run, by rw [latest_after, creates]; rfl, ?_⟩
      rwa [if_pos (latest_none_iff.mp last)]
    | some b =>
      obtain ⟨after, run, creates, writes⟩ := cached_reloaded sound_now now handle last
      refine ⟨b, after, run, by rw [latest_after, creates, last]; rfl, ?_⟩
      have own : b.element = e.name := by
        obtain ⟨made, member, rfl⟩ := latest_mem last
        rw [(all made member).1]
      rwa [if_neg (some_before last), String.empty_append, ← own]
  · obtain ⟨after, run, creates, writes⟩ := named_asked sound_now now handle name valid
    exact ⟨after, run, by rw [latest_after, creates]; rfl, writes⟩
  · rw [Change.bboxNamed_run now handle name, idFaults, faultIf, if_pos invalid]
    rfl
  · obtain ⟨_, handle, allowed⟩ := all made (List.mem_of_mem_head? member)
    exact ⟨handle, allowed.imp_right (And.imp_right And.right)⟩

theorem boxes_follow_mixed_calls :
    let before : List Op := [.canvas "c" (.position 0 0 9 9) none toString]
    let making : Op := .draw "c" "x" (.circle 0 0 1) .empty
    let calls : List Op := [.reloadBbox "x" "old", .bbox "x" "same", .bboxNamed "x" "new" "b",
      .bboxNamed "x" "new" "not valid", .update "old", .bbox "x" "last", .reloadBbox "x" "last",
      .field "old" .width]
    ∃ e s, (act making).run (empty.run before).2 = .ok (.element e) s ∧
      making.makes? = some "x" ∧ (∀ op ∈ calls, op.makes? ≠ some "x") ∧
      (created "x" s calls).map (fun made => made.2.name) = ["rafa_circle_2_bbox", "b"] ∧
      Boxes "x" e s calls := by
  intro before making calls
  obtain ⟨e, s, made⟩ : ∃ e s, (act making).run (empty.run before).2 = .ok (.element e) s :=
    ⟨_, _, rfl⟩
  have kept : ∀ op ∈ calls, op.makes? ≠ some "x" := by decide
  refine ⟨e, s, made, rfl, kept, ?_, boxes_follow_calls before making made rfl kept⟩
  rw [← run_one_ok made]
  decide +kernel

end Results

end SceneScript.Session
