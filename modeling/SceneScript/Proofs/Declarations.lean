import SceneScript.Proofs.Mentions
import SceneScript.Proofs.Operations
import SceneScript.Proofs.References

/- Variables are declared before they are used. Handles only name what a canvas has declared, those
   of elements as those of boxes, the latest and older ones. So whatever is done through a handle,
   in any order, uses variables of earlier statements. -/
namespace SceneScript

section Identifiers

theorem reserved_unmarked : ∀ word ∈ reservedWords, '_' ∉ word.toList := by
  decide

theorem identifier_of_marked {name : String} {c : Char} {rest : List Char}
    (text : name.toList = c :: rest) (start : Identifier.isStart c = true)
    (parts : ∀ d ∈ rest, Identifier.isPart d = true) (marked : '_' ∈ c :: rest) :
    isIdentifier name = true := by
  have free : name ∉ reservedWords := fun reserved =>
    reserved_unmarked name reserved (text ▸ marked)
  unfold isIdentifier
  rw [text]
  simp only [start, List.all_eq_true.mpr parts, Bool.true_and, Bool.not_eq_true',
    List.contains_eq_mem, free, decide_false]

theorem identifier_parts {name : String} (valid : isIdentifier name = true) :
    ∃ c rest, name.toList = c :: rest ∧ Identifier.isStart c = true ∧
      ∀ d ∈ rest, Identifier.isPart d = true := by
  unfold isIdentifier at valid
  cases text : name.toList with
  | nil => simp [text] at valid
  | cons c rest =>
    simp only [text, Bool.and_eq_true] at valid
    exact ⟨c, rest, rfl, valid.1.1, List.all_eq_true.mp valid.1.2⟩

theorem identifier_extended {name more : String} (own : isIdentifier name = true)
    (parts : more.toList.all Identifier.isPart = true)
    (marked : '_' ∈ name.toList ∨ '_' ∈ more.toList) : isIdentifier (name ++ more) = true := by
  obtain ⟨c, rest, text, start, own_parts⟩ := identifier_parts own
  have whole : (name ++ more).toList = c :: (rest ++ more.toList) := by
    rw [String.toList_append, text, List.cons_append]
  refine identifier_of_marked whole start ?_ ?_
  · intro d member
    exact (List.mem_append.mp member).elim (own_parts d) (List.all_eq_true.mp parts d)
  · rw [← List.cons_append, ← text]
    exact List.mem_append.mpr marked

theorem number_parts (n : Nat) : ∀ d ∈ (toString n).toList, Identifier.isPart d = true := by
  intro d member
  rw [Nat.toString_eq_ofList_toDigits, String.toList_ofList] at member
  have digit : d.isDigit = true := Nat.isDigit_of_mem_toDigits (by decide) (by decide) member
  simp [Identifier.isPart, Char.isAlphanum, digit]

theorem numbered_identifier {front : String} (own : isIdentifier front = true)
    (marked : '_' ∈ front.toList) (n : Nat) : isIdentifier (front ++ toString n) = true :=
  identifier_extended own (List.all_eq_true.mpr (number_parts n)) (.inl marked)

theorem generated_identifier (kind : Kind) (n : Nat) :
    isIdentifier ("rafa_" ++ kind.name ++ "_" ++ toString n) = true := by
  cases kind <;> exact numbered_identifier (by decide) (by decide) n

theorem paper_identifier (n : Nat) : isIdentifier ("_raphael_canvas_" ++ toString n) = true :=
  numbered_identifier (by decide) (by decide) n

theorem node_identifier {e : Element} (own : isIdentifier e.name = true) :
    isIdentifier e.nodeName = true :=
  identifier_extended own (by decide) (.inr (by decide))

theorem box_identifier {e : Element} (own : isIdentifier e.name = true) :
    isIdentifier (e.name ++ "_bbox") = true :=
  identifier_extended own (by decide) (.inr (by decide))

theorem field_identifier {b : Box} (own : isIdentifier b.name = true) (f : Box.Field) :
    isIdentifier (b.fieldName f) = true := by
  rw [Box.fieldName, String.append_assoc]
  cases f <;> exact identifier_extended own (by decide) (.inr (by decide))

end Identifiers

section Acting

namespace Animation

theorem attrs_target (a : Animation) (pairs : List (String × Value)) :
    (a.attrs pairs).target = a.target := by
  induction pairs generalizing a with
  | nil => rfl
  | cons pair rest ih => exact ih (a.attr pair.1 pair.2)

theorem step_target (a : Animation) (s : Step) : (a.step s).target = a.target := by
  cases s <;> rfl

theorem run_target (a : Animation) (steps : List Step) : (a.run steps).target = a.target := by
  induction steps generalizing a with
  | nil => rfl
  | cons s rest ih => exact (ih (a.step s)).trans (step_target a s)

end Animation

theorem apply_acts (e : Element) (a : Attributes) : ∀ st ∈ e.apply a, st.ActsOn e.name := by
  intro st member
  obtain ⟨entry, _, rfl⟩ := List.mem_map.mp member
  rfl

theorem given_acts {op : Session.Op} {element : String} {given : Element → List Statement}
    (gives : op.gives? = some (element, given)) (e : Element) :
    ∀ st ∈ given e, st.ActsOn e.name := by
  have single {st : Statement} (acts : st.ActsOn e.name) : ∀ own ∈ [st], own.ActsOn e.name :=
    fun own member => List.mem_singleton.mp member ▸ acts
  cases op with
  | attr element name value =>
    cases gives
    exact single rfl
  | apply element a =>
    cases gives
    exact apply_acts e a
  | transform element t =>
    cases gives
    exact single rfl
  | animate element seconds a callback =>
    cases gives
    refine single ?_
    have target : ((e.animation seconds).attrs a.entries).target = e.name :=
      Animation.attrs_target _ _
    cases callback with
    | none => exact (chain_acts target).1
    | some body => exact (chain_acts (a := Animation.onFinish _ body) target).1
  | animateWith element seconds steps =>
    cases gives
    exact single (chain_acts (Animation.run_target (e.animation seconds) steps)).2.1
  | every element seconds steps =>
    cases gives
    exact single (chain_acts (Animation.run_target (e.animation seconds) steps)).2.2
  | _ => contradiction

end Acting

namespace Session

section Scripts

def Declares (canvases : List Canvas) (number : Nat) (names : List String) : Prop :=
  ∃ c, canvases[number]? = some c ∧ ∀ name ∈ names, name ∈ c.declared

/-- Whether all suffixes of a canvas are its own and the numbers of its draws. -/
def Sequential (sources : List (Option Nat)) (number : Nat) (c : Canvas) : Prop :=
  sources[number]? = some none ∧ c.suffix = toString

/-- Every script uses what it has declared, and with numbers for suffixes it declares only
    identifiers. -/
structure Scripts (canvases : List Canvas) (sources : List (Option Nat)) : Prop where
  paired : sources.length = canvases.length
  numbers : ∀ (number : Nat) (c : Canvas), canvases[number]? = some c → c.number = number
  resolved : ∀ (number : Nat) (c : Canvas), canvases[number]? = some c → c.Resolved
  identifiers : ∀ (number : Nat) (c : Canvas), canvases[number]? = some c →
    Sequential sources number c → ∀ name ∈ c.declared, isIdentifier name = true

structure Fits (sources : List (Option Nat)) (number : Nat) (c : Canvas) (given : List Statement) :
    Prop where
  resolved : SceneScript.Resolved c.declared given
  identifiers : Sequential sources number c → ∀ name ∈ declaredBy given, isIdentifier name = true

variable {canvases : List Canvas} {sources : List (Option Nat)} {number : Nat} {c : Canvas}
  {given : List Statement}

structure Adds (c : Canvas) (given : List Statement) (after : Canvas) : Prop where
  number : after.number = c.number
  name : after.name = c.name
  suffix : after.suffix = c.suffix
  statements : after.statements = c.statements ++ given

theorem Adds.pushed (c : Canvas) (given : List Statement) : Adds c given (c.pushAll given) :=
  ⟨rfl, rfl, rfl, rfl⟩

theorem Adds.declared {after : Canvas} (adds : Adds c given after) :
    after.declared = c.declared ++ declaredBy given := by
  simp [Canvas.declared, adds.name, adds.statements, declaredBy]

theorem set_scripts {after : Canvas} (scripts : Scripts canvases sources)
    (found : canvases[number]? = some c) (fits : Fits sources number c given)
    (adds : Adds c given after) : Scripts (canvases.set number after) sources := by
  have cases_of {i : Nat} {d : Canvas} (at_i : (canvases.set number after)[i]? = some d) :
      i = number ∧ d = after ∨ canvases[i]? = some d := by
    rw [List.getElem?_set] at at_i
    split at at_i
    · rename_i same
      split at at_i
      · exact Or.inl ⟨same.symm, (Option.some.inj at_i).symm⟩
      · contradiction
    · exact Or.inr at_i
  refine ⟨by simpa using scripts.paired, ?_, ?_, ?_⟩
  · intro i d at_i
    rcases cases_of at_i with ⟨rfl, rfl⟩ | before
    · rw [adds.number]
      exact scripts.numbers i c found
    · exact scripts.numbers i d before
  · intro i d at_i
    rcases cases_of at_i with ⟨rfl, rfl⟩ | before
    · rw [Canvas.Resolved, adds.name, adds.statements, resolved_append]
      exact ⟨scripts.resolved i c found, fits.resolved⟩
    · exact scripts.resolved i d before
  · intro i d at_i sequential name member
    rcases cases_of at_i with ⟨rfl, rfl⟩ | before
    · obtain ⟨alone, suffix⟩ := sequential
      have was_sequential : Sequential sources i c := ⟨alone, adds.suffix ▸ suffix⟩
      rw [adds.declared] at member
      rcases List.mem_append.mp member with old | new
      · exact scripts.identifiers i c found was_sequential name old
      · exact fits.identifiers was_sequential name new
    · exact scripts.identifiers i d before sequential name member

theorem added_scripts (scripts : Scripts canvases sources) {source : Option Nat}
    (number : c.number = canvases.length) (empty : c.statements = [])
    (named : source = none → c.suffix = toString → isIdentifier c.name = true) :
    Scripts (canvases ++ [c]) (sources ++ [source]) := by
  have cases_of {i : Nat} {d : Canvas} (at_i : (canvases ++ [c])[i]? = some d) :
      i = canvases.length ∧ d = c ∨ i < canvases.length ∧ canvases[i]? = some d := by
    rw [List.getElem?_append] at at_i
    split at at_i
    · rename_i before
      exact Or.inr ⟨before, at_i⟩
    · rename_i late
      obtain ⟨at_end, same⟩ := List.getElem?_eq_some_iff.mp at_i
      simp only [List.length_singleton, Nat.lt_one_iff] at at_end
      exact Or.inl ⟨by omega, by simpa using same.symm⟩
  refine ⟨by simp [scripts.paired], ?_, ?_, ?_⟩
  · intro i d at_i
    rcases cases_of at_i with ⟨rfl, rfl⟩ | ⟨_, before⟩
    · exact number
    · exact scripts.numbers i d before
  · intro i d at_i
    rcases cases_of at_i with ⟨rfl, rfl⟩ | ⟨_, before⟩
    · rw [Canvas.Resolved, empty]
      exact resolved_of_known (by simp)
    · exact scripts.resolved i d before
  · intro i d at_i sequential name member
    rcases cases_of at_i with ⟨rfl, rfl⟩ | ⟨inside, before⟩
    · obtain ⟨shared, suffix⟩ := sequential
      rw [← scripts.paired] at shared
      have alone : source = none := by simpa using shared
      have paper : name = d.name := by simpa [Canvas.declared, empty, declaredBy] using member
      exact paper ▸ named alone suffix
    · obtain ⟨shared, suffix⟩ := sequential
      rw [List.getElem?_append_left (by rw [scripts.paired]; exact inside)] at shared
      exact scripts.identifiers i d before ⟨shared, suffix⟩ name member

theorem declares_set {after : Canvas} {names : List String} {other : Nat}
    (declares : Declares canvases other names) (found : canvases[number]? = some c)
    (adds : Adds c given after) : Declares (canvases.set number after) other names := by
  obtain ⟨d, at_other, all⟩ := declares
  by_cases same : number = other
  · subst other
    cases found.symm.trans at_other
    obtain ⟨bound, _⟩ := List.getElem?_eq_some_iff.mp found
    refine ⟨_, List.getElem?_set_self bound, fun name member => ?_⟩
    rw [adds.declared]
    exact List.mem_append_left _ (all name member)
  · exact ⟨d, by rw [List.getElem?_set_ne same, at_other], all⟩

theorem declares_new {after : Canvas} {names : List String} (found : canvases[number]? = some c)
    (adds : Adds c given after) (new : ∀ name ∈ names, name ∈ c.declared ++ declaredBy given) :
    Declares (canvases.set number after) number names := by
  obtain ⟨bound, _⟩ := List.getElem?_eq_some_iff.mp found
  refine ⟨after, List.getElem?_set_self bound, fun name member => ?_⟩
  rw [adds.declared]
  exact new name member

theorem declares_added {names : List String} {other : Nat}
    (declares : Declares canvases other names) (c : Canvas) :
    Declares (canvases ++ [c]) other names := by
  obtain ⟨d, at_other, all⟩ := declares
  obtain ⟨bound, _⟩ := List.getElem?_eq_some_iff.mp at_other
  exact ⟨d, by rw [List.getElem?_append_left bound, at_other], all⟩

end Scripts

section Handles

structure Held (canvases : List Canvas) (e : Element) : Prop where
  own : Declares canvases e.canvas [e.name]
  box : ∀ b, e.box = some b → b.canvas = e.canvas ∧ Declares canvases b.canvas [b.name, b.element]

/-- What holds while a session is run: scripts use what they have declared, and handles name it. -/
structure Sound (s : Session) : Prop where
  scripts : Scripts s.canvases s.sources
  elements : ∀ handle e, s.element? handle = some e → Held s.canvases e
  boxes : ∀ handle b, s.box? handle = some b → Declares s.canvases b.canvas [b.name, b.element]

theorem Held.mono {before after : List Canvas} {e : Element} (held : Held before e)
    (kept : ∀ number names, Declares before number names → Declares after number names) :
    Held after e :=
  ⟨kept _ _ held.own, fun b box => ⟨(held.box b box).1, kept _ _ (held.box b box).2⟩⟩

namespace Sound
variable {s after : Session} {number : Nat} {c : Canvas} {given : List Statement}

theorem moved (sound : Sound s) (scripts : Scripts after.canvases after.sources)
    (kept : ∀ number names, Declares s.canvases number names → Declares after.canvases number names)
    (same_elements : after.elements = s.elements) (same_boxes : after.boxes = s.boxes) :
    Sound after := by
  refine ⟨scripts, fun handle e found => ?_, fun handle b found => ?_⟩
  · rw [element?, same_elements] at found
    exact (sound.elements handle e found).mono kept
  · rw [box?, same_boxes] at found
    exact kept _ _ (sound.boxes handle b found)

theorem push (sound : Sound s) (found : s.canvases[number]? = some c)
    (fits : Fits s.sources number c given) : Sound (s.pushAll number given) := by
  have adds := Adds.pushed c given
  rw [pushAll_set found]
  exact sound.moved (set_scripts sound.scripts found fits adds)
    (fun _ _ declares => declares_set declares found adds) rfl rfl

theorem keepElement (sound : Sound s) {e : Element} (held : Held s.canvases e) (handle : String) :
    Sound (s.keepElement handle e) := by
  refine ⟨sound.scripts, fun other d found => ?_, sound.boxes⟩
  rw [element?, Session.keepElement, Entries.lookup_insert] at found
  split at found
  · cases found
    exact held
  · exact sound.elements other d found

theorem keepBox (sound : Sound s) {b : Box}
    (declares : Declares s.canvases b.canvas [b.name, b.element]) (handle : String) :
    Sound (s.keepBox handle b) := by
  refine ⟨sound.scripts, sound.elements, fun other d found => ?_⟩
  rw [box?, Session.keepBox, Entries.lookup_insert] at found
  split at found
  · cases found
    exact declares
  · exact sound.boxes other d found

theorem act (sound : Sound s) {name : String} (declares : Declares s.canvases number [name])
    (acts : ∀ st ∈ given, st.ActsOn name) : Sound (s.pushAll number given) := by
  obtain ⟨c, found, declared⟩ := declares
  have known : name ∈ c.declared := declared name List.mem_cons_self
  refine sound.push found ⟨acting_resolved known acts, fun _ name member => ?_⟩
  rw [acting_silent acts] at member
  contradiction

theorem state (sound : Sound s) {st : Statement} {names : List String}
    (declares : Declares s.canvases number names) (uses : ∀ r ∈ st.references, r ∈ names)
    (fresh : ∀ name, st.declared? = some name →
      (∀ used ∈ names, isIdentifier used = true) → isIdentifier name = true) :
    Sound (s.pushAll number [st]) := by
  obtain ⟨c, found, declared⟩ := declares
  refine sound.push found ⟨resolved_of_known ?_, fun sequential name member => ?_⟩
  · intro own member r used
    exact declared r (uses r (List.mem_singleton.mp member ▸ used))
  · have own : st.declared? = some name := by simpa [declaredBy] using member
    exact fresh name own fun used known =>
      sound.scripts.identifiers number c found sequential used (declared used known)

theorem update (sound : Sound s) {b : Box}
    (declares : Declares s.canvases b.canvas [b.name, b.element]) :
    Sound (s.pushAll b.canvas [b.update]) ∧
      Declares (s.pushAll b.canvas [b.update]).canvases b.canvas [b.name, b.element] := by
  obtain ⟨c, found, _⟩ := id declares
  refine ⟨sound.state declares (fun _ used => used) (fun _ own => nomatch own), ?_⟩
  rw [pushAll_set found]
  exact declares_set declares found (Adds.pushed c [b.update])

theorem opened (sound : Sound s) {target : Target} {name : Option String} {suffix : Nat → String}
    {source : Option Nat} (clean : idFaults name = []) (handle : String) :
    Sound (s.withCanvas handle target name suffix source) := by
  obtain ⟨lent_suffix, lent⟩ := lent_suffix s source (Canvas.blank s.canvases.length target suffix)
  obtain ⟨generators, spent⟩ :=
    spent_generators s source (s.opened target name suffix source).drawn
  have number : (s.opened target name suffix source).number = s.canvases.length := by
    rw [Session.opened, lent]
    rfl
  have empty : (s.opened target name suffix source).statements = [] := by
    rw [Session.opened, lent]
    rfl
  have named (alone : source = none)
      (numbers : (s.opened target name suffix source).suffix = toString) :
      isIdentifier (s.opened target name suffix source).name = true := by
    subst alone
    cases name with
    | some name => exact (idFaults_empty_iff (some name)).mp clean name rfl
    | none =>
      have own : suffix = toString := numbers
      subst own
      exact paper_identifier 1
  rw [withCanvas, spent]
  exact sound.moved (added_scripts sound.scripts number empty named)
    (fun _ _ declares => declares_added declares _) rfl rfl

theorem made_identifier {kind : Kind} {id : Option String} (clean : idFaults id = [])
    (sequential : Sequential s.sources number c) :
    isIdentifier ((s.lentAt number c).made kind id).name = true := by
  cases id with
  | some id => exact (idFaults_empty_iff (some id)).mp clean id rfl
  | none =>
    obtain ⟨alone, suffix⟩ := sequential
    have own : s.lentAt number c = c := by
      rw [lentAt, alone]
      rfl
    rw [own, Canvas.made, Canvas.nextName, suffix]
    exact generated_identifier kind (c.drawn + 1)

theorem make (sound : Sound s) {kind : Kind} {a : Attributes} {creation : String → List Statement}
    (found : s.canvases[number]? = some c) (clean : idFaults a.id = [])
    (creates : ∀ name, SceneScript.Resolved c.declared (creation name) ∧
      declaredBy (creation name) = [name]) (handle : String) :
    Sound (s.withElement handle number c kind a creation) := by
  let e := (s.lentAt number c).made kind a.id
  obtain ⟨uses, declares⟩ := creates e.name
  have acts := apply_acts e a
  have all_declared : declaredBy (creation e.name ++ e.apply a) = [e.name] := by
    have silent := acting_silent acts
    rw [declaredBy] at declares silent ⊢
    rw [List.filterMap_append, declares, silent, List.append_nil]
  have fits : Fits s.sources number c (creation e.name ++ e.apply a) := by
    refine ⟨?_, fun sequential name member => ?_⟩
    · rw [resolved_append, declares]
      exact ⟨uses, acting_resolved (List.mem_append_right _ List.mem_cons_self) acts⟩
    · rw [all_declared, List.mem_singleton] at member
      exact member ▸ made_identifier clean sequential
  have adds : Adds c (creation e.name ++ e.apply a)
      (c.extended a.id (creation e.name ++ e.apply a)) := ⟨rfl, rfl, rfl, rfl⟩
  obtain ⟨generators, spent⟩ :=
    spent_generators s s.sources[number]?.join (if a.id.isNone then 1 else 0)
  have grown_sound : Sound (s.grown number c a.id (creation e.name ++ e.apply a)) := by
    rw [grown, spent]
    exact sound.moved (set_scripts sound.scripts found fits adds)
      (fun _ _ declares => declares_set declares found adds) rfl rfl
  have unboxed : ∀ b, e.box ≠ some b := fun b box => Option.some_ne_none b box.symm
  refine grown_sound.keepElement (e := e) ⟨?_, fun b box => absurd box (unboxed b)⟩ handle
  have placed : e.canvas = number := by
    have own : e.canvas = c.number := lentAt_number s number c
    rw [own, sound.scripts.numbers number c found]
  rw [placed, grown, spent]
  refine declares_new found adds fun name member => ?_
  rw [all_declared]
  exact List.mem_append_right _ member

theorem box (sound : Sound s) {element : String} {e : Element}
    (found : s.element? element = some e) {name : String}
    (named : isIdentifier e.name = true → isIdentifier name = true) (handle : String) :
    Sound (s.withBox element handle e name) := by
  obtain ⟨⟨c, at_canvas, declared⟩, _⟩ := sound.elements element e found
  let b : Box := ⟨e.canvas, e.name, name⟩
  have known : e.name ∈ c.declared := declared e.name List.mem_cons_self
  have pushed : Sound (s.pushAll e.canvas [b.declare]) := by
    refine sound.state ⟨c, at_canvas, declared⟩ (fun _ used => used) fun other own known => ?_
    cases own
    exact named (known e.name List.mem_cons_self)
  have all_declared : ∀ names, (∀ other ∈ names, other = name ∨ other = e.name) →
      Declares (s.pushAll e.canvas [b.declare]).canvases e.canvas names := by
    intro names either
    rw [pushAll_set at_canvas]
    refine declares_new at_canvas (Adds.pushed c [b.declare]) fun other member => ?_
    rcases either other member with rfl | rfl
    · exact List.mem_append_right _ (by simp [declaredBy, b, Box.declare, Statement.declared?])
    · exact List.mem_append_left _ known
  have both : Declares (s.pushAll e.canvas [b.declare]).canvases e.canvas [name, e.name] :=
    all_declared _ (by simp)
  refine (pushed.keepElement (e := { e with box := some b }) ⟨all_declared _ (by simp), ?_⟩
    element).keepBox (b := b) both handle
  intro other same
  cases same
  exact ⟨rfl, both⟩

end Sound

end Handles

theorem effect_sound {s after : Session} {op : Op} {answer : Answer} (sound : Sound s)
    (effect : Effect s op answer after) : Sound after := by
  cases effect with
  | missed misses => exact sound
  | canvas clean => exact sound.opened (List.append_eq_nil_iff.mp clean).1 _
  | generator texts => exact ⟨sound.scripts, sound.elements, sound.boxes⟩
  | canvasFrom known clean => exact sound.opened (List.append_eq_nil_iff.mp clean).1 _
  | pushed found =>
    have nothing : Declares s.canvases _ [] := ⟨_, numbered_canvas found, by simp⟩
    exact sound.state nothing (fun _ used => used) (fun _ own => nomatch own)
  | drew draws found clean =>
    exact sound.make (numbered_canvas found) (List.append_eq_nil_iff.mp clean).2
      (fun name => shape_creation List.mem_cons_self name _ _) _
  | @grouped canvas handle members a number c found own clean =>
    have at_number := numbered_canvas found
    have known : ∀ m ∈ (members.filterMap s.element?).map Element.name, m ∈ c.declared := by
      intro name listed
      obtain ⟨m, member, rfl⟩ := List.mem_map.mp listed
      obtain ⟨id, _, held⟩ := List.mem_filterMap.mp member
      obtain ⟨d, at_canvas, declared⟩ := (sound.elements id m held).own
      rw [own m member, sound.scripts.numbers number c at_number] at at_canvas
      cases at_number.symm.trans at_canvas
      exact declared m.name List.mem_cons_self
    refine sound.make at_number clean (fun name => ?_) _
    have paper : c.name ∈ c.declared := List.mem_cons_self
    have creates := set_creation paper known name
    rwa [List.isEmpty_map] at creates
  | @gave op element given e gives found =>
    exact sound.act (sound.elements element e found).own (given_acts gives e)
  | @node element e found =>
    refine sound.state (sound.elements element e found).own (fun _ used => used) ?_
    intro name own known
    cases own
    exact node_identifier (known e.name List.mem_cons_self)
  | boxNamed found clean =>
    exact sound.box found (fun _ => (idFaults_empty_iff _).mp clean _ rfl) _
  | boxFirst asks found none_before => exact sound.box found box_identifier _
  | @boxCached element handle e b found before =>
    exact sound.keepBox ((sound.elements element e found).box b before).2 handle
  | @boxReloaded element handle e b found before =>
    obtain ⟨placed, declares⟩ := (sound.elements element e found).box b before
    rw [← placed]
    obtain ⟨updated, kept⟩ := sound.update declares
    exact updated.keepBox kept handle
  | @boxUpdated box b found => exact (sound.update (sound.boxes box b found)).1
  | @boxField box f b found =>
    refine sound.state (sound.boxes box b found) (fun r used => ?_) fun name own known => ?_
    · exact List.mem_singleton.mp used ▸ List.mem_cons_self
    · cases own
      exact field_identifier (known b.name List.mem_cons_self) f

theorem empty_sound : Sound empty := by
  refine ⟨⟨rfl, ?_, ?_, ?_⟩, ?_, ?_⟩
  iterate 3
    intro number c found
    contradiction
  all_goals
    intro handle held found
    contradiction

/-- Declared before use. After any run of operations, the script of a canvas is the declaration of
    its paper and then its statements, and each of them uses only the paper and variables that
    statements before it have declared: as paper or receiver, as members of a set, as the element
    that is animated or asked for its node or box, as a box, and as the variable that a box is
    measured into again. The text of a statement mentions what it uses and declares. If the suffixes
    of the canvas are the numbers of its own draws, every declared variable is an identifier. -/
theorem declared_before_use (ops : List Op) (number : Nat) (c : Canvas)
    (found : (empty.run ops).2.canvases[number]? = some c) :
    c.script = "\n".intercalate (("var " ++ c.name ++ " = " ++ c.construction ++ ";") ::
      c.statements.map Statement.text) ∧
    (∀ front st back, c.statements = front ++ st :: back →
      (∀ r ∈ st.references, (r = c.name ∨ ∃ earlier ∈ front, earlier.declared? = some r) ∧
        Mentions st.text r) ∧
      ∀ name, st.declared? = some name →
        ∃ expression, st.text = "var " ++ name ++ " = " ++ expression) ∧
    (Sequential (empty.run ops).2.sources number c →
      ∀ name ∈ c.declared, isIdentifier name = true) := by
  have sound : Sound (empty.run ops).2 :=
    run_keeps (fun s op answer after effect sound => effect_sound sound effect) ops empty_sound
  refine ⟨rfl, fun front st back split => ⟨fun r used => ⟨?_, ?_⟩, fun name => ?_⟩,
    sound.scripts.identifiers number c found⟩
  · have resolved := sound.scripts.resolved number c found front st back split r used
    simpa [declaredBy] using resolved
  · exact Statement.references_mentioned used
  · exact Statement.declaration_text

theorem old_box_declared :
    let ops : List Op := [.canvas "c" (.position 0 0 9 9) none toString,
      .draw "c" "x" (.circle 0 0 1) .empty, .bbox "x" "old", .bboxNamed "x" "new" "b",
      .push "c" "b = 1;", .bboxNamed "x" "new" "not valid", .update "old", .reloadBbox "x" "new",
      .field "old" .width, .node "x", .group "c" "s" ["x", "unknown"] .empty]
    ∃ c, (empty.run ops).2.canvases[0]? = some c ∧ Sequential (empty.run ops).2.sources 0 c ∧
      c.statements.map Statement.text = [
        "var rafa_circle_2 = _raphael_canvas_1.circle(0, 0, 1);",
        "var rafa_circle_2_bbox = rafa_circle_2.getBBox();", "var b = rafa_circle_2.getBBox();",
        "b = 1;", "rafa_circle_2_bbox = rafa_circle_2.getBBox();", "b = rafa_circle_2.getBBox();",
        "var rafa_circle_2_bbox_width = rafa_circle_2_bbox.width;",
        "var rafa_circle_2_node = rafa_circle_2.node;", "var rafa_set_3 = _raphael_canvas_1.set();",
        "rafa_set_3.push(rafa_circle_2);"] ∧
      (∀ front st back, c.statements = front ++ st :: back → ∀ r ∈ st.references,
        (r = c.name ∨ ∃ earlier ∈ front, earlier.declared? = some r) ∧ Mentions st.text r) ∧
      ∀ name ∈ c.declared, isIdentifier name = true := by
  intro ops
  obtain ⟨c, found⟩ : ∃ c, (empty.run ops).2.canvases[0]? = some c := ⟨_, rfl⟩
  have sequential : Sequential (empty.run ops).2.sources 0 c := by
    cases found
    exact ⟨rfl, rfl⟩
  obtain ⟨_, resolved, identifiers⟩ := declared_before_use ops 0 c found
  refine ⟨c, found, sequential, ?_, fun front st back split => (resolved front st back split).1,
    identifiers sequential⟩
  cases found
  decide +kernel

end Session

end SceneScript
