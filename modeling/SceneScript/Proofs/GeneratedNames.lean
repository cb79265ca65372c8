import SceneScript.Proofs.Subjects
import SceneScript.Uid

/- The names that are generated, for papers and for elements. Names of the caller's are checked, but
   generated ones are not: such a name is an identifier exactly when the text that was drawn for it
   may stand in one. So what a generator gives decides whether scripts declare only identifiers. -/
namespace SceneScript

section Texts

/-- Whether a text may stand in an identifier, after its first character. -/
def Plain (text : String) : Prop :=
  ∀ c ∈ text.toList, Identifier.isPart c = true

theorem identifier_iff_plain {front text : String} (own : isIdentifier front = true)
    (marked : '_' ∈ front.toList) : isIdentifier (front ++ text) = true ↔ Plain text := by
  constructor
  · intro valid c member
    obtain ⟨_, rest, chars, _, _⟩ := identifier_parts own
    obtain ⟨_, more, whole, _, parts⟩ := identifier_parts valid
    rw [String.toList_append, chars, List.cons_append] at whole
    obtain ⟨_, rfl⟩ := List.cons.inj whole
    exact parts c (List.mem_append_right _ member)
  · intro plain
    exact identifier_extended own (List.all_eq_true.mpr plain) (.inl marked)

theorem plain_append {text more : String} : Plain (text ++ more) ↔ Plain text ∧ Plain more := by
  simp only [Plain, String.toList_append, List.mem_append, or_imp, forall_and]

theorem seconds_plain_iff (seconds : Int) : Plain (toString seconds) ↔ 0 ≤ seconds := by
  cases seconds with
  | ofNat n =>
    constructor
    · intro _
      exact Int.natCast_nonneg n
    · intro _
      exact number_parts n
  | negSucc n =>
    constructor
    · intro plain
      have signed : Plain ("-" ++ toString (n + 1)) := plain
      obtain ⟨sign, _⟩ := plain_append.mp signed
      exact absurd (sign '-' (by decide)) (by decide)
    · intro positive
      exact absurd positive (by omega)

theorem hexDigit_part : ∀ n < 16, Identifier.isPart (Text.hexDigit n) = true := by
  decide

namespace Uid

theorem uuidText_plain (bits : BitVec 128) : Plain (uuidText bits) := by
  intro c member
  rw [uuidText, String.toList_ofList] at member
  obtain ⟨place, _, rfl⟩ := List.mem_map.mp member
  unfold uuidDigit
  dsimp only
  split
  · decide
  · split
    · exact hexDigit_part _ (by omega)
    · exact hexDigit_part _ (by omega)

theorem suffix_plain (ambient : Ambient) (n : Nat) :
    Plain (Strategy.sequential.suffix ambient n) ∧ Plain (Strategy.uuid.suffix ambient n) ∧
      (Plain (Strategy.timestamp.suffix ambient n) ↔ 0 ≤ ambient.seconds n) := by
  refine ⟨number_parts n, uuidText_plain _, ?_⟩
  have underscore : Plain "_" := by
    intro c member
    obtain rfl : c = '_' := List.mem_singleton.mp member
    decide
  rw [Strategy.suffix, plain_append, plain_append, seconds_plain_iff]
  constructor
  · rintro ⟨⟨positive, _⟩, _⟩
    exact positive
  · intro positive
    exact ⟨⟨positive, underscore⟩, number_parts _⟩

end Uid

end Texts

def Generator.Gave (g : Generator) (text : String) : Prop :=
  ∃ i < g.drawn, text = g.texts (i + 1)

theorem gave_more (texts : Nat → String) (drawn : Nat) (fresh : Bool) (text : String) :
    (Generator.mk texts (drawn + if fresh then 1 else 0)).Gave text ↔
      (Generator.mk texts drawn).Gave text ∨ fresh = true ∧ text = texts (drawn + 1) := by
  cases fresh with
  | false => simp [Generator.Gave]
  | true =>
    constructor
    · rintro ⟨i, inside, same⟩
      rcases Nat.lt_succ_iff_lt_or_eq.mp inside with earlier | rfl
      · exact Or.inl ⟨i, earlier, same⟩
      · exact Or.inr ⟨rfl, same⟩
    · rintro (⟨i, inside, same⟩ | ⟨_, same⟩)
      · exact ⟨i, Nat.lt_succ_of_lt inside, same⟩
      · exact ⟨drawn, Nat.lt_succ_self drawn, same⟩

namespace Session

def Op.opensUnnamed : Op → Bool
  | .canvas _ _ name _ | .canvasFrom _ _ name _ => name.isNone
  | _ => false

def generated? (op : Op) : Answer → Option String
  | .canvas c => if op.opensUnnamed then some c.name else none
  | .element e => if op.makesUnnamed then some e.name else none
  | _ => none

def generated (s : Session) (ops : List Op) : List String :=
  s.collect generated? ops

def Drawn (s : Session) (text : String) : Prop :=
  (∃ (place : Nat) (g : Generator), s.generators[place]? = some g ∧ g.Gave text) ∨
    ∃ (number : Nat) (c : Canvas), s.canvases[number]? = some c ∧
      s.sources[number]? = some none ∧ (Generator.mk c.suffix c.drawn).Gave text

def Sourced (s : Session) : Prop :=
  ∀ place, some place ∈ s.sources → place < s.generators.length

section Lists
variable {α : Type} {l : List α} {a b : α} {k : Nat} {new : Prop}

theorem some_set (holds : Nat → α → Prop) (found : l[k]? = some a)
    (changed : holds k b ↔ holds k a ∨ new) :
    (∃ i c, (l.set k b)[i]? = some c ∧ holds i c) ↔
      (∃ i c, l[i]? = some c ∧ holds i c) ∨ new := by
  obtain ⟨bound, _⟩ := List.getElem?_eq_some_iff.mp found
  have at_k : (l.set k b)[k]? = some b := List.getElem?_set_self bound
  constructor
  · rintro ⟨i, c, at_i, held⟩
    by_cases here : k = i
    · subst k
      cases at_k.symm.trans at_i
      exact (changed.mp held).imp_left fun before => ⟨i, a, found, before⟩
    · rw [List.getElem?_set_ne here] at at_i
      exact Or.inl ⟨i, c, at_i, held⟩
  · rintro (⟨i, c, at_i, held⟩ | fresh)
    · by_cases here : k = i
      · subst k
        cases found.symm.trans at_i
        exact ⟨i, b, at_k, changed.mpr (Or.inl held)⟩
      · exact ⟨i, c, (List.getElem?_set_ne here).trans at_i, held⟩
    · exact ⟨k, b, at_k, changed.mpr (Or.inr fresh)⟩

theorem some_concat (a : α) {holds before : Nat → α → Prop}
    (same : ∀ i < l.length, ∀ c, holds i c ↔ before i c) :
    (∃ i c, (l ++ [a])[i]? = some c ∧ holds i c) ↔
      (∃ i c, l[i]? = some c ∧ before i c) ∨ holds l.length a := by
  constructor
  · rintro ⟨i, c, at_i, held⟩
    by_cases inside : i < l.length
    · rw [List.getElem?_append_left inside] at at_i
      exact Or.inl ⟨i, c, at_i, (same i inside c).mp held⟩
    · obtain ⟨bound, _⟩ := List.getElem?_eq_some_iff.mp at_i
      rw [List.length_append, List.length_singleton] at bound
      obtain rfl : i = l.length := by omega
      rw [List.getElem?_concat_length] at at_i
      cases at_i
      exact Or.inr held
  · rintro (⟨i, c, at_i, held⟩ | fresh)
    · obtain ⟨inside, _⟩ := List.getElem?_eq_some_iff.mp at_i
      exact ⟨i, c, (List.getElem?_append_left inside).trans at_i, (same i inside c).mpr held⟩
    · exact ⟨l.length, a, List.getElem?_concat_length, fresh⟩

end Lists

section Drawing
variable {s after : Session} {op : Op} {answer : Answer} {number place : Nat} {c : Canvas}
  {g : Generator} {given : List Statement} {text : String}

theorem spent_gave (known : s.generators[place]? = some g) (fresh : Bool) (text : String) :
    (∃ (i : Nat) (h : Generator),
        (s.spent (some place) (if fresh then 1 else 0)).generators[i]? = some h ∧ h.Gave text) ↔
      (∃ (i : Nat) (h : Generator), s.generators[i]? = some h ∧ h.Gave text) ∨
        fresh = true ∧ text = g.texts (g.drawn + 1) := by
  have changed := gave_more g.texts g.drawn fresh text
  rw [spent, List.modify_eq_set_getElem?, known]
  exact some_set (fun _ h => h.Gave text) known changed

theorem lent_next (known : s.generators[place]? = some g) (c : Canvas) :
    (s.lent (some place) c).suffix (c.drawn + 1) = g.texts (g.drawn + 1) := by
  simp [lent, known]

theorem grown_drawn (sound : Sound s) (sourced : Sourced s)
    (found : s.canvases[number]? = some c) (id : Option String) (given : List Statement) :
    (s.grown number c id given).Drawn text ↔
      s.Drawn text ∨ id.isNone = true ∧ text = (s.lentAt number c).suffix (c.drawn + 1) := by
  obtain ⟨inside, _⟩ := List.getElem?_eq_some_iff.mp found
  rw [← sound.scripts.paired] at inside
  obtain ⟨source, at_number⟩ : ∃ source, s.sources[number]? = some source :=
    ⟨_, List.getElem?_eq_getElem inside⟩
  let holds (i : Nat) (d : Canvas) : Prop :=
    s.sources[i]? = some none ∧ (Generator.mk d.suffix d.drawn).Gave text
  cases source with
  | none =>
    have changed : holds number (c.extended id given) ↔
        holds number c ∨ id.isNone = true ∧ text = c.suffix (c.drawn + 1) := by
      simp only [holds, at_number, true_and]
      exact gave_more c.suffix c.drawn id.isNone text
    have canvases := some_set holds found changed
    rw [lentAt_own at_number]
    simp only [Drawn, grown, at_number, Option.join_some, spent]
    exact (or_congr_right canvases).trans or_assoc.symm
  | some place =>
    obtain ⟨g, known⟩ : ∃ g, s.generators[place]? = some g :=
      ⟨_, List.getElem?_eq_getElem (sourced place (List.mem_of_getElem? at_number))⟩
    have changed : holds number (c.extended id given) ↔ holds number c ∨ False := by
      simp only [holds, at_number, Option.some.injEq, reduceCtorEq, false_and, or_self]
    have canvases := some_set holds found changed
    rw [or_false] at canvases
    have generators := spent_gave known id.isNone text
    rw [lentAt, at_number, Option.join_some, lent_next known]
    simp only [Drawn, grown, at_number, Option.join_some]
    exact (or_congr generators canvases).trans or_right_comm

theorem opened_drawn (sound : Sound s) {handle : String} {target : Target} {name : Option String}
    {suffix : Nat → String} {source : Option Nat}
    (known : ∀ place, source = some place → ∃ g, s.generators[place]? = some g) :
    (s.withCanvas handle target name suffix source).Drawn text ↔
      s.Drawn text ∨ name.isNone = true ∧
        text = (s.lent source (Canvas.blank s.canvases.length target suffix)).suffix 1 := by
  let c := s.opened target name suffix source
  have drawn : c.drawn = if name.isNone then 1 else 0 := by
    obtain ⟨_, lent⟩ := lent_suffix s source (Canvas.blank s.canvases.length target suffix)
    simp only [c, opened, Canvas.started, lent]
    exact Nat.zero_add _
  let before (i : Nat) (d : Canvas) : Prop :=
    s.sources[i]? = some none ∧ (Generator.mk d.suffix d.drawn).Gave text
  let holds (i : Nat) (d : Canvas) : Prop :=
    (s.sources ++ [source])[i]? = some none ∧ (Generator.mk d.suffix d.drawn).Gave text
  have same : ∀ i < s.canvases.length, ∀ d, holds i d ↔ before i d := by
    intro i inside d
    simp only [holds, before]
    rw [List.getElem?_append_left (by rw [sound.scripts.paired]; exact inside)]
  have canvases := some_concat c same
  have last : (s.sources ++ [source])[s.canvases.length]? = some source := by
    rw [← sound.scripts.paired]
    exact List.getElem?_concat_length
  cases source with
  | none =>
    have own : holds s.canvases.length c ↔ name.isNone = true ∧ text = suffix 1 := by
      have more := gave_more suffix 0 name.isNone text
      rw [Nat.zero_add] at more
      simp only [holds, last, true_and, drawn]
      refine more.trans ⟨fun either => either.resolve_left ?_, Or.inr⟩
      rintro ⟨i, inside, _⟩
      exact Nat.not_lt_zero i inside
    rw [own] at canvases
    simp only [Drawn, withCanvas, keepCanvas, spent]
    exact (or_congr_right canvases).trans or_assoc.symm
  | some place =>
    obtain ⟨g, at_place⟩ := known place rfl
    have shared : ¬ holds s.canvases.length c := by
      simp only [holds, last, Option.some.injEq, reduceCtorEq, false_and, not_false_eq_true]
    rw [or_iff_left shared] at canvases
    have generators := spent_gave at_place name.isNone text
    have next := lent_next at_place (Canvas.blank s.canvases.length target suffix)
    rw [← drawn] at generators
    rw [Canvas.blank, Nat.zero_add] at next
    rw [Canvas.blank, next]
    simp only [Drawn, withCanvas, keepCanvas]
    exact (or_congr generators canvases).trans or_right_comm

theorem pushed_drawn (same : after.canvases = (s.pushAll number given).canvases)
    (sources : after.sources = s.sources) (generators : after.generators = s.generators) :
    after.Drawn text ↔ s.Drawn text := by
  rw [Drawn, Drawn, same, sources, generators, pushAll]
  refine or_congr_right (exists_congr fun i => ?_)
  rw [List.getElem?_modify]
  cases s.canvases[i]? with
  | none => simp
  | some d =>
    by_cases here : number = i
    · simp [here, Canvas.pushAll]
    · simp [here]

/-- Whether one text more was drawn and a generated name ends in it, or neither. -/
def Spends (s after : Session) (name : Option String) : Prop :=
  name = none ∧ (∀ text, after.Drawn text ↔ s.Drawn text) ∨
    ∃ front next, isIdentifier front = true ∧ '_' ∈ front.toList ∧ name = some (front ++ next) ∧
      ∀ text, after.Drawn text ↔ s.Drawn text ∨ text = next

theorem spends_next (front : String) {next : String} {fresh : Bool} {name : Option String}
    (own : isIdentifier front = true) (marked : '_' ∈ front.toList)
    (named : name = if fresh then some (front ++ next) else none)
    (drawn : ∀ text, after.Drawn text ↔ s.Drawn text ∨ fresh = true ∧ text = next) :
    Spends s after name := by
  cases fresh with
  | false => exact Or.inl ⟨named, fun text => (drawn text).trans (by simp)⟩
  | true => exact Or.inr ⟨front, next, own, marked, named, fun text => (drawn text).trans (by simp)⟩

theorem effect_spends (sound : Sound s) (sourced : Sourced s) (effect : Effect s op answer after) :
    Spends s after (generated? op answer) := by
  have opened {handle : String} {target : Target} {name : Option String} {suffix : Nat → String}
      {source : Option Nat}
      (known : ∀ place, source = some place → ∃ g, s.generators[place]? = some g)
      (opens : op.opensUnnamed = name.isNone) :
      Spends s (s.withCanvas handle target name suffix source)
        (generated? op (.canvas (s.opened target name suffix source))) := by
    obtain ⟨_, lent⟩ := lent_suffix s source (Canvas.blank s.canvases.length target suffix)
    refine spends_next "_raphael_canvas_" (by decide) (by decide) ?_
      fun text => opened_drawn sound known
    rw [generated?, opens]
    cases name with
    | some name => rfl
    | none =>
      rw [Session.opened, lent]
      rfl
  have made {handle : String} {k : Nat} {d : Canvas} {kind : Kind} {a : Attributes}
      {creation : String → List Statement} (at_k : s.canvases[k]? = some d)
      (makes : op.makesUnnamed = a.id.isNone) :
      Spends s (s.withElement handle k d kind a creation)
        (generated? op (.element ((s.lentAt k d).made kind a.id))) := by
    obtain ⟨_, lent⟩ := lentAt_fields s k d
    refine spends_next ("rafa_" ++ kind.name ++ "_") ?_ ?_ ?_
      fun text => grown_drawn sound sourced at_k a.id _
    · cases kind <;> decide
    · cases kind <;> decide
    · rw [generated?, makes]
      cases id : a.id with
      | some id => rfl
      | none =>
        rw [lent]
        rfl
  cases effect with
  | missed misses => exact Or.inl ⟨rfl, fun text => Iff.rfl⟩
  | canvas clean =>
    refine opened (fun place shared => ?_) rfl
    contradiction
  | generator texts =>
    refine Or.inl ⟨rfl, fun text => or_congr_left ?_⟩
    refine (some_concat _ fun _ _ _ => Iff.rfl).trans (or_iff_left ?_)
    rintro ⟨i, inside, _⟩
    exact Nat.not_lt_zero i inside
  | canvasFrom known clean =>
    refine opened (fun place shared => ?_) rfl
    cases shared
    exact ⟨_, known⟩
  | drew draws found clean => exact made (numbered_canvas found) (draws_subject draws found).2
  | grouped found own clean => exact made (numbered_canvas found) rfl
  | boxCached found before => exact Or.inl ⟨rfl, fun text => Iff.rfl⟩
  | _ => exact Or.inl ⟨rfl, fun text => pushed_drawn rfl rfl rfl⟩

theorem effect_sourced (sourced : Sourced s) (effect : Effect s op answer after) :
    Sourced after := by
  have spent (source : Option Nat) (draws : Nat) : (s.spent source draws).sources = s.sources ∧
      (s.spent source draws).generators.length = s.generators.length := by
    cases source with
    | none => exact ⟨rfl, rfl⟩
    | some place => exact ⟨rfl, List.length_modify _ _ _⟩
  have kept {later : Session} (sources : later.sources = s.sources)
      (more : s.generators.length ≤ later.generators.length) : Sourced later := by
    intro place member
    rw [sources] at member
    exact Nat.lt_of_lt_of_le (sourced place member) more
  have opened {handle : String} {target : Target} {name : Option String} {suffix : Nat → String}
      {source : Option Nat} (known : ∀ place, source = some place → place < s.generators.length) :
      Sourced (s.withCanvas handle target name suffix source) := by
    obtain ⟨sources, generators⟩ := spent source (s.opened target name suffix source).drawn
    intro place member
    simp only [withCanvas, keepCanvas, sources, generators] at member ⊢
    rcases List.mem_append.mp member with before | last
    · exact sourced place before
    · exact known place (List.mem_singleton.mp last).symm
  have made {source : Option Nat} {draws : Nat} {later : Session}
      (sources : later.sources = (s.spent source draws).sources)
      (generators : later.generators = (s.spent source draws).generators) : Sourced later := by
    obtain ⟨same, length⟩ := spent source draws
    refine kept (sources.trans same) (Nat.le_of_eq ?_)
    rw [generators, length]
  cases effect with
  | canvas clean =>
    refine opened fun place shared => ?_
    contradiction
  | generator texts => exact kept rfl (by simp)
  | canvasFrom known clean =>
    refine opened fun place shared => ?_
    cases shared
    exact (List.getElem?_eq_some_iff.mp known).1
  | drew draws found clean => exact made rfl rfl
  | grouped found own clean => exact made rfl rfl
  | _ => exact sourced

end Drawing

section Declaring
variable {s after : Session} {op : Op} {answer : Answer} {canvases : List Canvas} {number : Nat}
  {c : Canvas} {given : List Statement}

def Identifiers (canvases : List Canvas) : Prop :=
  ∀ c ∈ canvases, ∀ name ∈ c.declared, isIdentifier name = true

theorem identifiers_set {d : Canvas} (all : Identifiers canvases)
    (found : canvases[number]? = some c) (adds : Adds c given d)
    (new : ∀ name ∈ declaredBy given, isIdentifier name = true) :
    Identifiers (canvases.set number d) := by
  intro own member name declared
  rcases List.mem_or_eq_of_mem_set member with before | rfl
  · exact all own before name declared
  · rw [adds.declared] at declared
    rcases List.mem_append.mp declared with old | fresh
    · exact all c (List.mem_of_getElem? found) name old
    · exact new name fresh

theorem identifiers_opened {target : Target} {name : Option String} {suffix : Nat → String}
    {source : Option Nat} (all : Identifiers s.canvases) (clean : idFaults name = [])
    (fresh : name.isNone = true → isIdentifier (s.opened target name suffix source).name = true) :
    Identifiers (s.canvases ++ [s.opened target name suffix source]) := by
  have paper : isIdentifier (s.opened target name suffix source).name = true := by
    cases name with
    | none => exact fresh rfl
    | some name => exact (idFaults_empty_iff (some name)).mp clean name rfl
  intro c member name declared
  rcases List.mem_append.mp member with before | last
  · exact all c before name declared
  · rw [List.mem_singleton.mp last, Canvas.declared, opened_statements] at declared
    exact List.mem_singleton.mp declared ▸ paper

theorem identifiers_made {kind : Kind} {a : Attributes} {handle : String}
    {creation : String → List Statement} (all : Identifiers s.canvases)
    (found : s.canvases[number]? = some c) (clean : idFaults a.id = [])
    (creates : ∀ name, declaredBy (creation name) = [name])
    (fresh : a.id.isNone = true → isIdentifier ((s.lentAt number c).made kind a.id).name = true) :
    Identifiers (s.withElement handle number c kind a creation).canvases := by
  let e := (s.lentAt number c).made kind a.id
  have named : isIdentifier e.name = true := by
    cases own : a.id with
    | none => exact fresh (by rw [own]; rfl)
    | some id =>
      have same : e.name = id := by simp only [e, Canvas.made, own, Canvas.nextName]
      rw [same]
      exact (idFaults_empty_iff a.id).mp clean id own
  have declares : declaredBy (creation e.name ++ e.apply a) = [e.name] := by
    have silent := acting_silent (apply_acts e a)
    have created := creates e.name
    rw [declaredBy] at created silent ⊢
    rw [List.filterMap_append, created, silent, List.append_nil]
  have adds : Adds c (creation e.name ++ e.apply a)
      (c.extended a.id (creation e.name ++ e.apply a)) := ⟨rfl, rfl, rfl, rfl⟩
  refine identifiers_set all found adds fun name member => ?_
  rw [declares] at member
  exact List.mem_singleton.mp member ▸ named

theorem identifiers_state {names : List String} (all : Identifiers s.canvases)
    (declares : Declares s.canvases number names)
    (new : (∀ used ∈ names, isIdentifier used = true) →
      ∀ name ∈ declaredBy given, isIdentifier name = true) :
    Identifiers (s.pushAll number given).canvases := by
  obtain ⟨c, found, declared⟩ := declares
  rw [pushAll_set found]
  refine identifiers_set all found (Adds.pushed c given) (new fun used member => ?_)
  exact all c (List.mem_of_getElem? found) used (declared used member)

theorem generated_declared (sound : Sound s) (effect : Effect s op answer after) {name : String}
    (generated : generated? op answer = some name) : ∃ c ∈ after.canvases, name ∈ c.declared := by
  have later := effect_sound sound effect
  have opened {c : Canvas} (there : after.canvases = s.canvases ++ [c])
      (own : generated? op (.canvas c) = some name) : ∃ c ∈ after.canvases, name ∈ c.declared := by
    obtain ⟨_, paper⟩ := Option.ite_none_right_eq_some.mp own
    refine ⟨c, ?_, Option.some.inj paper ▸ List.mem_cons_self⟩
    rw [there]
    exact List.mem_concat_self
  have made {handle : String} {e : Element} (there : after.element? handle = some e)
      (own : generated? op (.element e) = some name) : ∃ c ∈ after.canvases, name ∈ c.declared := by
    obtain ⟨_, same⟩ := Option.ite_none_right_eq_some.mp own
    obtain ⟨c, at_canvas, declared⟩ := (later.elements handle e there).own
    exact ⟨c, List.mem_of_getElem? at_canvas, declared name (by simp [Option.some.inj same])⟩
  have kept (t : Session) (handle : String) (e : Element) :
      (t.keepElement handle e).element? handle = some e := by
    rw [element?, keepElement, Entries.lookup_insert, if_pos rfl]
  cases effect with
  | canvas clean => exact opened rfl generated
  | canvasFrom known clean => exact opened rfl generated
  | drew draws found clean => exact made (kept _ _ _) generated
  | grouped found own clean => exact made (kept _ _ _) generated
  | _ => contradiction

theorem effect_identifiers (sound : Sound s) (effect : Effect s op answer after) :
    Identifiers after.canvases ↔ Identifiers s.canvases ∧
      ∀ name, generated? op answer = some name → isIdentifier name = true := by
  constructor
  · intro all
    refine ⟨fun c member name declared => ?_, fun name generated => ?_⟩
    · obtain ⟨number, found⟩ := List.mem_iff_getElem?.mp member
      obtain ⟨given, later, _⟩ := effect_grows effect found
      refine all _ (List.mem_of_getElem? later) name ?_
      rw [Canvas.declared, declaredBy, List.filterMap_append, ← List.cons_append]
      exact List.mem_append_left _ declared
    · obtain ⟨c, member, declared⟩ := generated_declared sound effect generated
      exact all c member name declared
  · rintro ⟨all, fresh⟩
    have single (st : Statement) {names : List String} {k : Nat}
        (declares : Declares s.canvases k names)
        (new : (∀ used ∈ names, isIdentifier used = true) →
          ∀ name, st.declared? = some name → isIdentifier name = true) :
        Identifiers (s.pushAll k [st]).canvases := by
      refine identifiers_state all declares fun known name member => new known name ?_
      obtain ⟨_, listed, declared⟩ := List.mem_filterMap.mp member
      exact List.mem_singleton.mp listed ▸ declared
    cases effect with
    | missed misses => exact all
    | canvas clean =>
      exact identifiers_opened all (List.append_eq_nil_iff.mp clean).1 fun unnamed =>
        fresh _ (if_pos unnamed)
    | generator texts => exact all
    | canvasFrom known clean =>
      exact identifiers_opened all (List.append_eq_nil_iff.mp clean).1 fun unnamed =>
        fresh _ (if_pos unnamed)
    | pushed found =>
      have nothing : Declares s.canvases _ [] := ⟨_, numbered_canvas found, by simp⟩
      refine single _ nothing fun _ name own => ?_
      contradiction
    | drew draws found clean =>
      exact identifiers_made all (numbered_canvas found) (List.append_eq_nil_iff.mp clean).2
        (fun _ => rfl) fun unnamed => fresh _ (if_pos ((draws_subject draws found).2.trans unnamed))
    | grouped found own clean =>
      refine identifiers_made all (numbered_canvas found) clean (fun name => ?_) fun unnamed =>
        fresh _ (if_pos unnamed)
      split <;> rfl
    | @gave op element given e gives found =>
      refine identifiers_state all (sound.elements element e found).own fun _ name member => ?_
      rw [acting_silent (given_acts gives e)] at member
      contradiction
    | @node element e found =>
      refine single _ (sound.elements element e found).own fun known name own => ?_
      cases own
      exact node_identifier (known e.name List.mem_cons_self)
    | @boxNamed element handle name e found clean =>
      refine single (.measure false name e.name)
        (sound.elements element e found).own fun known name own => ?_
      cases own
      exact (idFaults_empty_iff _).mp clean _ rfl
    | @boxFirst op element handle e asks found none_before =>
      refine single (.measure false (e.name ++ "_bbox") e.name)
        (sound.elements element e found).own fun known name own => ?_
      cases own
      exact box_identifier (known e.name List.mem_cons_self)
    | boxCached found before => exact all
    | @boxReloaded element handle e b found before =>
      refine single _ (sound.elements element e found).own fun _ name own => ?_
      contradiction
    | @boxUpdated box b found =>
      refine single _ (sound.boxes box b found) fun _ name own => ?_
      contradiction
    | @boxField box f b found =>
      refine single _ (sound.boxes box b found) fun known name own => ?_
      cases own
      exact field_identifier (known b.name List.mem_cons_self) f

end Declaring

section Running
variable {s : Session}

theorem run_generated (holds : Session → Prop)
    (step : ∀ s op answer after, Sound s → Sourced s → Effect s op answer after →
      (holds after ↔ holds s ∧
        ∀ name, generated? op answer = some name → isIdentifier name = true))
    (sound : Sound s) (sourced : Sourced s) (ops : List Op) :
    holds (s.run ops).2 ↔ holds s ∧ ∀ name ∈ s.generated ops, isIdentifier name = true := by
  induction ops generalizing s with
  | nil =>
    refine (and_iff_left fun name member => ?_).symm
    contradiction
  | cons op rest ih =>
    rcases collect_cons generated? s op rest with
      ⟨left, same⟩ | ⟨answer, after, effect, left, split⟩
    · rw [left, generated, same]
      exact ih sound sourced
    · have names : s.generated (op :: rest) =
          (generated? op answer).toList ++ after.generated rest := split
      rw [left, ih (effect_sound sound effect) (effect_sourced sourced effect),
        step s op answer after sound sourced effect, names, and_assoc]
      simp only [List.mem_append, Option.mem_toList, or_imp, forall_and]

theorem effect_plain {op : Op} {answer : Answer} {after : Session} (sound : Sound s)
    (sourced : Sourced s) (effect : Effect s op answer after) :
    (∀ text, after.Drawn text → Plain text) ↔ (∀ text, s.Drawn text → Plain text) ∧
      ∀ name, generated? op answer = some name → isIdentifier name = true := by
  rcases effect_spends sound sourced effect with
    ⟨unnamed, same⟩ | ⟨front, next, own, marked, named, more⟩
  · rw [unnamed]
    simp only [same, reduceCtorEq, false_imp_iff, implies_true, and_true]
  · rw [named]
    simp only [more, or_imp, forall_and, forall_eq, Option.some.injEq, forall_eq',
      identifier_iff_plain own marked]

/-- Generated names are never checked. In any run they are all identifiers, and so are all the
    variables that its scripts declare, exactly when all the texts that were drawn for names, from
    shared generators or others, have nothing but the characters of identifiers. -/
theorem generated_identifiers_iff (ops : List Op) :
    let s := (empty.run ops).2
    ((∀ name ∈ empty.generated ops, isIdentifier name = true) ↔
      ∀ text, s.Drawn text → Plain text) ∧
    ((∀ c ∈ s.canvases, ∀ name ∈ c.declared, isIdentifier name = true) ↔
      ∀ text, s.Drawn text → Plain text) ∧
    ∀ ambient n, Plain (Uid.Strategy.sequential.suffix ambient n) ∧
      Plain (Uid.Strategy.uuid.suffix ambient n) ∧
      (Plain (Uid.Strategy.timestamp.suffix ambient n) ↔ 0 ≤ ambient.seconds n) := by
  intro s
  have sourced : Sourced empty := by
    intro place member
    contradiction
  have drawn := run_generated _ (fun _ _ _ _ => effect_plain) empty_sound sourced ops
  have declared := run_generated (fun s => Identifiers s.canvases)
    (fun _ _ _ _ sound _ effect => effect_identifiers sound effect) empty_sound sourced ops
  have undrawn : ∀ text, empty.Drawn text → Plain text := by
    rintro text (⟨place, g, member, _⟩ | ⟨number, c, member, _⟩)
    · contradiction
    · contradiction
  have undeclared : Identifiers empty.canvases := by
    intro c member
    contradiction
  have plain := drawn.trans (and_iff_right undrawn)
  have identifiers := declared.trans (and_iff_right undeclared)
  exact ⟨plain.symm, identifiers.trans plain.symm, Uid.suffix_plain⟩

theorem blank_in_name :
    let texts := fun n => if n = 1 then "1" else "not valid"
    let uids := (Uid.Strategy.custom texts).suffix ⟨fun _ => 0, fun _ => 0, fun _ => 0⟩
    let ops : List Op := [.canvas "c" (.position 0 0 9 9) none uids,
      .draw "c" "x" (.circle 0 0 1) .empty]
    (empty.run ops).1.map Except.isOk = [true, true] ∧
    (empty.run ops).2.canvases.map Canvas.script = [
      "var _raphael_canvas_1 = new Raphael(0, 0, 9, 9);\n" ++
        "var rafa_circle_not valid = _raphael_canvas_1.circle(0, 0, 1);"] ∧
    empty.generated ops = ["_raphael_canvas_1", "rafa_circle_not valid"] ∧
    isIdentifier "rafa_circle_not valid" = false := by
  decide +kernel

end Running

end Session

end SceneScript
