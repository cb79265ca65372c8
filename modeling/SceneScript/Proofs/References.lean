import SceneScript.Canvas

/- The variables that statements declare and use, and the one that a statement is about. -/
namespace SceneScript

theorem every_split_cons {α : Type} (holds : List α → α → Prop) (a : α) (rest : List α) :
    (∀ front d back, a :: rest = front ++ d :: back → holds front d) ↔
      holds [] a ∧ ∀ front d back, rest = front ++ d :: back → holds (a :: front) d := by
  constructor
  · intro every
    refine ⟨every [] a rest rfl, fun front d back split => every (a :: front) d back ?_⟩
    rw [split, List.cons_append]
  · rintro ⟨first, later⟩ front d back split
    cases front with
    | nil =>
      injection split with same
      exact same ▸ first
    | cons b front =>
      injection split with same tail
      exact same ▸ later front d back tail

def Continuation.targets : Continuation → List String
  | nothing | run _ => []
  | start motion after | startAndRun motion after _ => motion.target :: after.targets

namespace Statement

def declared? : Statement → Option String
  | create name _ _ _ | node name _ | measure false name _ | field name _ _ => some name
  | _ => none

def references : Statement → List String
  | create _ paper _ _ => [paper]
  | join set members => set :: members
  | call receiver _ _ => [receiver]
  | node _ element => [element]
  | measure false _ element => [element]
  | measure true name element => [name, element]
  | field _ box _ => [box]
  | animate motion after | launch motion after | cycle motion after =>
    motion.target :: after.targets
  | raw _ => []

def ActsOn (name : String) : Statement → Prop
  | call receiver _ _ => receiver = name
  | animate motion after | launch motion after | cycle motion after =>
    ∀ target ∈ motion.target :: after.targets, target = name
  | _ => False

/-- Whether a statement makes an element in the given variable, or acts on that element. -/
def AddressedTo (name : String) : Statement → Prop
  | create own _ _ _ => own = name
  | join set _ => set = name
  | st => st.ActsOn name

theorem declaration_text {st : Statement} {name : String} (declared : st.declared? = some name) :
    ∃ expression, st.text = "var " ++ name ++ " = " ++ expression := by
  cases st with
  | create own paper method arguments =>
    cases declared
    refine ⟨paper ++ "." ++ method ++ "(" ++ Value.scriptArguments arguments ++ ");", ?_⟩
    change "var " ++ name ++ " = " ++ paper ++ "." ++ method ++ "(" ++
      Value.scriptArguments arguments ++ ");" = _
    simp only [String.append_assoc]
  | node own element =>
    cases declared
    exact ⟨element ++ ".node;", String.append_assoc⟩
  | measure again own element =>
    cases again with
    | true => cases declared
    | false =>
      cases declared
      exact ⟨element ++ ".getBBox();", String.append_assoc⟩
  | field own box part =>
    cases declared
    refine ⟨box ++ "." ++ part ++ ";", ?_⟩
    change "var " ++ name ++ " = " ++ box ++ "." ++ part ++ ";" = _
    simp only [String.append_assoc]
  | _ => cases declared

theorem acting_declares {st : Statement} {name : String} (acts : st.ActsOn name) :
    st.declared? = none := by
  cases st <;> first | rfl | exact acts.elim

theorem acting_references {st : Statement} {name : String} (acts : st.ActsOn name) :
    ∀ r ∈ st.references, r = name := by
  cases st with
  | call receiver method arguments => simpa [references, ActsOn] using acts
  | animate motion after => exact acts
  | launch motion after => exact acts
  | cycle motion after => exact acts
  | _ => exact acts.elim

theorem acting_addressed {st : Statement} {name : String} (acts : st.ActsOn name) :
    st.AddressedTo name := by
  cases st <;> first | exact acts | exact acts.elim

end Statement

theorem following_targets (target : String) (callback : Option String)
    (links : List Animation.Link) :
    ∀ t ∈ (Animation.following target callback links).targets, t = target := by
  induction links generalizing callback with
  | nil => cases callback <;> simp [Animation.following, Continuation.targets]
  | cons link rest ih =>
    cases callback <;>
      simpa [Animation.following, Continuation.targets, Animation.Link.motion] using
        ih link.callback

theorem chain_targets (a : Animation) :
    ∀ t ∈ a.motion.target :: a.continuation.targets, t = a.target := by
  intro t member
  rcases List.mem_cons.mp member with first | later
  · exact first
  · exact following_targets a.target a.first.callback a.rest t later

theorem chain_acts {a : Animation} {name : String} (target : a.target = name) :
    a.animate.ActsOn name ∧ a.launch.ActsOn name ∧ a.cycle.ActsOn name := by
  have targets := chain_targets a
  rw [target] at targets
  exact ⟨targets, targets, targets⟩

def declaredBy (ss : List Statement) : List String :=
  ss.filterMap Statement.declared?

/-- Whether statements use known variables and those that a statement before has declared. -/
def Resolved (known : List String) (ss : List Statement) : Prop :=
  ∀ front st back, ss = front ++ st :: back → ∀ r ∈ st.references, r ∈ known ++ declaredBy front

theorem resolved_cons (known : List String) (st : Statement) (rest : List Statement) :
    Resolved known (st :: rest) ↔ (∀ r ∈ st.references, r ∈ known) ∧
      Resolved (known ++ st.declared?.toList) rest := by
  have grown : ∀ front, declaredBy (st :: front) = st.declared?.toList ++ declaredBy front := by
    intro front
    cases declared : st.declared? <;> simp [declaredBy, declared]
  have every := every_split_cons (fun front (st : Statement) =>
    ∀ r ∈ st.references, r ∈ known ++ declaredBy front) st rest
  have nothing : declaredBy [] = [] := rfl
  simpa only [Resolved, grown, nothing, List.append_nil, List.append_assoc] using every

theorem resolved_append (known : List String) (ss more : List Statement) :
    Resolved known (ss ++ more) ↔ Resolved known ss ∧ Resolved (known ++ declaredBy ss) more := by
  induction ss generalizing known with
  | nil => simp [Resolved, declaredBy]
  | cons st rest ih =>
    rw [List.cons_append, resolved_cons, resolved_cons, ih, and_assoc]
    cases declared : st.declared? <;> simp [declaredBy, declared]

theorem resolved_of_known {known : List String} {ss : List Statement}
    (all_known : ∀ st ∈ ss, ∀ r ∈ st.references, r ∈ known) : Resolved known ss := by
  rintro front st back rfl r used
  exact List.mem_append_left _ (all_known st (by simp) r used)

theorem acting_silent {name : String} {ss : List Statement} (acts : ∀ st ∈ ss, st.ActsOn name) :
    declaredBy ss = [] :=
  List.filterMap_eq_nil_iff.mpr fun st member => Statement.acting_declares (acts st member)

theorem acting_resolved {name : String} {known : List String} {ss : List Statement}
    (declared : name ∈ known) (acts : ∀ st ∈ ss, st.ActsOn name) : Resolved known ss :=
  resolved_of_known fun st member _ used =>
    Statement.acting_references (acts st member) _ used ▸ declared

theorem shape_creation {known : List String} {paper : String} (declared : paper ∈ known)
    (name method : String) (arguments : List Value) :
    Resolved known [.create name paper method arguments] ∧
      declaredBy [.create name paper method arguments] = [name] :=
  ⟨resolved_of_known (by simpa [Statement.references] using declared), rfl⟩

theorem set_creation {known members : List String} {paper : String} (declared : paper ∈ known)
    (own : ∀ m ∈ members, m ∈ known) (name : String) :
    Resolved known
        (.create name paper "set" [] :: if members.isEmpty then [] else [.join name members]) ∧
      declaredBy (.create name paper "set" [] ::
        if members.isEmpty then [] else [.join name members]) = [name] := by
  obtain ⟨created, declares⟩ := shape_creation declared name "set" []
  cases members with
  | nil => exact ⟨created, declares⟩
  | cons m rest =>
    refine ⟨(resolved_append known [.create name paper "set" []] _).mpr ⟨created, ?_⟩, rfl⟩
    refine resolved_of_known fun st member r used => ?_
    rw [declares]
    cases List.mem_singleton.mp member
    rcases List.mem_cons.mp used with rfl | inside
    · exact List.mem_append_right _ List.mem_cons_self
    · exact List.mem_append_left _ (own r inside)

namespace Canvas

def declared (c : Canvas) : List String :=
  c.name :: declaredBy c.statements

def Resolved (c : Canvas) : Prop :=
  SceneScript.Resolved [c.name] c.statements

end Canvas

end SceneScript
