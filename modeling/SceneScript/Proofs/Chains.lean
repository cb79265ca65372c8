import SceneScript.Proofs.Conversions

/- The text of a chain of animations, spelled out: each call has the attributes and the whole
   milliseconds of its link, and as third argument the function of what comes after it. -/
namespace SceneScript.Animation
variable (u : Conversions) (target : String)

/-- The call for a link; `third` is what is written behind the milliseconds. -/
def Link.callText (l : Link) (third : String) : String :=
  target ++ ".animate(" ++ (Value.object l.attributes.entries).script ++ ", " ++
    Number.text (u.milliseconds l.seconds) ++ third ++ ")"

/-- The call for a link and, inside of it, the calls for the links that follow. -/
def chainText : Link → List Link → String
  | l, [] =>
    match l.callback with
    | none => l.callText u target ""
    | some body => l.callText u target (", (function() \x7b " ++ body ++ " \x7d)")
  | l, next :: rest =>
    match l.callback with
    | none =>
      l.callText u target (", (function() \x7b " ++ chainText next rest ++ "; \x7d)")
    | some body =>
      l.callText u target (", (function() \x7b (function() \x7b " ++ chainText next rest ++
        "; \x7d)(); (function() \x7b " ++ body ++ " \x7d)(); \x7d)")

theorem call_opens (l : Link) (third : String) :
    ∃ rest, l.callText u target third = target ++ ".animate(" ++ rest :=
  ⟨(Value.object l.attributes.entries).script ++ ", " ++ Number.text (u.milliseconds l.seconds) ++
    third ++ ")", by simp only [Link.callText, String.append_assoc]⟩

theorem chain_opens (l : Link) (links : List Link) :
    ∃ rest, chainText u target l links = target ++ ".animate(" ++ rest := by
  cases links <;> rw [chainText] <;> split <;> exact call_opens u target l _

theorem motion_text (l : Link) (finished : Option String) :
    (l.motion target).text finished = l.callText u target (finished.elim "" (", " ++ ·)) := by
  rw [Link.callText, u.duration]
  cases finished <;> rfl

theorem following_text (l : Link) (rest : List Link) :
    (l.motion target).text (following target l.callback rest).text? =
      chainText u target l rest := by
  induction rest generalizing l with
  | nil =>
    rw [motion_text u, chainText]
    cases l.callback <;> rfl
  | cons next rest ih =>
    rw [motion_text u, chainText]
    cases l.callback
    all_goals
      refine congrArg (l.callText u target) ?_
      simp only [following, Continuation.text?, ih, Option.elim_some]
      unfold functionText
      apply String.toList_inj.mp
      simp

section Forms
variable (a : Animation)

theorem animate_text : a.animate.text = chainText u a.target a.first a.rest ++ ";" :=
  congrArg (· ++ ";") (following_text u a.target a.first a.rest)

theorem launcher_text : launcher a.motion a.continuation =
    "(function() \x7b " ++ chainText u a.target a.first a.rest ++ "; \x7d)" := by
  have call : a.motion.text a.continuation.text? = chainText u a.target a.first a.rest :=
    following_text u a.target a.first a.rest
  rw [launcher, call]
  unfold functionText
  apply String.toList_inj.mp
  simp

theorem launch_text : a.launch.text =
    "(function() \x7b " ++ chainText u a.target a.first a.rest ++ "; \x7d)();" := by
  change launcher a.motion a.continuation ++ "();" = _
  rw [launcher_text u]
  apply String.toList_inj.mp
  simp

theorem cycle_text : a.cycle.text =
    "(function rafa_loop() \x7b (function() \x7b " ++ chainText u a.target a.first a.rest ++
      "; \x7d)(); setTimeout(rafa_loop, " ++ Number.text (u.milliseconds a.first.seconds) ++
      "); \x7d)();" := by
  change "(function " ++ loopName ++ "() \x7b " ++ launcher a.motion a.continuation ++
    "(); setTimeout(" ++ loopName ++ ", " ++ Number.text (milliseconds a.first.seconds) ++
    "); \x7d)();" = _
  rw [launcher_text u, u.duration]
  apply String.toList_inj.mp
  simp [loopName]

end Forms

end SceneScript.Animation
