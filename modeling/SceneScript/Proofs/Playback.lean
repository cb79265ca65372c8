import Mathlib.Logic.Relation
import SceneScript.Proofs.Chains

/- What a launched chain of animations does on its page. Its text is that of nested function
   expressions; when they are invoked and every animation that was started finishes, in whatever
   order, the animations of the chain have run one after the other, and every callback once. -/
namespace SceneScript

namespace Playback

mutual

/-- A function expression: the source of a body, or calls as its body. -/
inductive Routine where
  | source (body : String)
  | actions (body : List Action)

inductive Action where
  | invoke (f : Routine)
  /-- Starts an animation; the third argument, if there is one, is invoked when it has finished. -/
  | animate (motion : Motion) (finished : Option Routine)

end

mutual

def Routine.text : Routine → String
  | .source body => "(function() \x7b " ++ body ++ " \x7d)"
  | .actions body => "(function() \x7b " ++ Action.statements body ++ " \x7d)"

def Action.text : Action → String
  | .invoke f => f.text ++ "()"
  | .animate m none =>
    m.target ++ ".animate(" ++ m.attributes.script ++ ", " ++ Number.text m.milliseconds ++ ")"
  | .animate m (some f) =>
    m.target ++ ".animate(" ++ m.attributes.script ++ ", " ++ Number.text m.milliseconds ++ ", " ++
      f.text ++ ")"

def Action.statements : List Action → String
  | [] => ""
  | [c] => c.text ++ ";"
  | c :: d :: rest => c.text ++ "; " ++ Action.statements (d :: rest)

end

mutual

def Routine.animations : Routine → List (Motion × Bool)
  | .source _ => []
  | .actions body => Action.allAnimations body

def Action.animations : Action → List (Motion × Bool)
  | .invoke f => f.animations
  | .animate motion none => [(motion, false)]
  | .animate motion (some f) => (motion, true) :: f.animations

def Action.allAnimations : List Action → List (Motion × Bool)
  | [] => []
  | c :: rest => c.animations ++ Action.allAnimations rest

end

inductive Event where
  | started (motion : Motion)
  | finished (motion : Motion)
  | ran (body : String)

def Event.started? : Event → Option Motion
  | started motion => some motion
  | _ => none

def Event.ran? : Event → Option String
  | ran body => some body
  | _ => none

/-- A page at some time: the animations that are running, each with what is invoked when it has
    finished, and what has happened so far. -/
structure Stage where
  running : List (Motion × Option Routine)
  trace : List Event

namespace Stage

mutual

def invoke (s : Stage) : Routine → Stage
  | .source body => { s with trace := s.trace ++ [.ran body] }
  | .actions body => s.performAll body

def perform (s : Stage) : Action → Stage
  | .invoke f => s.invoke f
  | .animate motion finished => ⟨s.running ++ [(motion, finished)], s.trace ++ [.started motion]⟩

def performAll (s : Stage) : List Action → Stage
  | [] => s
  | c :: rest => (s.perform c).performAll rest

end

end Stage

/-- One animation finishes, any of those that are running. -/
inductive Step : Stage → Stage → Prop where
  | finish (front back : List (Motion × Option Routine)) (motion : Motion)
    (finished : Option Routine) (trace : List Event) :
    Step ⟨front ++ (motion, finished) :: back, trace⟩
      (finished.elim ⟨front ++ back, trace ++ [.finished motion]⟩
        (Stage.invoke ⟨front ++ back, trace ++ [.finished motion]⟩))

def Run : Stage → Stage → Prop :=
  Relation.ReflTransGen Step

def withNext {α : Type} : List α → List (α × Option α)
  | [] => []
  | a :: rest => (a, rest.head?) :: withNext rest

end Playback

open Playback

namespace Animation
variable (u : Conversions) (target : String)

def links (a : Animation) : List Link :=
  a.first :: a.rest

def Link.played (l : Link) : Motion :=
  ⟨target, .object l.attributes.entries, u.milliseconds l.seconds⟩

/-- What is invoked when a link has finished: nothing, its callback, or a function that starts the
    next link and then invokes the callback if there is one. -/
def afterwards : Option String → List Link → Option Routine
  | none, [] => none
  | some body, [] => some (.source body)
  | none, l :: rest =>
    some (.actions [.animate (l.played u target) (afterwards l.callback rest)])
  | some body, l :: rest =>
    some (.actions
      [.invoke (.actions [.animate (l.played u target) (afterwards l.callback rest)]),
        .invoke (.source body)])

def linkCall (l : Link) (rest : List Link) : Action :=
  .animate (l.played u target) (afterwards u target l.callback rest)

def program (a : Animation) : Action :=
  .invoke (.actions [linkCall u a.target a.first a.rest])

/-- What happens at the end of a link: the next link starts, and then the callback runs. -/
def Link.ending (l : Link) (next : Option Link) : List Event :=
  .finished (l.played u target) :: (next.map fun n => .started (n.played u target)).toList ++
    (l.callback.map .ran).toList

def events (a : Animation) : List Event :=
  .started (a.first.played u a.target) ::
    (withNext a.links).flatMap fun (l, next) => l.ending u a.target next

end Animation

namespace Playback
variable (u : Conversions)

section Chains
variable (target : String)
open Animation (Link afterwards linkCall chainText)

theorem animate_text (l : Link) (finished : Option Routine) :
    (Action.animate (l.played u target) finished).text =
      l.callText u target (finished.elim "" fun f => ", " ++ f.text) := by
  cases finished with
  | none => exact congrArg (· ++ ")") String.append_empty.symm
  | some f => exact congrArg (· ++ ")") String.append_assoc

theorem link_text (l : Link) (rest : List Link) :
    (linkCall u target l rest).text = chainText u target l rest := by
  induction rest generalizing l with
  | nil =>
    rw [linkCall, animate_text, chainText]
    cases l.callback <;> rfl
  | cons next rest ih =>
    rw [linkCall, animate_text, chainText, ← ih]
    cases l.callback with
    | none =>
      refine congrArg (l.callText u target) (String.toList_inj.mp ?_)
      change (", " ++ ("(function() \x7b " ++ ((linkCall u target next rest).text ++ ";") ++
        " \x7d)")).toList = _
      simp
    | some body =>
      refine congrArg (l.callText u target) (String.toList_inj.mp ?_)
      change (", " ++ ("(function() \x7b " ++ (("(function() \x7b " ++
        ((linkCall u target next rest).text ++ ";") ++ " \x7d)" ++ "()") ++ "; " ++
        (("(function() \x7b " ++ body ++ " \x7d)" ++ "()") ++ ";")) ++ " \x7d)")).toList = _
      simp

theorem program_text (a : Animation) : (a.program u).text ++ ";" = a.launch.text := by
  rw [a.launch_text u, ← link_text]
  apply String.toList_inj.mp
  change ("(function() \x7b " ++ ((linkCall u a.target a.first a.rest).text ++ ";") ++ " \x7d)" ++
    "()" ++ ";").toList = _
  simp

theorem animate_animations (motion : Motion) (finished : Option Routine) :
    (Action.animate motion finished).animations =
      (motion, finished.isSome) :: finished.elim [] Routine.animations := by
  cases finished <;> rfl

theorem link_animations (l : Link) (rest : List Link) :
    (linkCall u target l rest).animations =
      (withNext (l :: rest)).map fun (l, next) =>
        (l.played u target, next.isSome || l.callback.isSome) := by
  induction rest generalizing l with
  | nil =>
    rw [linkCall, animate_animations]
    cases called : l.callback <;> simp [withNext, called, afterwards, Routine.animations]
  | cons next more ih =>
    have third : (afterwards u target l.callback (next :: more)).isSome = true := by
      cases l.callback <;> rfl
    have nested : (afterwards u target l.callback (next :: more)).elim [] Routine.animations =
        (linkCall u target next more).animations := by
      cases l.callback with
      | none => exact List.append_nil _
      | some body => exact (List.append_nil _).trans (List.append_nil _)
    rw [linkCall, animate_animations, third, nested, ih]
    rfl

theorem started_events (l : Link) (rest : List Link) :
    ((withNext (l :: rest)).flatMap fun (l, next) => l.ending u target next).filterMap
      Event.started? = rest.map (Link.played u target) := by
  have own (l : Link) (next : Option Link) :
      (l.ending u target next).filterMap Event.started? =
        (next.map (Link.played u target)).toList := by
    unfold Link.ending
    cases l.callback <;> cases next <;> rfl
  induction rest generalizing l with
  | nil => rw [withNext, List.flatMap_cons, List.filterMap_append, own]; rfl
  | cons next more ih => rw [withNext, List.flatMap_cons, List.filterMap_append, own, ih]; rfl

theorem ran_events (links : List Link) :
    ((withNext links).flatMap fun (l, next) => l.ending u target next).filterMap Event.ran? =
      links.filterMap Link.callback := by
  have own (l : Link) (next : Option Link) :
      (l.ending u target next).filterMap Event.ran? = l.callback.toList := by
    unfold Link.ending
    cases l.callback <;> cases next <;> rfl
  induction links with
  | nil => rfl
  | cons l rest ih =>
    rw [withNext, List.flatMap_cons, List.filterMap_append, own, ih]
    cases called : l.callback <;> simp [called]

end Chains

section Running
open Animation (Link afterwards linkCall)
variable {u : Conversions} {target : String} {l : Link} {rest : List Link} {trace : List Event}

variable (u target) in
def playing (l : Link) (rest : List Link) (trace : List Event) : Stage :=
  ⟨[(l.played u target, afterwards u target l.callback rest)], trace⟩

variable (u target) in
def ended (l : Link) (trace : List Event) : List Link → Stage
  | [] => ⟨[], trace ++ l.ending u target none⟩
  | next :: more => playing u target next more (trace ++ l.ending u target (some next))

theorem ended_invoked : (afterwards u target l.callback rest).elim
      ⟨[], trace ++ [.finished (l.played u target)]⟩
      (Stage.invoke ⟨[], trace ++ [.finished (l.played u target)]⟩) =
    ended u target l trace rest := by
  cases rest <;> cases called : l.callback <;>
    simp [afterwards, Stage.invoke, Stage.performAll, Stage.perform, ended, playing, Link.ending,
      called]

theorem step_alone {motion : Motion} {finished : Option Routine} {s : Stage} :
    Step ⟨[(motion, finished)], trace⟩ s ↔
      s = finished.elim ⟨[], trace ++ [.finished motion]⟩
        (Stage.invoke ⟨[], trace ++ [.finished motion]⟩) := by
  constructor
  · intro step
    generalize same : Stage.mk [(motion, finished)] trace = before at step
    obtain ⟨front, back, other, after, earlier⟩ := step
    injection same with running before
    subst before
    cases front with
    | nil =>
      injection running with first nothing
      cases first
      cases nothing
      rfl
    | cons x front =>
      injection running with _ nothing
      cases front <;> contradiction
  · rintro rfl
    exact .finish [] [] motion finished trace

theorem playing_step {s : Stage} :
    Step (playing u target l rest trace) s ↔ s = ended u target l trace rest := by
  rw [playing, step_alone, ended_invoked]

theorem silent_still {s : Stage} : ¬ Step ⟨[], trace⟩ s := by
  intro step
  generalize same : Stage.mk [] trace = before at step
  obtain ⟨front, back, motion, finished, earlier⟩ := step
  injection same with running _
  cases front <;> contradiction

variable (u target) in
def whole (trace : List Event) (links : List Link) : List Event :=
  trace ++ (withNext links).flatMap fun (l, next) => l.ending u target next

theorem whole_cons (links : List Link) :
    whole u target trace (l :: links) =
      whole u target (trace ++ l.ending u target links.head?) links := by
  rw [whole, whole, withNext, List.flatMap_cons, List.append_assoc]

theorem playing_reaches (l : Link) (rest : List Link) (trace : List Event) :
    Run (playing u target l rest trace) ⟨[], whole u target trace (l :: rest)⟩ := by
  induction rest generalizing l trace with
  | nil =>
    rw [whole_cons, whole, withNext, List.flatMap_nil, List.append_nil]
    exact .single (playing_step.mpr rfl)
  | cons next more ih =>
    rw [whole_cons]
    exact .head (playing_step.mpr rfl) (ih next _)

theorem playing_run (l : Link) (rest : List Link) (trace : List Event)
    {s : Stage} (run : Run (playing u target l rest trace) s) :
    s.trace <+: whole u target trace (l :: rest) ∧
      (s.running = [] → s.trace = whole u target trace (l :: rest)) ∧
      Run s ⟨[], whole u target trace (l :: rest)⟩ := by
  induction rest generalizing l trace with
  | nil =>
    rcases Relation.ReflTransGen.cases_head run with rfl | ⟨t, step, later⟩
    · exact ⟨List.prefix_append _ _, nofun, playing_reaches l [] trace⟩
    · obtain rfl := playing_step.mp step
      have ends : whole u target trace [l] = trace ++ l.ending u target none := by
        rw [whole_cons, whole, withNext, List.flatMap_nil, List.append_nil]
        rfl
      rcases Relation.ReflTransGen.cases_head later with rfl | ⟨_, further, _⟩
      · rw [ends]
        exact ⟨List.prefix_refl _, fun _ => rfl, .refl⟩
      · exact absurd further silent_still
  | cons next more ih =>
    rcases Relation.ReflTransGen.cases_head run with rfl | ⟨t, step, later⟩
    · exact ⟨List.prefix_append _ _, nofun, playing_reaches l (next :: more) trace⟩
    · obtain rfl := playing_step.mp step
      rw [whole_cons]
      exact ih next _ later

theorem playing_stops (l : Link) (rest : List Link) (trace : List Event) :
    Acc (fun after before => Step before after) (playing u target l rest trace) := by
  induction rest generalizing l trace with
  | nil =>
    refine .intro _ fun s step => ?_
    obtain rfl := playing_step.mp step
    exact .intro _ fun t next => absurd next silent_still
  | cons next more ih =>
    refine .intro _ fun s step => ?_
    obtain rfl := playing_step.mp step
    exact ih next _

end Running

/-- A launched chain is printed from a call of nested function expressions. In whatever order the
    animations that it starts on a page finish, the run stops, and it stops with these events: the
    first link starts, and then each link finishes, the next one starts if there is one, and the
    callback runs if there is one. So the links start in order, each once with its own attributes
    and whole milliseconds on the one target, every callback runs once, and a call of `animate` has
    a third argument exactly when a link or a callback follows. -/
theorem launched_chain_plays (u : Conversions) (a : Animation) :
    let start := Stage.perform ⟨[], []⟩ (a.program u)
    let motion (l : Animation.Link) : Motion :=
      ⟨a.target, .object l.attributes.entries, u.milliseconds l.seconds⟩
    a.launch.text = (a.program u).text ++ ";" ∧
    (a.program u).animations = (withNext a.links).map (fun (l, next) =>
      (motion l, next.isSome || l.callback.isSome)) ∧
    Acc (fun after before => Step before after) start ∧
    (∀ s, Run start s → s.trace <+: a.events u ∧ (s.running = [] → s.trace = a.events u) ∧
      Run s ⟨[], a.events u⟩) ∧
    (a.events u).filterMap Event.started? = a.links.map motion ∧
    (a.events u).filterMap Event.ran? = a.links.filterMap Animation.Link.callback := by
  intro start motion
  obtain ⟨target, first, rest⟩ := a
  refine ⟨(program_text u _).symm, ?_, playing_stops first rest _,
    fun s run => playing_run first rest _ run, ?_, ?_⟩
  · exact (List.append_nil _).trans (link_animations u target first rest)
  · exact congrArg (first.played u target :: ·) (started_events u target first rest)
  · exact ran_events u target (first :: rest)

theorem two_links_play :
    let a : Animation := ⟨"e", ⟨0.5, ⟨none, [("r", .number 5), ("fill", .null)]⟩, some "f();"⟩,
      [⟨0.0015, ⟨none, [("path", .text "M0 0")]⟩, none⟩]⟩
    let first : Motion := ⟨"e", .object [("r", .number 5), ("fill", .null)], 500⟩
    let last : Motion := ⟨"e", .object [("path", .text "M0 0")], 2⟩
    ∃ program : Action, a.launch.text = program.text ++ ";" ∧
      program.text ++ ";" = "(function() \x7b " ++
        "e.animate(\x7b\"r\":5,\"fill\":null\x7d, 500, (function() \x7b " ++
          "(function() \x7b e.animate(\x7b\"path\":\"M0 0\"\x7d, 2); \x7d)(); " ++
          "(function() \x7b f(); \x7d)(); \x7d)); \x7d)();" ∧
      program.animations = [(first, true), (last, false)] ∧
      ∀ s, Run (Stage.perform ⟨[], []⟩ program) s → s.running = [] →
        s.trace = [.started first, .finished first, .started last, .ran "f();",
          .finished last] := by
  intro a first last
  have half : (default : Conversions).milliseconds 0.5 = 500 := by decide +kernel
  have short : (default : Conversions).milliseconds 0.0015 = 2 := by decide +kernel
  obtain ⟨printed, calls, _, runs, _⟩ := launched_chain_plays default a
  refine ⟨a.program default, printed, by decide +kernel, ?_, fun s run still => ?_⟩
  · simp [calls, a, Animation.links, withNext, half, short, first, last]
  · rw [(runs s run).2.1 still]
    simp [a, Animation.events, Animation.links, Animation.Link.ending, Animation.Link.played,
      withNext, half, short, first, last]

end Playback

end SceneScript
