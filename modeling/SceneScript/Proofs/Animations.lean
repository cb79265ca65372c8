import SceneScript.Proofs.Attributes
import SceneScript.Proofs.Chains
import SceneScript.Scene.Render

/- The animations of a document are emitted in three ways: by a plain call with a set of attributes,
   and by a function or a loop around a chain that is built step by step. All of them come to the
   one chain that has a link for each animation. -/
namespace SceneScript
open Entries

namespace Animation

theorem run_append (a : Animation) (front back : List Step) :
    a.run (front ++ back) = (a.run front).run back := by
  induction front generalizing a with
  | nil => rfl
  | cons s rest ih => exact ih (a.step s)

theorem run_attributes (a : Animation) (pairs : List (String × Value)) :
    a.run (pairs.map fun (name, value) => .attr name value) = a.attrs pairs := by
  induction pairs generalizing a with
  | nil => rfl
  | cons pair rest ih => exact ih (a.attr pair.1 pair.2)

end Animation

namespace Scene

theorem attributeSet_merged (entries : List (String × Json)) :
    attributeSet entries = ⟨none, merged (Attributes.normalized (valueEntries entries))⟩ :=
  Attributes.insertAll_empty _

def AnimationLink.link (l : AnimationLink) : Animation.Link :=
  ⟨l.seconds, ⟨none, merged (Attributes.normalized (valueEntries l.attributes))⟩, l.callback⟩

namespace AnimationDef

def links (d : AnimationDef) : List AnimationLink :=
  d.first :: d.rest

def chain (d : AnimationDef) (target : String) : Animation :=
  ⟨target, d.first.link, d.rest.map AnimationLink.link⟩

end AnimationDef

theorem attrs_link (target : String) (l : AnimationLink) :
    (Animation.start target l.seconds).attrs (attributeSet l.attributes).entries =
      ⟨target, { l.link with callback := none }, []⟩ := by
  have again : Attributes.empty.insertAll (attributeSet l.attributes).entries =
      l.link.attributes := by
    rw [attributeSet_merged, Attributes.insertAll_empty, ← Attributes.insertAll_entries,
      Attributes.insertAll_merged]
    rfl
  rw [Animation.attrs_inserted]
  exact congrArg (fun attributes => Animation.mk target ⟨l.seconds, attributes, none⟩ []) again

theorem single_link (target : String) (l : AnimationLink) :
    Animation.single target l.seconds (attributeSet l.attributes) l.callback =
      ⟨target, l.link, []⟩ := by
  simp only [Animation.single, attrs_link]
  cases called : l.callback with
  | none => simp only [AnimationLink.link, called]
  | some body => simp only [AnimationLink.link, Animation.onFinish, called]

theorem run_link (target : String) (l : AnimationLink) :
    (Animation.start target l.seconds).run l.steps = ⟨target, l.link, []⟩ := by
  rw [AnimationLink.steps, Animation.run_append, Animation.run_attributes, ← single_link]
  cases l.callback <;> rfl

theorem run_nested (target : String) (l : AnimationLink) (rest : List AnimationLink) :
    (Animation.start target l.seconds).run (nestedSteps l rest) =
      ⟨target, l.link, rest.map AnimationLink.link⟩ := by
  induction rest generalizing l with
  | nil => exact run_link target l
  | cons next more ih =>
    have after : (Animation.mk target l.link []).run [.after next.seconds (nestedSteps next more)] =
        (Animation.mk target l.link []).andThen
          ((Animation.start target next.seconds).run (nestedSteps next more)) := rfl
    rw [nestedSteps, Animation.run_append, run_link, after, ih]
    rfl

theorem built_chain (d : AnimationDef) (target : String) : d.built target = d.chain target :=
  run_nested target d.first d.rest

theorem statement_chain (d : AnimationDef) (target : String) :
    d.statement target =
      if d.first.loops then (d.chain target).cycle
      else if d.rest.isEmpty then (d.chain target).animate
      else (d.chain target).launch := by
  rw [AnimationDef.statement, built_chain, single_link]
  split
  · rfl
  · split
    · rename_i last
      rw [AnimationDef.chain, List.isEmpty_iff.mp last]
      rfl
    · rfl

/-- The one line that an animation is written as: a loop if it repeats, else a function that is
    called at once if others follow, else a plain call. -/
def AnimationDef.line (u : Conversions) (target : String) (d : AnimationDef) : String :=
  let call := Animation.chainText u target d.first.link (d.rest.map AnimationLink.link)
  match d.first.loops, d.rest with
  | true, _ =>
    "(function rafa_loop() \x7b (function() \x7b " ++ call ++ "; \x7d)(); setTimeout(rafa_loop, " ++
      Number.text (u.milliseconds d.first.seconds) ++ "); \x7d)();"
  | false, [] => call ++ ";"
  | false, _ :: _ => "(function() \x7b " ++ call ++ "; \x7d)();"

theorem statement_line (u : Conversions) (d : AnimationDef) (target : String) :
    (d.statement target).text = d.line u target := by
  obtain ⟨⟨seconds, attributes, callback, loops⟩, rest⟩ := d
  let a := AnimationDef.chain ⟨⟨seconds, attributes, callback, loops⟩, rest⟩ target
  rw [statement_chain]
  cases loops with
  | true => exact a.cycle_text u
  | false =>
    cases rest with
    | nil => exact a.animate_text u
    | cons next rest => exact a.launch_text u

end Scene

end SceneScript
