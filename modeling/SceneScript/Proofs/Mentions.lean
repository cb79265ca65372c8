import SceneScript.Proofs.References

/- The variables that a statement uses stand in its text, between the ends of other tokens. -/
namespace SceneScript

def Mentions (text name : String) : Prop :=
  ∃ front back next, text.toList = front ++ name.toList ++ next :: back ∧
    (∀ last, front.getLast? = some last → last ∈ [' ', '(']) ∧ next ∈ ['.', ',', ')', ' ']

section Texts
variable {text name after : String} {last next : Char}

theorem last_char (front before : String) (final : before.toList.getLast? = some last) :
    (front ++ before).toList.getLast? = some last := by
  rw [String.toList_append, List.getLast?_append, final, Option.some_or]

theorem mentions_first (name after : String) (follows : after.toList.head? = some next)
    (ends : next ∈ ['.', ',', ')', ' ']) : Mentions (name ++ after) name := by
  obtain ⟨rest, chars⟩ := List.head?_eq_some_iff.mp follows
  exact ⟨[], rest, next, by simp [chars], by simp, ends⟩

namespace Mentions

theorem behind (named : Mentions text name) (before : String)
    (final : before.toList.getLast? = some last) (opens : last ∈ [' ', '(']) :
    Mentions (before ++ text) name := by
  obtain ⟨front, back, next, split, begins, ends⟩ := named
  refine ⟨before.toList ++ front, back, next, by simp [split], ?_, ends⟩
  intro c found
  rw [List.getLast?_append, final] at found
  cases own : front.getLast? with
  | none =>
    rw [own] at found
    exact Option.some.inj found ▸ opens
  | some d =>
    rw [own] at found
    exact begins c (own.trans found)

theorem append (named : Mentions text name) (after : String) : Mentions (text ++ after) name := by
  obtain ⟨front, back, next, split, begins, ends⟩ := named
  exact ⟨front, back ++ after.toList, next, by simp [split], begins, ends⟩

theorem function (named : Mentions text name) : Mentions (functionText text) name :=
  (named.behind "(function() \x7b " rfl (by decide)).append _

end Mentions

theorem mentions_behind (before name : String) (final : before.toList.getLast? = some ' ')
    (follows : after.toList.head? = some '.') : Mentions (before ++ name ++ after) name := by
  rw [String.append_assoc]
  exact (mentions_first name after follows (by decide)).behind before final (by decide)

theorem members_mentioned {members : List String} (member : name ∈ members) :
    Mentions (", ".intercalate members ++ ");") name := by
  induction members with
  | nil => contradiction
  | cons m rest ih =>
    cases rest with
    | nil =>
      obtain rfl := List.mem_singleton.mp member
      rw [String.intercalate_singleton]
      exact mentions_first name ");" rfl (by decide)
    | cons b rest =>
      rw [String.intercalate_cons_cons]
      rcases List.mem_cons.mp member with rfl | later
      · simp only [String.append_assoc]
        exact mentions_first name _ (by simp; rfl) (by decide)
      · rw [String.append_assoc]
        exact (ih later).behind (m ++ ", ") (last_char m ", " rfl) (by decide)

theorem motion_mentioned (m : Motion) (finished : Option String) :
    Mentions (m.text finished) m.target :=
  ((((mentions_first m.target ".animate(" rfl (by decide)).append _).append _).append
    _).append _ |>.append _

theorem third_mentioned (m : Motion) (named : Mentions text name) :
    Mentions (m.text (some text)) name := by
  have inner := (named.append ")").behind (m.target ++ ".animate(" ++
    m.attributes.script ++ ", " ++ Number.text m.milliseconds ++ ", ") (last_char _ ", " rfl)
    (by decide)
  unfold Motion.text
  simpa only [String.append_assoc] using inner

theorem call_mentioned (motion : Motion) {after : Continuation}
    (target : name ∈ motion.target :: after.targets) :
    Mentions (motion.text after.text?) name := by
  induction after generalizing motion with
  | nothing | run body =>
    obtain rfl := List.mem_singleton.mp target
    exact motion_mentioned motion _
  | start inner after ih =>
    rcases List.mem_cons.mp target with rfl | later
    · exact motion_mentioned motion _
    · exact third_mentioned motion ((ih inner later).append ";").function
  | startAndRun inner after body ih =>
    rcases List.mem_cons.mp target with rfl | later
    · exact motion_mentioned motion _
    · have started := ((ih inner later).append ";").function
      exact third_mentioned motion
        (((started.append "(); ").append (functionText body)).append "();").function

end Texts

namespace Statement

theorem references_mentioned {st : Statement} {name : String} (used : name ∈ st.references) :
    Mentions st.text name := by
  cases st with
  | create own paper method arguments =>
    obtain rfl := List.mem_singleton.mp used
    have named : Mentions ("var " ++ own ++ " = " ++ name ++ ".") name :=
      mentions_behind _ name (last_char _ " = " rfl) rfl
    exact (((named.append method).append "(").append _).append ");"
  | join set members =>
    rcases List.mem_cons.mp used with rfl | member
    · exact ((mentions_first name ".push(" rfl (by decide)).append _).append ");"
    · change Mentions (set ++ ".push(" ++ ", ".intercalate members ++ ");") name
      rw [String.append_assoc]
      exact (members_mentioned member).behind _ (last_char set ".push(" rfl) (by decide)
  | call receiver method arguments =>
    obtain rfl := List.mem_singleton.mp used
    have named : Mentions (name ++ ".") name := mentions_first name "." rfl (by decide)
    exact (((named.append method).append "(").append _).append ");"
  | node own element =>
    obtain rfl := List.mem_singleton.mp used
    exact mentions_behind ("var " ++ own ++ " = ") name (last_char _ " = " rfl) rfl
  | measure declared own element =>
    have measured : Mentions ((if declared then "" else "var ") ++ own ++ " = " ++ element ++
        ".getBBox();") element :=
      mentions_behind _ element (last_char _ " = " rfl) rfl
    cases declared with
    | false =>
      obtain rfl := List.mem_singleton.mp used
      exact measured
    | true =>
      rcases List.mem_cons.mp used with rfl | read
      · change Mentions ("" ++ name ++ " = " ++ element ++ ".getBBox();") name
        rw [String.empty_append]
        exact ((mentions_first name " = " rfl (by decide)).append element).append _
      · obtain rfl := List.mem_singleton.mp read
        exact measured
  | field own box part =>
    obtain rfl := List.mem_singleton.mp used
    have named : Mentions ("var " ++ own ++ " = " ++ name ++ ".") name :=
      mentions_behind _ name (last_char _ " = " rfl) rfl
    exact (named.append part).append ";"
  | animate motion after => exact (call_mentioned motion used).append ";"
  | launch motion after => exact ((call_mentioned motion used).append ";").function.append "();"
  | cycle motion after =>
    have launched := ((call_mentioned motion used).append ";").function.behind
      ("(function " ++ loopName ++ "() \x7b ") (last_char _ "() \x7b " rfl) (by decide)
    exact ((((launched.append _).append _).append _).append _).append _
  | raw text => contradiction

end Statement

end SceneScript
