import Mathlib.Data.Bool.AllAny
import Mathlib.Tactic.SplitIfs
import SceneScript.Proofs.PlainScenes

/- Where a pattern stands in the element of a script. A pattern that has a bracket of a tag stands
   in no part of a plain script but in its quoted texts. There `</` is broken up, so that the
   element of the script has it once only, at its end. Other patterns stand in a quoted text as
   often as in the text itself; so does the end of the CDATA guard. -/
namespace SceneScript

/-- What is left of a text from each place on where a pattern stands. -/
def occurrences (pattern : List Char) : List Char → List (List Char)
  | [] => []
  | c :: cs =>
    if pattern.isPrefixOf (c :: cs) then (c :: cs) :: occurrences pattern cs
    else occurrences pattern cs

section Patterns
variable {p cs front back : List Char} {c x : Char}

theorem occurrences_miss (miss : ¬ p <+: c :: cs) : occurrences p (c :: cs) = occurrences p cs := by
  rw [← List.isPrefixOf_iff_prefix] at miss
  rw [occurrences, if_neg miss]

theorem occurrences_hit (hit : p <+: c :: cs) :
    occurrences p (c :: cs) = (c :: cs) :: occurrences p cs := by
  rw [← List.isPrefixOf_iff_prefix] at hit
  rw [occurrences, if_pos hit]

theorem prefix_across (apart : x ∉ p) (front back : List Char) :
    p <+: front ++ x :: back ↔ p <+: front := by
  constructor
  · intro whole
    have own : front <+: front ++ x :: back := List.prefix_append _ _
    by_cases short : p.length ≤ front.length
    · exact List.prefix_of_prefix_length_le whole own short
    · have longer : front ++ [x] <+: front ++ x :: back := ⟨back, by simp⟩
      have inside : front ++ [x] <+: p :=
        List.prefix_of_prefix_length_le longer whole (by simp; omega)
      exact absurd (inside.subset (by simp)) apart
  · exact fun own => own.trans (List.prefix_append _ _)

theorem blocked (apart : x ∉ p) (filled : p ≠ []) (back : List Char) : ¬ p <+: x :: back := by
  intro whole
  have own := (prefix_across apart [] back).mp whole
  exact filled (List.prefix_nil.mp own)

theorem occurrences_across (apart : x ∉ p) (filled : p ≠ []) (front back : List Char) :
    occurrences p (front ++ x :: back) =
      (occurrences p front).map (· ++ x :: back) ++ occurrences p back := by
  induction front with
  | nil => exact occurrences_miss (blocked apart filled back)
  | cons c front ih =>
    rw [List.cons_append]
    by_cases own : p <+: c :: front
    · have whole := (prefix_across apart (c :: front) back).mpr own
      rw [occurrences_hit own, List.map_cons, List.cons_append, ← ih]
      exact occurrences_hit whole
    · have miss := mt (prefix_across apart (c :: front) back).mp own
      rw [occurrences_miss own, ← ih]
      exact occurrences_miss miss

theorem occurrences_behind (absent : x ∉ front) (p back : List Char) :
    occurrences (x :: p) (front ++ back) = occurrences (x :: p) back := by
  induction front with
  | nil => rfl
  | cons c front ih =>
    obtain ⟨other, later⟩ := not_or.mp (mt List.mem_cons.mpr absent)
    rw [List.cons_append, occurrences_miss, ih later]
    exact fun hit => other (List.cons_prefix_cons.mp hit).1

theorem occurrences_suffix (absent : occurrences p (front ++ back) = []) :
    occurrences p back = [] := by
  induction front with
  | nil => exact absent
  | cons c front ih =>
    refine ih ?_
    by_cases hit : p <+: c :: (front ++ back)
    · rw [List.cons_append, occurrences_hit hit] at absent
      contradiction
    · rwa [List.cons_append, occurrences_miss hit] at absent

end Patterns

namespace Text

/-- Characters that a quoted text has as they are, and that no escape has. -/
def marks : List Char :=
  ['<', '>', '!', '-', '[', ']', '/']

theorem mark_kept {x : Char} (mark : x ∈ marks) : quotedChar x = [x] := by
  have all : ∀ x ∈ marks, quotedChar x = [x] := List.all_iff_forall_prop.mp (by decide)
  exact all x mark

theorem hexDigit_no_mark (n : Nat) (small : n < 16) : hexDigit n ∉ marks := by
  have all : ∀ n < 16, hexDigit n ∉ marks := by decide
  exact all n small

theorem mark_of_quoted {x c : Char} (mark : x ∈ marks) (member : x ∈ quotedChar c) : x = c := by
  have apart {escape : List Char} (none_marked : ∀ y ∈ escape, y ∉ marks) (inside : x ∈ escape) :
      x = c := absurd mark (none_marked x inside)
  unfold quotedChar at member
  split_ifs at member
  iterate 7 exact apart (List.all_iff_forall_prop.mp (by decide)) member
  · have high := hexDigit_no_mark (c.toNat / 16) (by omega)
    have low := hexDigit_no_mark (c.toNat % 16) (by omega)
    refine apart ?_ member
    simp only [List.forall_mem_cons, high, low]
    exact ⟨by decide, by decide, by decide, by decide, not_false, not_false, nofun⟩
  · exact List.mem_singleton.mp member

theorem quoted_filled (c : Char) : quotedChar c ≠ [] := by
  unfold quotedChar
  split_ifs <;> simp

theorem quoted_slash {cs rest : List Char} (slash : quotedChars cs = '/' :: rest) :
    ∃ tail, cs = '/' :: tail := by
  cases cs using quotedChars.fun_cases with
  | case1 => contradiction
  | case2 tail => simp [quotedChars] at slash
  | case3 c tail apart =>
    obtain ⟨d, more, own⟩ := List.exists_cons_of_ne_nil (quoted_filled c)
    rw [quotedChars, own] at slash
    · obtain ⟨rfl, _⟩ := List.cons.inj slash
      have same : '/' = c := mark_of_quoted (by decide) (own ▸ List.mem_cons_self)
      exact ⟨tail, congrArg (· :: tail) same.symm⟩
    · exact apart

theorem quoted_no_close (cs : List Char) : occurrences "</".toList (quotedChars cs) = [] := by
  induction cs using quotedChars.induct with
  | case1 => rfl
  | case2 tail ih =>
    have broken : ¬ "</".toList <+: '<' :: '\\' :: '/' :: quotedChars tail := by
      simp [List.cons_prefix_cons]
    have absent : '<' ∉ ['\\', '/'] := by decide
    rw [quotedChars, occurrences_miss broken]
    exact (occurrences_behind absent ['/'] (quotedChars tail)).trans ih
  | case3 c tail apart ih =>
    rw [quotedChars]
    · by_cases opens : c = '<'
      · subst c
        have broken : ¬ "</".toList <+: '<' :: quotedChars tail := by
          intro hit
          obtain ⟨rest, slash⟩ := (List.cons_prefix_cons.mp hit).2
          obtain ⟨more, same⟩ := quoted_slash slash.symm
          exact apart more rfl same
        exact (occurrences_miss broken).trans ih
      · have absent : '<' ∉ quotedChar c := fun inside =>
          opens (mark_of_quoted (by decide) inside).symm
        exact (occurrences_behind absent ['/'] (quotedChars tail)).trans ih
    · exact apart

section Kept
variable {p : List Char}

theorem quoted_prefix (marked : ∀ x ∈ p, x ∈ marks ∧ x ≠ '/') (cs : List Char) :
    p <+: quotedChars cs ↔ p <+: cs := by
  induction p generalizing cs with
  | nil => simp
  | cons x p ih =>
    obtain ⟨⟨mark, _⟩, later⟩ := List.forall_mem_cons.mp marked
    have without {y : Char} (other : ¬ (y ∈ marks ∧ y ≠ '/')) : y ∉ p := fun member =>
      other (later y member)
    cases cs using quotedChars.fun_cases with
    | case1 => rfl
    | case2 tail =>
      rw [quotedChars, List.cons_prefix_cons, List.cons_prefix_cons]
      have escaped := prefix_across (without (y := '\\') (by decide)) [] ('/' :: quotedChars tail)
      have plain := prefix_across (without (y := '/') (by decide)) [] tail
      exact and_congr_right fun _ => escaped.trans plain.symm
    | case3 c tail apart =>
      rw [quotedChars]
      · by_cases same : x = c
        · subst c
          rw [mark_kept mark]
          simp only [List.cons_append, List.nil_append, List.cons_prefix_cons, ih later]
        · obtain ⟨d, more, own⟩ := List.exists_cons_of_ne_nil (quoted_filled c)
          have other : x ≠ d := by
            rintro rfl
            exact same (mark_of_quoted mark (own ▸ List.mem_cons_self))
          rw [own, List.cons_append, List.cons_prefix_cons, List.cons_prefix_cons]
          exact iff_of_false (fun hit => other hit.1) (fun hit => same hit.1)
      · exact apart

theorem quoted_occurrences (marked : ∀ x ∈ p, x ∈ marks ∧ x ≠ '/') (filled : p ≠ [])
    (cs : List Char) :
    (occurrences p (quotedChars cs)).length = (occurrences p cs).length := by
  have without {y : Char} (other : ¬ (y ∈ marks ∧ y ≠ '/')) : y ∉ p := fun member =>
    other (marked y member)
  -- One character of the text against what it is quoted as, the rests being equally long.
  have step {c : Char} {tail more : List Char} (same : p <+: c :: more ↔ p <+: c :: tail)
      (later : (occurrences p more).length = (occurrences p tail).length) :
      (occurrences p (c :: more)).length = (occurrences p (c :: tail)).length := by
    by_cases hit : p <+: c :: tail
    · rw [occurrences_hit hit, occurrences_hit (same.mpr hit), List.length_cons, List.length_cons,
        later]
    · rw [occurrences_miss hit, occurrences_miss (mt same.mp hit), later]
  induction cs using quotedChars.induct with
  | case1 => rfl
  | case2 tail ih =>
    have head := quoted_prefix marked ('<' :: '/' :: tail)
    rw [quotedChars] at head ⊢
    refine step head ?_
    rw [occurrences_miss (blocked (without (by decide)) filled _),
      occurrences_miss (blocked (without (by decide)) filled _),
      occurrences_miss (blocked (without (by decide)) filled _), ih]
  | case3 c tail apart ih =>
    have head := quoted_prefix marked (c :: tail)
    rw [quotedChars] at head ⊢
    · by_cases mark : c ∈ marks
      · rw [mark_kept mark] at head ⊢
        exact step head ih
      · obtain ⟨x, p, rfl⟩ := List.exists_cons_of_ne_nil filled
        have first := (marked x List.mem_cons_self).1
        have other : x ≠ c := by
          rintro rfl
          exact mark first
        have absent : x ∉ quotedChar c := fun inside => other (mark_of_quoted first inside)
        rw [occurrences_behind absent, ih, occurrences_miss]
        exact fun hit => other (List.cons_prefix_cons.mp hit).1
    · exact apart
    · exact apart

end Kept

end Text

section Scripts
variable {sort : Char → Bool} {texts : List String} {cs p : List Char}

theorem woven_miss (woven : Woven sort texts cs) (unquoted : '"' ∉ p)
    (foreign : ∃ x ∈ p, sort x = false) : ¬ p <+: cs := by
  induction woven generalizing p with
  | nothing =>
    obtain ⟨x, member, _⟩ := foreign
    intro hit
    rw [List.prefix_nil.mp hit] at member
    contradiction
  | @bare texts c cs own rest ih =>
    intro hit
    cases p with
    | nil => simp at foreign
    | cons y p =>
      obtain ⟨rfl, later⟩ := List.cons_prefix_cons.mp hit
      refine ih (mt (List.mem_cons_of_mem _) unquoted) ?_ later
      obtain ⟨x, member, other⟩ := foreign
      rcases List.mem_cons.mp member with rfl | inside
      · rw [own] at other
        contradiction
      · exact ⟨x, inside, other⟩
  | quoted s rest ih =>
    obtain ⟨x, member, _⟩ := foreign
    rw [Value.quote_chars, List.cons_append]
    exact blocked unquoted (List.ne_nil_of_mem member) _

theorem woven_occurrences (woven : Woven sort texts cs) (unquoted : '"' ∉ p)
    (foreign : ∃ x ∈ p, sort x = false) :
    (occurrences p cs).length =
      (texts.map fun s => (occurrences p (Text.quotedChars s.toList)).length).sum := by
  obtain ⟨x, inside, _⟩ := id foreign
  have filled : p ≠ [] := List.ne_nil_of_mem inside
  induction woven with
  | nothing => rfl
  | bare own rest ih => rw [occurrences_miss (woven_miss (.bare own rest) unquoted foreign), ih]
  | quoted s rest ih =>
    rw [Value.quote_chars, List.cons_append, occurrences_miss (blocked unquoted filled _),
      List.append_assoc, List.singleton_append, occurrences_across unquoted filled,
      List.length_append, List.length_map, ih, List.map_cons, List.sum_cons]

def elementStart : List Char :=
  "<script type=\"text/javascript\">\n//<![CDATA[".toList

def elementEnd : List Char :=
  "//]]>\n</script>".toList

theorem element_chars (script : String) : (Text.scriptElement script).toList =
    elementStart ++ '\n' :: (script.toList ++ '\n' :: elementEnd) := by
  have opened : "<script type=\"text/javascript\">\n//<![CDATA[\n".toList =
      elementStart ++ ['\n'] := by decide
  have closed : "\n//]]>\n</script>".toList = '\n' :: elementEnd := by decide
  have whole : Text.scriptElement script =
      "<script type=\"text/javascript\">\n//<![CDATA[\n" ++ script ++ "\n//]]>\n</script>" := rfl
  rw [whole, String.toList_append, String.toList_append, opened, closed, List.append_assoc,
    List.append_assoc, List.singleton_append]

theorem element_occurrences (script : String) (single : '\n' ∉ p) (filled : p ≠ [])
    (front : occurrences p elementStart = []) :
    occurrences p (Text.scriptElement script).toList =
      (occurrences p script.toList).map (· ++ '\n' :: elementEnd) ++ occurrences p elementEnd := by
  rw [element_chars, occurrences_across single filled, front, List.map_nil, List.nil_append,
    occurrences_across single filled]

end Scripts

section Closing

theorem woven_no_close {sort : Char → Bool} {texts : List String} {cs : List Char}
    (woven : Woven sort texts cs) (bracket : sort '<' = false) :
    occurrences "</".toList cs = [] := by
  have counted := woven_occurrences woven (p := "</".toList) (by decide) ⟨'<', by decide, bracket⟩
  refine List.length_eq_zero_iff.mp (counted.trans (List.sum_eq_zero fun n member => ?_))
  obtain ⟨s, _, rfl⟩ := List.mem_map.mp member
  rw [Text.quoted_no_close]
  rfl

theorem plain_element_close {c : Canvas} (plain : c.Plain) :
    occurrences "</".toList c.scriptElement.toList = ["</script>".toList] := by
  have none_inside := woven_no_close (c.script_weaves plain) (by decide)
  rw [Canvas.scriptElement, element_occurrences c.script (by decide) (by decide) (by decide),
    none_inside]
  decide

/-- After any run of plain operations, whatever texts they are given, the element of a script has
    `</` once, in the tag at its end; and no value without verbatim parts has it in its text. -/
theorem close_tag_once (ops : List Session.Op) (plain : ∀ op ∈ ops, op.Plain) :
    (∀ c ∈ (Session.empty.run ops).2.canvases,
      occurrences "</".toList c.scriptElement.toList = ["</script>".toList]) ∧
    ∀ v : Value, v.isPlain = true → occurrences "</".toList v.script.toList = [] :=
  ⟨fun c member => plain_element_close (Session.run_plain ops plain c member),
    fun v own => woven_no_close (v.script_weaves own) (by decide)⟩

theorem close_tag_once_of_hostile_texts :
    let steps : List Animation.Step :=
      [.attr "</" (.text "</"), .after 2 [.translate 1 2, .after 3 [.attr "src" (.text "<</")]]]
    let nested : Value := .list [.text "<", .object [("/", .text "<"), ("</", .text "/</script>")]]
    let ops : List Session.Op := [.canvas "c" (.container "</script>" 9 9) none toString,
      .draw "c" "x" (.image "<\\/" 0 0 1 1) (Attributes.empty.insert "src" nested),
      .every "x" 1 steps, .bbox "x" "b", .field "b" .width]
    (∀ op ∈ ops, op.Plain) ∧ ∃ c, (Session.empty.run ops).2.canvases[0]? = some c ∧
      c.statements.map Statement.text = [
        "var rafa_image_2 = _raphael_canvas_1.image(\"<\\\\/\", 0, 0, 1, 1);",
        "rafa_image_2.attr(\x7b\"src\":[\"<\",\x7b\"/\":\"<\",\"<\\/\":\"/<\\/script>\"\x7d]\x7d);",
        "(function rafa_loop() \x7b (function() \x7b " ++
          "rafa_image_2.animate(\x7b\"\":\"<\\/\"\x7d, 1000, (function() \x7b " ++
          "rafa_image_2.animate(\x7b\"translation\":\"1,2\"\x7d, 2000, (function() \x7b " ++
          "rafa_image_2.animate(\x7b\"src\":\"<<\\/\"\x7d, 3000); \x7d)); \x7d)); \x7d)(); " ++
          "setTimeout(rafa_loop, 1000); \x7d)();",
        "var rafa_image_2_bbox = rafa_image_2.getBBox();",
        "var rafa_image_2_bbox_width = rafa_image_2_bbox.width;"] ∧
      occurrences "</".toList c.scriptElement.toList = ["</script>".toList] ∧
      occurrences "</".toList nested.script.toList = [] := by
  intro steps nested ops
  have plain : ∀ op ∈ ops, op.Plain := by
    simp only [ops, List.forall_mem_cons]
    exact ⟨number_parts, rfl, rfl, trivial, trivial, nofun⟩
  obtain ⟨elements, values⟩ := close_tag_once ops plain
  obtain ⟨c, found⟩ : ∃ c, (Session.empty.run ops).2.canvases[0]? = some c := ⟨_, rfl⟩
  refine ⟨plain, c, found, ?_, elements c (List.mem_of_getElem? found), values nested rfl⟩
  cases found
  decide +kernel

/-- The end of the CDATA guard stands in the element of a scene where a text of the scene has it,
    and then at its own place. So it closes the guard there first, and there only, exactly when no
    text has it. -/
theorem guard_closings (s : Scene) (plain : s.isPlain = true) (ambient : Ambient) (c : Canvas)
    (rendered : s.render (Uid.Strategy.sequential.suffix ambient) = .ok c) :
    (occurrences "]]>".toList c.scriptElement.toList).length =
      (s.texts.map fun t => (occurrences "]]>".toList t.toList).length).sum + 1 ∧
    (occurrences "]]>".toList c.scriptElement.toList = ["]]>\n</script>".toList] ↔
      ∀ t ∈ s.texts, occurrences "]]>".toList t.toList = []) := by
  obtain ⟨own, texts⟩ := Scene.rendered_plain plain rendered
  have inside : (occurrences "]]>".toList c.script.toList).length =
      (s.texts.map fun t => (occurrences "]]>".toList t.toList).length).sum := by
    rw [woven_occurrences (c.script_weaves own) (by decide) ⟨'>', by decide, by decide⟩, texts]
    refine congrArg List.sum (List.map_congr_left fun t _ => ?_)
    exact Text.quoted_occurrences (List.all_iff_forall_prop.mp (by decide)) (by decide) t.toList
  have whole := element_occurrences (p := "]]>".toList) c.script (by decide) (by decide) (by decide)
  have last : occurrences "]]>".toList elementEnd = ["]]>\n</script>".toList] := by decide
  rw [Canvas.scriptElement, whole, last]
  refine ⟨by rw [List.length_append, List.length_map, inside]; rfl, ?_⟩
  rw [List.append_left_eq_self, List.map_eq_nil_iff, ← List.length_eq_zero_iff, inside,
    List.sum_eq_zero_iff]
  simp only [List.forall_mem_map, List.length_eq_zero_iff]

theorem guard_closed_once_of_brackets :
    let s : Scene := ⟨⟨some "]]", 0, 0, 9, 9, none⟩,
      [⟨.text 0 0 "]] >", none, [("x", .list [.list [.text "]"], .text ">"])], [], none⟩]⟩
    let uids := Uid.Strategy.sequential.suffix ⟨fun _ => 0, fun _ => 0, fun _ => 0⟩
    s.isPlain = true ∧ ∃ c, s.render uids = .ok c ∧
      c.statements.map Statement.text =
        ["var rafa_text_2 = _raphael_canvas_1.text(0, 0, \"]] >\");",
          "rafa_text_2.attr(\x7b\"x\":[[\"]\"],\">\"]\x7d);"] ∧
      occurrences "]]>".toList c.scriptElement.toList = ["]]>\n</script>".toList] := by
  intro s uids
  have plain : s.isPlain = true := by decide
  have rendered := Scene.render_clean (show s.faults = [] by decide) uids
  obtain ⟨_, once⟩ := guard_closings s plain _ _ rendered
  have absent : ∀ t ∈ s.texts, occurrences "]]>".toList t.toList = [] := by decide +kernel
  refine ⟨plain, _, rendered, by decide +kernel, once.mpr absent⟩

theorem guard_closed_by_text :
    let s : Scene := ⟨⟨some "holder", 0, 0, 9, 9, none⟩, [⟨.text 0 0 "]]>", none, [], [], none⟩]⟩
    let uids := Uid.Strategy.sequential.suffix ⟨fun _ => 0, fun _ => 0, fun _ => 0⟩
    s.isPlain = true ∧ ∃ c, s.render uids = .ok c ∧
      occurrences "]]>".toList c.scriptElement.toList =
        ["]]>\");\n//]]>\n</script>".toList, "]]>\n</script>".toList] := by
  intro s uids
  have rendered := Scene.render_clean (show s.faults = [] by decide) uids
  exact ⟨by decide, _, rendered, by decide +kernel⟩

end Closing

end SceneScript
