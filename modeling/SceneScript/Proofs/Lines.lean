import Mathlib.Tactic.SplitIfs
import SceneScript.Proofs.PlainRuns

/- The lines of a script. Whatever texts and keys a run without raw statements, verbatim parts and
   callbacks is given, each of its statements stays on a line of its own. -/
namespace SceneScript

namespace Text

theorem hexDigit_visible {n : Nat} (small : n < 16) : 0x20 ≤ (hexDigit n).toNat := by
  have all : ∀ n < 16, 0x20 ≤ (hexDigit n).toNat := by decide
  exact all n small

theorem quotedChar_visible (c : Char) : ∀ d ∈ quotedChar c, 0x20 ≤ d.toNat := by
  have escape {letter : Char} (visible : 0x20 ≤ letter.toNat) :
      ∀ d ∈ ['\\', letter], 0x20 ≤ d.toNat :=
    List.forall_mem_cons.mpr ⟨by decide, List.forall_mem_singleton.mpr visible⟩
  unfold quotedChar
  split_ifs with quote backslash newline carriage tab back feed control
  · exact escape (by decide)
  · exact escape (by decide)
  · exact escape (by decide)
  · exact escape (by decide)
  · exact escape (by decide)
  · exact escape (by decide)
  · exact escape (by decide)
  · have high := hexDigit_visible (n := c.toNat / 16) (by omega)
    have low := hexDigit_visible (n := c.toNat % 16) (by omega)
    simp only [List.forall_mem_cons]
    exact ⟨by decide, by decide, by decide, by decide, high, low, nofun⟩
  · exact List.forall_mem_singleton.mpr (Nat.le_of_not_lt control)

theorem quotedChars_visible (cs : List Char) : ∀ d ∈ quotedChars cs, 0x20 ≤ d.toNat := by
  induction cs using quotedChars.induct with
  | case1 => exact fun _ inside => absurd inside List.not_mem_nil
  | case2 tail ih =>
    rw [quotedChars]
    simp only [List.forall_mem_cons]
    exact ⟨by decide, by decide, by decide, ih⟩
  | case3 c tail apart ih =>
    rw [quotedChars]
    · exact List.forall_mem_append.mpr ⟨quotedChar_visible c, ih⟩
    · exact apart

end Text

theorem bare_visible {c : Char} (bare : isBare c = true) : 0x20 ≤ c.toNat := by
  simp only [isBare, Bool.and_eq_true, decide_eq_true_eq] at bare
  exact bare.1.1.1.1

theorem woven_visible {texts : List String} {cs : List Char} (woven : Woven isBare texts cs) :
    ∀ c ∈ cs, 0x20 ≤ c.toNat := by
  induction woven with
  | nothing => exact nofun
  | bare own rest ih => exact List.forall_mem_cons.mpr ⟨bare_visible own, ih⟩
  | quoted s rest ih =>
    rw [Value.quote_chars]
    refine List.forall_mem_append.mpr ⟨List.forall_mem_cons.mpr ⟨by decide, ?_⟩, ih⟩
    exact List.forall_mem_append.mpr
      ⟨Text.quotedChars_visible s.toList, List.forall_mem_singleton.mpr (by decide)⟩

def OneLine (text : String) : Prop :=
  '\n' ∉ text.toList ∧ '\r' ∉ text.toList

theorem weaves_one_line {texts : List String} {text : String} (woven : Weaves isBare texts text) :
    OneLine text := by
  have absent {c : Char} (control : c.toNat < 0x20) : c ∉ text.toList := fun inside =>
    Nat.not_le_of_lt control (woven_visible woven c inside)
  exact ⟨absent (by decide), absent (by decide)⟩

namespace Canvas
variable {c : Canvas}

def lines (c : Canvas) : List String :=
  ("var " ++ c.name ++ " = " ++ c.construction ++ ";") :: c.statements.map Statement.text

theorem plain_lines (plain : c.Plain) : ∀ line ∈ c.lines, OneLine line := by
  refine List.forall_mem_cons.mpr ⟨weaves_one_line (paper_weaves plain), ?_⟩
  intro line member
  obtain ⟨st, listed, rfl⟩ := List.mem_map.mp member
  exact weaves_one_line
    (statement_weaves (plain.statements st listed) (plain.statement_names listed))

theorem script_split (single : ∀ line ∈ c.lines, '\n' ∉ line.toList) :
    (c.script.split '\n').toList.map String.Slice.copy = c.lines := by
  have split := String.toList_split_intercalate single
  have filled : c.lines ≠ [] := List.cons_ne_nil _ _
  rwa [if_neg filled] at split

end Canvas

namespace Session

theorem run_append (s : Session) (before later : List Op) :
    (s.run (before ++ later)).2 = ((s.run before).2.run later).2 := by
  induction before generalizing s with
  | nil => rfl
  | cons op rest ih => rw [List.cons_append, run_cons, ih, run_cons s op rest]

theorem run_extends_lines {s : Session} {number : Nat} {c : Canvas}
    (found : s.canvases[number]? = some c) (ops : List Op) :
    ∃ d, (s.run ops).2.canvases[number]? = some d ∧ c.lines <+: d.lines := by
  have kept : ∀ s op answer after, Effect s op answer after →
      (∃ d, s.canvases[number]? = some d ∧ c.lines <+: d.lines) →
      ∃ d, after.canvases[number]? = some d ∧ c.lines <+: d.lines := by
    rintro before op answer after effect ⟨d, at_number, ahead⟩
    obtain ⟨given, later, _⟩ := effect_grows effect at_number
    refine ⟨_, later, ahead.trans ⟨given.map Statement.text, ?_⟩⟩
    simp only [Canvas.lines, List.map_append, List.cons_append]
    rfl
  exact run_keeps kept ops ⟨c, found, List.prefix_refl _⟩

/-- After any run of plain operations, whatever texts, keys and containers they are given, a script
    split at line feeds is the statement that makes its paper and then one line for each statement,
    in the order of the calls: what a first part of the run has written stands in front. No line
    has a line feed or a carriage return in it. -/
theorem script_lines (ops : List Op) (plain : ∀ op ∈ ops, op.Plain) :
    ∀ (number : Nat) (c : Canvas), (empty.run ops).2.canvases[number]? = some c →
      (c.script.split '\n').toList.map String.Slice.copy =
        ("var " ++ c.name ++ " = " ++ c.construction ++ ";") :: c.statements.map Statement.text ∧
      (∀ line ∈ c.lines, OneLine line) ∧
      ∀ (before later : List Op) (d : Canvas), ops = before ++ later →
        (empty.run before).2.canvases[number]? = some d → d.lines <+: c.lines := by
  intro number c found
  have single := Canvas.plain_lines (run_plain ops plain c (List.mem_of_getElem? found))
  refine ⟨Canvas.script_split fun line member => (single line member).1, single, ?_⟩
  rintro before later d rfl at_number
  obtain ⟨e, same, ahead⟩ := run_extends_lines at_number later
  rw [run_append, same] at found
  exact Option.some.inj found ▸ ahead

theorem script_lines_of_broken_texts :
    let nested : Value := .object [("a\nb", .list [.text "\r\n", .text "\n"])]
    let front : List Op := [.canvas "c" (.container "a\nb" 9 9) (some "p") toString,
      .draw "c" "x" (.text 0 0 "1\r\n2") (Attributes.empty.insert "s\nrc" nested)]
    let back : List Op := [.group "c" "y" ["x"] (Attributes.empty.withId "a\nb"),
      .animateWith "x" 1 [.attr "\r" (.text "\r"), .after 2 [.attr "x" nested]], .node "x"]
    (∀ op ∈ front ++ back, op.Plain) ∧
    ∃ c, (empty.run (front ++ back)).2.canvases[0]? = some c ∧
      (c.script.split '\n').toList.map String.Slice.copy = c.lines ∧
      (∃ d, (empty.run front).2.canvases[0]? = some d ∧ d.lines <+: c.lines) ∧
      c.lines = ["var p = new Raphael(\"a\\nb\", 9, 9);",
        "var rafa_text_1 = p.text(0, 0, \"1\\r\\n2\");",
        "rafa_text_1.attr(\x7b\"src\":\x7b\"a\\nb\":[\"\\r\\n\",\"\\n\"]\x7d\x7d);",
        "(function() \x7b rafa_text_1.animate(\x7b\"\":\"\\r\"\x7d, 1000, (function() \x7b " ++
          "rafa_text_1.animate(\x7b\"x\":\x7b\"a\\nb\":[\"\\r\\n\",\"\\n\"]\x7d\x7d, 2000); " ++
          "\x7d)); \x7d)();",
        "var rafa_text_1_node = rafa_text_1.node;"] := by
  intro nested front back
  have plain : ∀ op ∈ front ++ back, op.Plain := by
    simp only [front, back, List.cons_append, List.nil_append, List.forall_mem_cons]
    exact ⟨number_parts, rfl, rfl, rfl, trivial, nofun⟩
  obtain ⟨c, found⟩ : ∃ c, (empty.run (front ++ back)).2.canvases[0]? = some c := ⟨_, rfl⟩
  obtain ⟨d, before⟩ : ∃ d, (empty.run front).2.canvases[0]? = some d := ⟨_, rfl⟩
  obtain ⟨split, _, order⟩ := script_lines (front ++ back) plain 0 c found
  refine ⟨plain, c, found, split, ⟨d, before, order front back d rfl before⟩, ?_⟩
  cases found
  decide +kernel

end Session

end SceneScript
