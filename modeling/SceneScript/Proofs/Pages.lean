import SceneScript.Page
import SceneScript.Proofs.Occurrences

/- A page as a browser reads it: attributes up to the next quote, with character references in them,
   and the script behind the start of its CDATA guard. The element that holds the paper and the call
   that makes the paper are about the same id, whatever it looks like. -/
namespace SceneScript

namespace Text

def references : List (List Char × Char) :=
  [("amp;".toList, '&'), ("lt;".toList, '<'), ("gt;".toList, '>'), ("quot;".toList, '"'),
    ("#39;".toList, '\'')]

section
variable (others : List Char → Option (List Char × Nat))

def reference? (rest : List Char) : Option (List Char × Nat) :=
  match references.find? fun r => r.1.isPrefixOf rest with
  | some (name, c) => some ([c], name.length)
  | none => others rest

/-- A text with character references, behind some characters that were already read. -/
def decoded : (taken : Nat) → List Char → List Char
  | _, [] => []
  | taken + 1, _ :: rest => decoded taken rest
  | 0, c :: rest =>
    if c = '&' then
      match reference? others rest with
      | some (cs, length) => cs ++ decoded length rest
      | none => '&' :: decoded 0 rest
    else c :: decoded 0 rest

theorem decoded_taken (name rest : List Char) :
    decoded others name.length (name ++ rest) = decoded others 0 rest := by
  induction name with
  | nil => rfl
  | cons c name ih => exact ih

theorem escaped_cases (c : Char) :
    (∃ name, (name, c) ∈ references ∧ escapedChar c = '&' :: name) ∨
      escapedChar c = [c] ∧ c ∉ ['&', '<', '>', '"', '\''] := by
  unfold escapedChar
  split
  iterate 5 exact Or.inl ⟨_, by decide, rfl⟩
  · rename_i amp less greater quote apostrophe
    refine Or.inr ⟨rfl, ?_⟩
    simp only [List.mem_cons, List.not_mem_nil, or_false, not_or]
    exact ⟨amp, less, greater, quote, apostrophe⟩

theorem reference_found {name : List Char} {c : Char} (member : (name, c) ∈ references)
    (rest : List Char) : reference? others (name ++ rest) = some ([c], name.length) := by
  simp only [references, List.mem_cons, Prod.mk.injEq, List.not_mem_nil, or_false] at member
  rcases member with ⟨rfl, rfl⟩ | ⟨rfl, rfl⟩ | ⟨rfl, rfl⟩ | ⟨rfl, rfl⟩ | ⟨rfl, rfl⟩ <;> rfl

theorem escaped_decoded (cs : List Char) :
    decoded others 0 (cs.flatMap escapedChar) = cs := by
  induction cs with
  | nil => rfl
  | cons c cs ih =>
    rw [List.flatMap_cons]
    rcases escaped_cases c with ⟨name, member, own⟩ | ⟨own, other⟩
    · rw [own, List.cons_append, decoded, if_pos rfl, reference_found others member]
      simp only [decoded_taken, ih]
      rfl
    · have plain : c ≠ '&' := by
        rintro rfl
        exact other (by decide)
      rw [own, List.singleton_append, decoded, if_neg plain, ih]

end

theorem stands_behind {x : Char} {name tail front rest : List Char} (absent : x ∉ name)
    (same : name ++ tail = front ++ x :: rest) : ∃ more, tail = more ++ x :: rest := by
  induction name generalizing front with
  | nil => exact ⟨front, same⟩
  | cons c name ih =>
    obtain ⟨other, later⟩ := not_or.mp (mt List.mem_cons.mpr absent)
    cases front with
    | nil => exact absurd (List.cons.inj same).1.symm other
    | cons d front => exact ih later (List.cons.inj same).2

theorem escaped_ampersand {cs front rest : List Char}
    (same : cs.flatMap escapedChar = front ++ '&' :: rest) :
    ∃ r ∈ references, r.1 <+: rest := by
  induction cs generalizing front with
  | nil => simp at same
  | cons c cs ih =>
    rw [List.flatMap_cons] at same
    rcases escaped_cases c with ⟨name, member, own⟩ | ⟨own, other⟩
    · have plain : ∀ r ∈ references, '&' ∉ r.1 := by decide
      rw [own, List.cons_append] at same
      cases front with
      | nil => exact ⟨_, member, _, (List.cons.inj same).2⟩
      | cons d front =>
        obtain ⟨more, later⟩ := stands_behind (plain _ member) (List.cons.inj same).2
        exact ih later
    · have absent : '&' ∉ [c] := fun inside =>
        other (List.mem_singleton.mp inside ▸ List.mem_cons_self)
      rw [own] at same
      obtain ⟨more, later⟩ := stands_behind absent same
      exact ih later

theorem escaped_clean (s : String) :
    (∀ x ∈ ['<', '>', '"', '\''], x ∉ (escapeHtml s).toList) ∧
    ∀ front rest, (escapeHtml s).toList = front ++ '&' :: rest →
      ∃ r ∈ references, r.1 <+: rest := by
  rw [escapeHtml, String.toList_ofList]
  refine ⟨fun x bad inside => ?_, fun front rest same => escaped_ampersand same⟩
  obtain ⟨d, _, written⟩ := List.mem_flatMap.mp inside
  rcases escaped_cases d with ⟨name, member, own⟩ | ⟨own, other⟩
  · have clean : ∀ r ∈ references, ['<', '>', '"', '\''].filter (· ∈ '&' :: r.1) = [] := by decide
    exact List.filter_eq_nil_iff.mp (clean _ member) x bad (decide_eq_true (own ▸ written))
  · rw [own] at written
    obtain rfl := List.mem_singleton.mp written
    exact other (List.mem_cons_of_mem _ bad)

end Text

section Reading
variable {mark front back : List Char} {x : Char}

def behind? (mark text : List Char) : Option (List Char) :=
  (occurrences mark text).head?.map (List.drop mark.length)

theorem behind_at (filled : mark ≠ []) (back : List Char) :
    behind? mark (mark ++ back) = some back := by
  obtain ⟨c, rest, rfl⟩ := List.exists_cons_of_ne_nil filled
  have hit : c :: rest <+: c :: (rest ++ back) := ⟨back, rfl⟩
  rw [behind?, List.cons_append, occurrences_hit hit]
  exact congrArg some (List.drop_left' rfl)

/-- A mark neither stands in a text nor begins in it. -/
def passes (mark : List Char) : List Char → Bool
  | [] => true
  | c :: cs => !mark.isPrefixOf (c :: cs) && !(c :: cs).isPrefixOf mark && passes mark cs

theorem behind_past (passed : passes mark front = true) (back : List Char) :
    behind? mark (front ++ back) = behind? mark back := by
  induction front with
  | nil => rfl
  | cons c front ih =>
    simp only [passes, Bool.and_eq_true, Bool.not_eq_true', ← Bool.not_eq_true,
      List.isPrefixOf_iff_prefix] at passed
    obtain ⟨⟨outside, unfinished⟩, later⟩ := passed
    have miss : ¬ mark <+: c :: (front ++ back) := fun hit =>
      (List.prefix_or_prefix_of_prefix hit (List.prefix_append (c :: front) back)).elim outside
        unfinished
    rw [List.cons_append, behind?, occurrences_miss miss]
    exact ih later

theorem passes_without (absent : x ∉ front) : passes (x :: mark) front = true := by
  induction front with
  | nil => rfl
  | cons c front ih =>
    obtain ⟨other, later⟩ := not_or.mp (mt List.mem_cons.mpr absent)
    have outside : ¬ x :: mark <+: c :: front := fun hit => other (List.cons_prefix_cons.mp hit).1
    have unfinished : ¬ c :: front <+: x :: mark := fun hit =>
      other (List.cons_prefix_cons.mp hit).1.symm
    rw [← List.isPrefixOf_iff_prefix] at outside unfinished
    rw [passes, ih later]
    simp [outside, unfinished]

/-- The value of an attribute whose name and opening quote are a mark: up to the next quote. -/
def attribute? (others : List Char → Option (List Char × Nat)) (mark page : List Char) :
    Option String := do
  let rest ← behind? mark page
  if '"' ∈ rest then some (String.ofList (Text.decoded others 0 (rest.takeWhile fun c => c != '"')))
  else none

theorem attribute_read (others : List Char → Option (List Char × Nat)) {page : List Char}
    {s : String} (found : behind? mark page = some ((Text.escapeHtml s).toList ++ '"' :: back)) :
    attribute? others mark page = some s := by
  have clean : ∀ c ∈ (Text.escapeHtml s).toList, (c != '"') = true := by
    intro c member
    rw [bne_iff_ne]
    rintro rfl
    exact (Text.escaped_clean s).1 '"' (by decide) member
  have value : ((Text.escapeHtml s).toList ++ '"' :: back).takeWhile (fun c => c != '"') =
      (Text.escapeHtml s).toList := by
    rw [List.takeWhile_append_of_pos clean, List.takeWhile_cons_of_neg (by decide), List.append_nil]
  have back_again : Text.decoded others 0 (Text.escapeHtml s).toList = s.toList := by
    rw [Text.escapeHtml, String.toList_ofList, Text.escaped_decoded]
  rw [attribute?, found, Option.bind_eq_bind, Option.bind_some, if_pos (by simp), value, back_again,
    String.ofList_toList]

def argument? (call : List Char) : Option Json.Tree :=
  (Json.Reading.value? false (2 * call.length + 2) call).map Prod.fst

end Reading

section Page

def holderMark : List Char :=
  "<div id=\"".toList

def sourceMark : List Char :=
  " src=\"".toList

def guardMark : List Char :=
  "<![CDATA[\n".toList

def pageStart : List Char :=
  "<!DOCTYPE html>\n<html>\n<head>\n<script type=\"text/javascript\"".toList

def bodyStart : List Char :=
  "></script>\n</head>\n<body>\n".toList

def scriptStart : List Char :=
  "></div>\n<script type=\"text/javascript\">\n//".toList

def paperMark (c : Canvas) : List Char :=
  ("var " ++ c.name ++ " = new Raphael(").toList

theorem page_chars (c : Canvas) (config : Config) {id : String} {width height : UInt32}
    (placed : c.target = .container id width height) :
    ∃ rest, (page c config).toList = pageStart ++ (sourceMark ++
      ((Text.escapeHtml config.source).toList ++ ('"' :: bodyStart ++ (holderMark ++
        ((Text.escapeHtml id).toList ++ ('"' :: scriptStart ++ (guardMark ++
          (c.script.toList ++ rest)))))))) := by
  have whole : page c config = "<!DOCTYPE html>\n<html>\n<head>\n" ++
      ("<script type=\"text/javascript\" src=\"" ++ Text.escapeHtml config.source ++
        "\"></script>") ++ "\n</head>\n<body>\n" ++ holder c.target ++ c.scriptElement ++
      "\n</body>\n</html>" := rfl
  have held : holder c.target = "<div id=\"" ++ Text.escapeHtml id ++ "\"></div>\n" := by
    rw [placed]
    rfl
  have start : pageStart ++ sourceMark = "<!DOCTYPE html>\n<html>\n<head>\n".toList ++
      "<script type=\"text/javascript\" src=\"".toList := by decide
  have body : '"' :: bodyStart = "\"></script>".toList ++ "\n</head>\n<body>\n".toList := by decide
  have script : '"' :: scriptStart ++ guardMark =
      "\"></div>\n".toList ++ (elementStart ++ ['\n']) := by decide
  refine ⟨'\n' :: elementEnd ++ "\n</body>\n</html>".toList, ?_⟩
  rw [whole, held, ← List.append_assoc pageStart, start, body,
    ← List.append_assoc ('"' :: scriptStart), script]
  simp only [String.toList_append, Canvas.scriptElement, element_chars, List.append_assoc,
    List.cons_append, List.nil_append]
  rfl

theorem script_begins (c : Canvas) {id : String} {width height : UInt32}
    (placed : c.target = .container id width height) :
    ∃ rest, c.script.toList =
      paperMark c ++ '"' :: (Text.quotedChars id.toList ++ '"' :: rest) := by
  obtain ⟨others, made⟩ : ∃ others,
      c.construction = "new Raphael(" ++ (Text.quote id ++ others) := by
    let extent := [(Target.ofWord width).script, (Target.ofWord height).script]
    refine ⟨", " ++ ", ".intercalate extent ++ ")", ?_⟩
    rw [Canvas.construction, placed, Value.scriptArguments, Target.arguments, List.map_cons,
      List.map_cons, String.intercalate_cons_cons]
    simp only [String.append_assoc]
    rfl
  obtain ⟨lines, whole⟩ : ∃ lines,
      c.script = "var " ++ c.name ++ " = " ++ c.construction ++ ";" ++ lines := by
    rw [Canvas.script]
    cases c.statements with
    | nil => exact ⟨"", by rw [List.map_nil, String.intercalate_singleton, String.append_empty]⟩
    | cons st more =>
      refine ⟨"\n" ++ "\n".intercalate ((st :: more).map Statement.text), ?_⟩
      rw [List.map_cons, String.intercalate_cons_cons, String.append_assoc]
  refine ⟨(others ++ ";" ++ lines).toList, ?_⟩
  have mark : paperMark c = ("var " ++ c.name ++ " = ").toList ++ "new Raphael(".toList := by
    rw [← String.toList_append, String.append_assoc]
    rfl
  rw [whole, made, mark]
  simp only [String.toList_append, Value.quote_chars, List.append_assoc, List.cons_append,
    List.nil_append]

theorem word_dropped (word rest : List Char) :
    Json.Reading.dropWord? word (word ++ rest) = some rest := by
  have stands := List.isPrefixOf_iff_prefix.mpr (List.prefix_append word rest)
  rw [Json.Reading.dropWord?, if_pos stands, List.drop_left' rfl]

theorem first_argument (s : String) (rest : List Char) :
    argument? ('"' :: (Text.quotedChars s.toList ++ '"' :: rest)) = some (.text (some s)) := by
  rw [argument?, Json.Reading.value?, if_pos rfl, Text.quoted_read]
  rfl

/-- A page is about one container, whatever its id, the source of the library and the drawing are:
    the id of the holder, read as an attribute, and the first argument of the call that makes the
    paper, read as JSON, are both the container, and the source of the library is read as it was
    given. For in escaped text no quote and no bracket is left, and no ampersand but those of its
    references. -/
theorem page_about_container (others : List Char → Option (List Char × Nat)) (c : Canvas)
    (config : Config) (id : String) (width height : UInt32)
    (placed : c.target = .container id width height) :
    attribute? others holderMark (page c config).toList = some id ∧
    ((behind? guardMark (page c config).toList).bind fun script =>
      (Json.Reading.dropWord? (paperMark c) script).bind argument?) = some (.text (some id)) ∧
    attribute? others sourceMark (page c config).toList = some config.source ∧
    ∀ s : String, (∀ x ∈ ['<', '>', '"', '\''], x ∉ (Text.escapeHtml s).toList) ∧
      ∀ front rest, (Text.escapeHtml s).toList = front ++ '&' :: rest →
        ∃ r ∈ Text.references, r.1 <+: rest := by
  obtain ⟨rest, chars⟩ := page_chars c config placed
  -- No mark is met before its own place: none begins in an escaped text, for want of brackets.
  have escaped {mark : List Char} (tagged : mark.head? = some '<') (s : String) :
      passes mark (Text.escapeHtml s).toList = true := by
    obtain ⟨rest, rfl⟩ := List.head?_eq_some_iff.mp tagged
    exact passes_without ((Text.escaped_clean s).1 '<' (by decide))
  have source : ∃ back, behind? sourceMark (page c config).toList =
      some ((Text.escapeHtml config.source).toList ++ '"' :: back) := by
    rw [chars, behind_past (by decide), behind_at (by decide)]
    exact ⟨_, rfl⟩
  have held : ∃ back, behind? holderMark (page c config).toList =
      some ((Text.escapeHtml id).toList ++ '"' :: back) := by
    rw [chars, behind_past (by decide), behind_past (by decide),
      behind_past (escaped (by decide) _), behind_past (by decide), behind_at (by decide)]
    exact ⟨_, rfl⟩
  have guarded : behind? guardMark (page c config).toList = some (c.script.toList ++ rest) := by
    rw [chars, behind_past (by decide), behind_past (by decide),
      behind_past (escaped (by decide) _), behind_past (by decide), behind_past (by decide),
      behind_past (escaped (by decide) _), behind_past (by decide), behind_at (by decide)]
  refine ⟨attribute_read others held.choose_spec, ?_,
    attribute_read others source.choose_spec, Text.escaped_clean⟩
  obtain ⟨lines, begins⟩ := script_begins c placed
  rw [guarded, Option.bind_some, begins, List.append_assoc, word_dropped, Option.bind_some]
  simp only [List.cons_append, List.append_assoc]
  exact first_argument id _

theorem page_about_quoted_container :
    let id := "\"><div id=\"x\">&amp;&#39;</script>\\u0041"
    let s : Scene := ⟨⟨some id, 0, 0, 9, 9, none⟩, []⟩
    let uids := Uid.Strategy.sequential.suffix ⟨fun _ => 0, fun _ => 0, fun _ => 0⟩
    let config : Config := ⟨"2", "' src=\"&lt", .sequential⟩
    let others : List Char → Option (List Char × Nat) := fun _ => none
    ∃ c, s.render uids = .ok c ∧
      holder c.target = "<div id=\"&quot;&gt;&lt;div id=&quot;x&quot;&gt;&amp;amp;&amp;#39;" ++
        "&lt;/script&gt;\\u0041\"></div>\n" ∧
      c.script = "var _raphael_canvas_1 = " ++
        "new Raphael(\"\\\"><div id=\\\"x\\\">&amp;&#39;<\\/script>\\\\u0041\", 9, 9);" ∧
      attribute? others holderMark (page c config).toList = some id ∧
      ((behind? guardMark (page c config).toList).bind fun script =>
        (Json.Reading.dropWord? (paperMark c) script).bind argument?) = some (.text (some id)) ∧
      attribute? others sourceMark (page c config).toList = some config.source := by
  intro id s uids config others
  have rendered := Scene.render_clean (show s.faults = [] by decide) uids
  obtain ⟨held, argument, source, _⟩ :=
    page_about_container others (s.drawing uids) config id 9 9 rfl
  exact ⟨_, rendered, by decide +kernel, by decide +kernel, held, argument, source⟩

end Page

end SceneScript
