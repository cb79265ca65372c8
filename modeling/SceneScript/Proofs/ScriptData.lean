import SceneScript.Proofs.Occurrences

/- Where a browser takes the element of a script to end. In script data an end tag ends the
   element, also behind `<!--`, but not behind a `<script` that follows on `<!--`, until `-->` or a
   further end tag. A quoted text has no `</`, so nothing ends the element early. But texts may have
   the other marks, so whether its own end tag ends the element depends on where they leave the
   reader. -/
namespace SceneScript.ScriptData

/-- How end tags are meant: behind `<!--` script data is escaped, and behind `<script` in escaped
    script data it is escaped twice. -/
inductive Mode where
  | plain
  | escaped
  | doubled
  deriving DecidableEq, Repr

/-- What has been read of a mark. -/
inductive State where
  /-- Nothing but up to two hyphens. -/
  | text (mode : Mode) (hyphens : Nat)
  | less (mode : Mode)
  | marked (hyphen : Bool)
  | endTag (mode : Mode) (name : List Char)
  | startTag (name : List Char)
  deriving DecidableEq, Repr

namespace State

def mode : State → Mode
  | text m _ | less m | endTag m _ => m
  | marked _ => .plain
  | startTag _ => .escaped

end State

def isDelimiter (c : Char) : Bool :=
  ['\t', '\n', '\x0c', ' ', '/', '>'].contains c

def fresh (m : Mode) (c : Char) : State :=
  if c = '<' then .less m else if c = '-' then .text m 1 else .text m 0

/-- Reads a character; there is no state behind the name of an end tag that ends the element. -/
def step : State → Char → Option State
  | .text m hyphens, c =>
    if c = '-' then some (.text m (min 2 (hyphens + 1)))
    else if c = '>' ∧ hyphens = 2 then some (.text .plain 0)
    else some (fresh m c)
  | .less m, c =>
    if c = '/' then some (.endTag m [])
    else if m = .plain ∧ c = '!' then some (.marked false)
    else if m = .escaped ∧ c.isAlpha then some (.startTag [c.toLower])
    else some (fresh m c)
  | .marked hyphen, c =>
    if c = '-' then some (if hyphen then .text .escaped 2 else .marked true)
    else some (fresh .plain c)
  | .startTag name, c =>
    if c.isAlpha then some (.startTag (name ++ [c.toLower]))
    else if isDelimiter c ∧ name = "script".toList then some (.text .doubled 0)
    else some (fresh .escaped c)
  | .endTag m name, c =>
    if c.isAlpha then some (.endTag m (name ++ [c.toLower]))
    else if isDelimiter c ∧ name = "script".toList then
      if m = .doubled then some (.text .escaped 0) else none
    else some (fresh m c)

def run (st : State) : List Char → Option State
  | [] => some st
  | c :: cs => (step st c).bind fun st => run st cs

/-- What is left behind the name of the end tag that ends the element, if one does. -/
def closing? (st : State) : List Char → Option (List Char)
  | [] => none
  | c :: cs =>
    match step st c with
    | some st => closing? st cs
    | none => some (c :: cs)

def elementClosing? (element : List Char) : Option (List Char) :=
  closing? (.text .plain 0) ((element.dropWhile fun c => c != '>').drop 1)

def Mode.after (m : Mode) (s : String) : Mode :=
  match run (.text m 0) (Text.quotedChars s.toList) with
  | some st => st.mode
  | none => m

section Runs
variable {st next : State} {front back cs : List Char}

theorem run_append (front back : List Char) (st : State) :
    run st (front ++ back) = (run st front).bind fun st => run st back := by
  induction front generalizing st with
  | nil => rfl
  | cons c front ih =>
    rw [List.cons_append, run, run, Option.bind_assoc]
    exact congrArg _ (funext ih)

theorem closing_behind (passed : run st front = some next) (back : List Char) :
    closing? st (front ++ back) = closing? next back := by
  induction front generalizing st with
  | nil => exact congrArg (closing? · back) (Option.some.inj passed)
  | cons c front ih =>
    rw [run, Option.bind_eq_some_iff] at passed
    obtain ⟨between, read, rest⟩ := passed
    rw [List.cons_append, closing?, read]
    exact ih rest

def State.IsCalm : State → Prop
  | .endTag _ _ => False
  | _ => True

theorem fresh_calm (m : Mode) (c : Char) :
    (fresh m c).IsCalm ∧ ∀ n, fresh m c = .less n → c = '<' := by
  unfold fresh
  split
  · rename_i opens
    exact ⟨trivial, fun _ _ => opens⟩
  · split <;> exact ⟨trivial, nofun⟩

theorem step_calm (calm : st.IsCalm) {c : Char} (apart : ∀ m, st = .less m → c ≠ '/') :
    ∃ next, step st c = some next ∧ next.IsCalm ∧ ∀ m, next = .less m → c = '<' := by
  cases st with
  | text m hyphens =>
    rw [step]
    split
    · exact ⟨_, rfl, trivial, nofun⟩
    · split
      · exact ⟨_, rfl, trivial, nofun⟩
      · exact ⟨_, rfl, fresh_calm m c⟩
  | less m =>
    rw [step, if_neg (apart m rfl)]
    split
    · exact ⟨_, rfl, trivial, nofun⟩
    · split
      · exact ⟨_, rfl, trivial, nofun⟩
      · exact ⟨_, rfl, fresh_calm m c⟩
  | marked hyphen =>
    rw [step]
    split
    · cases hyphen <;> exact ⟨_, rfl, trivial, nofun⟩
    · exact ⟨_, rfl, fresh_calm .plain c⟩
  | startTag name =>
    rw [step]
    split
    · exact ⟨_, rfl, trivial, nofun⟩
    · split
      · exact ⟨_, rfl, trivial, nofun⟩
      · exact ⟨_, rfl, fresh_calm .escaped c⟩
  | endTag m name => exact calm.elim

theorem run_calm (none_closes : occurrences "</".toList cs = []) (calm : st.IsCalm)
    (apart : ∀ m, st = .less m → cs.head? ≠ some '/') :
    ∃ next, run st cs = some next ∧ next.IsCalm := by
  induction cs generalizing st with
  | nil => exact ⟨st, rfl, calm⟩
  | cons c cs ih =>
    obtain ⟨between, read, quiet, opened⟩ := step_calm calm (c := c) fun m less slash =>
      apart m less (congrArg some slash)
    have miss : ¬ "</".toList <+: c :: cs := fun hit => by
      rw [occurrences_hit hit] at none_closes
      contradiction
    rw [occurrences_miss miss] at none_closes
    obtain ⟨next, rest, still⟩ := ih none_closes quiet fun m less slash => by
      obtain ⟨tail, rfl⟩ := List.head?_eq_some_iff.mp slash
      exact miss (opened m less ▸ ⟨tail, rfl⟩)
    exact ⟨next, by rw [run, read]; exact rest, still⟩

theorem quote_step (calm : st.IsCalm) : step st '"' = some (.text st.mode 0) := by
  cases st with
  | text m hyphens => rfl
  | less m => cases m <;> rfl
  | marked hyphen => rfl
  | startTag name => rfl
  | endTag m name => exact calm.elim

theorem bare_step {c : Char} (bare : isSpread c = true) (m : Mode) (hyphens : Nat) :
    ∃ more, step (.text m hyphens) c = some (.text m more) := by
  have opens : c ≠ '<' := by
    rintro rfl
    contradiction
  have closes : c ≠ '>' := by
    rintro rfl
    contradiction
  by_cases hyphen : c = '-'
  · exact ⟨_, if_pos hyphen⟩
  · have plain : fresh m c = .text m 0 := by rw [fresh, if_neg opens, if_neg hyphen]
    refine ⟨0, ?_⟩
    rw [step, if_neg hyphen, if_neg fun close => closes close.1, plain]

theorem quoted_run (m : Mode) (hyphens : Nat) (s : String) :
    run (.text m hyphens) (Text.quote s).toList = some (.text (m.after s) 0) := by
  have outside : (State.text m 0).IsCalm := trivial
  obtain ⟨inside, read, calm⟩ := run_calm (Text.quoted_no_close s.toList) outside nofun
  have mode : m.after s = inside.mode := by rw [Mode.after, read]
  have opened : step (.text m hyphens) '"' = some (.text m 0) := quote_step trivial
  rw [Value.quote_chars, run, opened, Option.bind_some, run_append, read, Option.bind_some, run,
    quote_step calm, mode]
  rfl

theorem woven_run {texts : List String} (woven : Woven isSpread texts cs) (m : Mode)
    (hyphens : Nat) :
    ∃ more, run (.text m hyphens) cs = some (.text (texts.foldl Mode.after m) more) := by
  induction woven generalizing m hyphens with
  | nothing => exact ⟨hyphens, rfl⟩
  | bare own rest ih =>
    obtain ⟨between, read⟩ := bare_step own m hyphens
    rw [run, read]
    exact ih m between
  | quoted s rest ih =>
    rw [run_append, quoted_run]
    exact ih (m.after s) 0

end Runs

section Unescaped
variable {st next : State} {c : Char} {cs : List Char}

def State.pending : State → List Char
  | .less .plain => ['<']
  | .marked false => ['<', '!']
  | .marked true => ['<', '!', '-']
  | _ => []

theorem fresh_pending (front : List Char)
    (absent : occurrences "<!--".toList (front ++ c :: cs) = []) :
    (fresh .plain c).mode = .plain ∧
      occurrences "<!--".toList ((fresh .plain c).pending ++ cs) = [] := by
  have behind := occurrences_suffix absent
  unfold fresh
  split
  · rename_i opens
    subst c
    exact ⟨rfl, behind⟩
  · have later : occurrences "<!--".toList ([c] ++ cs) = [] := behind
    split <;> exact ⟨rfl, occurrences_suffix later⟩

theorem plain_step (own : st.mode = .plain) (read : step st c = some next)
    (absent : occurrences "<!--".toList (st.pending ++ c :: cs) = []) :
    next.mode = .plain ∧ occurrences "<!--".toList (next.pending ++ cs) = [] := by
  have whole : occurrences "<!--".toList ((st.pending ++ [c]) ++ cs) = [] := by simpa using absent
  have rest := occurrences_suffix whole
  cases st with
  | text m hyphens =>
    obtain rfl : m = .plain := own
    simp only [step] at read
    split at read
    · cases read
      exact ⟨rfl, rest⟩
    · split at read
      · cases read
        exact ⟨rfl, rest⟩
      · cases read
        exact fresh_pending _ absent
  | less m =>
    obtain rfl : m = .plain := own
    simp only [step, true_and, reduceCtorEq, false_and, if_false] at read
    split at read
    · cases read
      exact ⟨rfl, rest⟩
    · split at read
      · rename_i mark
        subst c
        cases read
        exact ⟨rfl, absent⟩
      · cases read
        exact fresh_pending _ absent
  | marked hyphen =>
    simp only [step] at read
    split at read
    · rename_i second
      subst c
      cases hyphen with
      | false =>
        cases read
        exact ⟨rfl, absent⟩
      | true =>
        have hit : "<!--".toList <+: '<' :: '!' :: '-' :: '-' :: cs := ⟨cs, rfl⟩
        have found := (occurrences_hit hit).symm.trans absent
        contradiction
    · cases read
      exact fresh_pending _ absent
  | startTag name => contradiction
  | endTag m name =>
    obtain rfl : m = .plain := own
    simp only [step] at read
    split at read
    · cases read
      exact ⟨rfl, rest⟩
    · split at read
      · contradiction
      · cases read
        exact fresh_pending _ absent

theorem plain_run (own : st.mode = .plain) (read : run st cs = some next)
    (absent : occurrences "<!--".toList (st.pending ++ cs) = []) : next.mode = .plain := by
  induction cs generalizing st with
  | nil =>
    cases read
    exact own
  | cons c cs ih =>
    rw [run, Option.bind_eq_some_iff] at read
    obtain ⟨between, first, later⟩ := read
    obtain ⟨still, none_left⟩ := plain_step own first absent
    exact ih still later none_left

theorem after_plain {s : String} (absent : occurrences "<!--".toList s.toList = []) :
    Mode.after .plain s = .plain := by
  have marked : ∀ x ∈ "<!--".toList, x ∈ Text.marks ∧ x ≠ '/' :=
    List.all_iff_forall_prop.mp (by decide)
  have quoted := Text.quoted_occurrences marked (by decide) s.toList
  rw [absent] at quoted
  unfold Mode.after
  split
  · rename_i next read
    exact plain_run rfl read (List.length_eq_zero_iff.mp quoted)
  · rfl

theorem texts_plain {texts : List String}
    (absent : ∀ t ∈ texts, occurrences "<!--".toList t.toList = []) :
    texts.foldl Mode.after .plain = .plain := by
  induction texts with
  | nil => rfl
  | cons t rest ih =>
    obtain ⟨first, later⟩ := List.forall_mem_cons.mp absent
    rw [List.foldl_cons, after_plain first]
    exact ih later

end Unescaped

section Element

theorem end_closing (m : Mode) (hyphens : Nat) :
    closing? (.text m hyphens) ('\n' :: elementEnd) =
      if m = .doubled then none else some ['>'] := by
  have line : step (.text m hyphens) '\n' = some (.text m 0) := rfl
  rw [closing?, line]
  cases m <;> decide

theorem plain_closing {c : Canvas} (plain : c.Plain) :
    elementClosing? c.scriptElement.toList =
      if c.texts.foldl Mode.after .plain = .doubled then none else some ['>'] := by
  have start : elementStart =
      "<script type=\"text/javascript\"".toList ++ '>' :: "\n//<![CDATA[".toList := by decide
  have inside (rest : List Char) :
      ((elementStart ++ rest).dropWhile fun c => c != '>').drop 1 =
        "\n//<![CDATA[".toList ++ rest := by
    rw [start, List.append_assoc, List.dropWhile_append_of_pos (List.all_eq_true.mp (by decide))]
    rfl
  have guard : run (.text .plain 0) ("\n//<![CDATA[".toList ++ ['\n']) = some (.text .plain 0) := by
    decide
  obtain ⟨hyphens, read⟩ := woven_run (c.script_weaves plain) .plain 0
  rw [elementClosing?, Canvas.scriptElement, element_chars, inside, ← List.singleton_append,
    ← List.append_assoc, closing_behind guard, closing_behind read, end_closing]

/-- The element of a scene ends at its own end tag and nowhere else, or it does not end at all: this
    when its texts, in the order in which they are quoted, leave the reader behind a `<script` in
    escaped script data. Without `<!--` in a text it always ends there. -/
theorem element_ends (s : Scene) (plain : s.isPlain = true) (ambient : Ambient) (c : Canvas)
    (rendered : s.render (Uid.Strategy.sequential.suffix ambient) = .ok c) :
    (s.texts.foldl Mode.after .plain ≠ .doubled →
      elementClosing? c.scriptElement.toList = some ['>']) ∧
    (s.texts.foldl Mode.after .plain = .doubled →
      elementClosing? c.scriptElement.toList = none) ∧
    ((∀ t ∈ s.texts, occurrences "<!--".toList t.toList = []) →
      elementClosing? c.scriptElement.toList = some ['>']) := by
  obtain ⟨own, texts⟩ := Scene.rendered_plain plain rendered
  have closing := plain_closing own
  rw [texts] at closing
  refine ⟨fun ends => closing.trans (if_neg ends), fun open_end => closing.trans (if_pos open_end),
    fun absent => closing.trans (if_neg ?_)⟩
  rw [texts_plain absent]
  decide

theorem element_ends_of_marks :
    let s : Scene := ⟨⟨some "<script>", 0, 0, 9, 9, none⟩,
      [⟨.text 0 0 "<!--", some "a", [], [], none⟩,
        ⟨.text 0 0 "</script> <SCRIPT ", some "b", [("x", .text "-->")], [], none⟩]⟩
    let uids := Uid.Strategy.sequential.suffix ⟨fun _ => 0, fun _ => 0, fun _ => 0⟩
    s.isPlain = true ∧ ∃ c, s.render uids = .ok c ∧
      s.texts.foldl Mode.after .plain = .plain ∧
      (s.texts.take 3).foldl Mode.after .plain = .doubled ∧
      elementClosing? c.scriptElement.toList = some ['>'] := by
  intro s uids
  have plain : s.isPlain = true := by decide
  have rendered := Scene.render_clean (show s.faults = [] by decide) uids
  obtain ⟨ends, _⟩ := element_ends s plain _ _ rendered
  have left : s.texts.foldl Mode.after .plain = .plain := by decide +kernel
  exact ⟨plain, _, rendered, left, by decide +kernel, ends (by rw [left]; decide)⟩

theorem element_kept_open :
    let s : Scene := ⟨⟨some "holder", 0, 0, 9, 9, none⟩,
      [⟨.text 0 0 "<!--<script>", none, [], [], none⟩]⟩
    let uids := Uid.Strategy.sequential.suffix ⟨fun _ => 0, fun _ => 0, fun _ => 0⟩
    s.isPlain = true ∧ ∃ c, s.render uids = .ok c ∧
      elementClosing? c.scriptElement.toList = none := by
  intro s uids
  have rendered := Scene.render_clean (show s.faults = [] by decide) uids
  exact ⟨by decide, _, rendered, by decide +kernel⟩

end Element

end SceneScript.ScriptData
