import SceneScript.Proofs.Calls
import SceneScript.Proofs.References

/- A script is woven from bare characters and quoted texts. Without verbatim parts, raw statements
   and callbacks, all that a script has outside its quoted texts is visible ASCII, with no quote and
   no bracket of a tag, and the quoted texts are those that were given, in order. -/
namespace SceneScript

/-- Whether a statement may have a character outside its quoted texts. -/
def isBare (c : Char) : Bool :=
  0x20 ≤ c.toNat && c.toNat < 0x7F && c != '"' && c != '<' && c != '>'

/-- A bare character that opens neither a text in single quotes nor a comment or a pattern. -/
def isMark (c : Char) : Bool :=
  isBare c && c != '\'' && c != '/'

def isSpread (c : Char) : Bool :=
  isBare c || c == '\n'

/-- Characters of one sort with quoted texts among them. -/
inductive Woven (sort : Char → Bool) : List String → List Char → Prop where
  | nothing : Woven sort [] []
  | bare {texts : List String} {c : Char} {cs : List Char} (own : sort c = true)
      (rest : Woven sort texts cs) : Woven sort texts (c :: cs)
  | quoted {texts : List String} {cs : List Char} (s : String) (rest : Woven sort texts cs) :
      Woven sort (s :: texts) ((Text.quote s).toList ++ cs)

namespace Woven
variable {sort wider : Char → Bool} {texts more : List String} {cs ds : List Char}

theorem of_bare (all_bare : ∀ c ∈ cs, sort c = true) : Woven sort [] cs := by
  induction cs with
  | nil => exact .nothing
  | cons c cs ih =>
    obtain ⟨own, others⟩ := List.forall_mem_cons.mp all_bare
    exact .bare own (ih others)

theorem append (first : Woven sort texts cs) (second : Woven sort more ds) :
    Woven sort (texts ++ more) (cs ++ ds) := by
  induction first with
  | nothing => exact second
  | bare own rest ih => exact .bare own ih
  | quoted s rest ih =>
    rw [List.append_assoc]
    exact .quoted s ih

theorem widened (woven : Woven sort texts cs) (wide : ∀ c, sort c = true → wider c = true) :
    Woven wider texts cs := by
  induction woven with
  | nothing => exact .nothing
  | bare own rest ih => exact .bare (wide _ own) ih
  | quoted s rest ih => exact .quoted s ih

end Woven

def Weaves (sort : Char → Bool) (texts : List String) (script : String) : Prop :=
  Woven sort texts script.toList

namespace Weaves
variable {sort : Char → Bool} {texts more : List String} {a b : String}

theorem bare (all_bare : a.toList.all sort = true) : Weaves sort [] a :=
  Woven.of_bare (List.all_eq_true.mp all_bare)

theorem quote (s : String) : Weaves sort [s] (Text.quote s) := by
  have woven : Woven sort [s] ((Text.quote s).toList ++ []) := .quoted s .nothing
  rwa [List.append_nil] at woven

theorem append (first : Weaves sort texts a) (second : Weaves sort more b) :
    Weaves sort (texts ++ more) (a ++ b) := by
  rw [Weaves, String.toList_append]
  exact Woven.append first second

theorem before (first : Weaves sort texts a) (all_bare : b.toList.all sort = true) :
    Weaves sort texts (a ++ b) := by
  have joined := first.append (bare all_bare)
  rwa [List.append_nil] at joined

theorem behind (second : Weaves sort texts b) (all_bare : a.toList.all sort = true) :
    Weaves sort texts (a ++ b) :=
  (bare all_bare).append second

theorem joined {α : Type} {separator : String} (apart : separator.toList.all sort = true)
    (texts : α → List String) (script : α → String) (items : List α)
    (each : ∀ item ∈ items, Weaves sort (texts item) (script item)) :
    Weaves sort (items.flatMap texts) (separator.intercalate (items.map script)) := by
  induction items with
  | nil => exact bare rfl
  | cons item rest ih =>
    obtain ⟨own, others⟩ := List.forall_mem_cons.mp each
    cases rest with
    | nil => simpa using own
    | cons next rest =>
      rw [List.flatMap_cons, List.map_cons, List.map_cons, String.intercalate_cons_cons]
      exact (own.before apart).append (ih others)

end Weaves

section Bare

theorem part_bare {c : Char} (part : Identifier.isPart c = true) : isBare c = true := by
  have apart : c ≠ '"' ∧ c ≠ '<' ∧ c ≠ '>' := by
    refine ⟨?_, ?_, ?_⟩ <;> (rintro rfl; contradiction)
  have visible : 0x20 ≤ c.toNat ∧ c.toNat < 0x7F := by
    delta Identifier.isPart Char.isAlphanum Char.isAlpha Char.isUpper Char.isLower Char.isDigit
      at part
    simp only [Bool.or_eq_true, Bool.and_eq_true, decide_eq_true_eq, beq_iff_eq, ge_iff_le,
      UInt32.le_iff_toNat_le] at part
    change ((((65 ≤ c.toNat ∧ c.toNat ≤ 90) ∨ (97 ≤ c.toNat ∧ c.toNat ≤ 122)) ∨
      (48 ≤ c.toNat ∧ c.toNat ≤ 57)) ∨ c = '_') ∨ c = '$' at part
    rcases part with (letter_or_digit | rfl) | rfl
    · omega
    · decide
    · decide
  simp [isBare, visible, apart]

theorem digit_bare {c : Char} (digit : c.isDigit = true) : isBare c = true :=
  part_bare (by simp [Identifier.isPart, Char.isAlphanum, digit])

theorem identifier_bare {name : String} (valid : isIdentifier name = true) :
    name.toList.all isBare = true :=
  List.all_eq_true.mpr fun c member => part_bare (Call.identifier_chars valid c member)

theorem digit_mark {c : Char} (digit : c.isDigit = true) : isMark c = true := by
  have apart : c ≠ '\'' ∧ c ≠ '/' := by
    refine ⟨?_, ?_⟩ <;> (rintro rfl; contradiction)
  simp [isMark, digit_bare digit, apart]

theorem mark_bare {c : Char} (mark : isMark c = true) : isBare c = true := by
  rw [isMark, Bool.and_eq_true, Bool.and_eq_true] at mark
  exact mark.1.1

theorem number_marks (x : Float) : (Number.text x).toList.all isMark = true := by
  rw [Number.text, String.toList_ofList]
  rcases Number.toChars_parts x with word | ⟨negative, whole, fraction, parts, valid, places⟩
  · have words : ∀ word ∈ Json.Reading.wordNumbers, word.all isMark = true := by decide
    exact words _ word
  · have digits_marks {ds : List Char} (digits : ∀ d ∈ ds, d.isDigit = true) :
        ds.all isMark = true :=
      List.all_eq_true.mpr fun d member => digit_mark (digits d member)
    have fraction_marks : fraction.all isMark = true := by
      rcases places with rfl | ⟨ds, rfl, _, digits⟩
      · rfl
      · rw [List.all_cons, digits_marks digits]
        rfl
    have sign_marks : (if negative then ['-'] else []).all isMark = true := by
      cases negative <;> rfl
    rw [parts, List.all_append, List.all_append, sign_marks, digits_marks valid.digits,
      fraction_marks]
    rfl

theorem number_bare (x : Float) : (Number.text x).toList.all isBare = true :=
  List.all_eq_true.mpr fun c member =>
    mark_bare (List.all_eq_true.mp (number_marks x) c member)

end Bare

namespace Value

mutual

def texts : Value → List String
  | text s => [s]
  | list items => textsItems items
  | object entries => textsEntries entries
  | _ => []

def textsItems : List Value → List String
  | [] => []
  | v :: rest => v.texts ++ textsItems rest

def textsEntries : List (String × Value) → List String
  | [] => []
  | (key, v) :: rest => key :: (v.texts ++ textsEntries rest)

end

mutual

theorem script_marks (v : Value) (plain : v.isPlain = true) : Weaves isMark v.texts v.script := by
  cases v with
  | null => exact .bare (by decide)
  | bool b => cases b <;> exact .bare (by decide)
  | number x => exact .bare (number_marks x)
  | text s => exact .quote s
  | list items => exact ((items_marks items plain).behind (by decide)).before (by decide)
  | object entries => exact ((entries_marks entries plain).behind (by decide)).before (by decide)
  | verbatim source => contradiction

theorem items_marks (items : List Value) (plain : isPlainItems items = true) :
    Weaves isMark (textsItems items) (scriptItems items) := by
  cases items with
  | nil => exact .bare rfl
  | cons v items =>
    obtain ⟨own, others⟩ := Bool.and_eq_true_iff.mp plain
    have first := script_marks v own
    cases items with
    | nil => simpa [textsItems, scriptItems] using first
    | cons w items =>
      have later := items_marks (w :: items) others
      exact (first.before (by decide)).append later

theorem entries_marks (entries : List (String × Value)) (plain : isPlainEntries entries = true) :
    Weaves isMark (textsEntries entries) (scriptEntries entries) := by
  cases entries with
  | nil => exact .bare rfl
  | cons entry entries =>
    obtain ⟨key, v⟩ := entry
    obtain ⟨own, others⟩ := Bool.and_eq_true_iff.mp plain
    have first : Weaves isMark (key :: v.texts) (Text.quote key ++ ":" ++ v.script) :=
      ((Weaves.quote key).before (by decide)).append (script_marks v own)
    cases entries with
    | nil => simpa [textsEntries, scriptEntries] using first
    | cons w entries =>
      have later := entries_marks (w :: entries) others
      exact (first.before (by decide)).append later

end

theorem script_weaves (v : Value) (plain : v.isPlain = true) : Weaves isBare v.texts v.script :=
  Woven.widened (script_marks v plain) fun _ => mark_bare

theorem isPlainItems_iff (items : List Value) :
    isPlainItems items = true ↔ ∀ v ∈ items, v.isPlain = true := by
  induction items with
  | nil => simp [isPlainItems]
  | cons v rest ih => rw [isPlainItems, Bool.and_eq_true, ih, List.forall_mem_cons]

theorem textsItems_joined (items : List Value) : textsItems items = items.flatMap texts := by
  induction items with
  | nil => rfl
  | cons v rest ih => rw [textsItems, ih, List.flatMap_cons]

theorem arguments_weave {arguments : List Value} (plain : isPlainItems arguments = true) :
    Weaves isBare (textsItems arguments) (scriptArguments arguments) := by
  rw [textsItems_joined]
  exact .joined (by decide) texts script arguments fun v member =>
    script_weaves v ((isPlainItems_iff arguments).mp plain v member)

end Value

def Continuation.isPlain : Continuation → Bool
  | nothing => true
  | start motion after => motion.attributes.isPlain && after.isPlain
  | run _ | startAndRun _ _ _ => false

def Continuation.texts : Continuation → List String
  | nothing | run _ => []
  | start motion after | startAndRun motion after _ => motion.attributes.texts ++ after.texts

namespace Statement

def isPlain : Statement → Bool
  | create _ _ method arguments | call _ method arguments =>
    isIdentifier method && Value.isPlainItems arguments
  | field _ _ part => isIdentifier part
  | animate motion after | launch motion after | cycle motion after =>
    motion.attributes.isPlain && after.isPlain
  | join _ _ | node _ _ | measure _ _ _ => true
  | raw _ => false

def texts : Statement → List String
  | create _ _ _ arguments | call _ _ arguments => Value.textsItems arguments
  | animate motion after | launch motion after | cycle motion after =>
    motion.attributes.texts ++ after.texts
  | join _ _ | node _ _ | measure _ _ _ | field _ _ _ | raw _ => []

end Statement

theorem motion_weaves {m : Motion} {texts : List String} {finished : Option String}
    (plain : m.attributes.isPlain = true) (target : isIdentifier m.target = true)
    (follows : Weaves isBare texts (match finished with | none => "" | some f => ", " ++ f)) :
    Weaves isBare (m.attributes.texts ++ texts) (m.text finished) := by
  have opened : (m.target ++ ".animate(").toList.all isBare = true := by
    rw [String.toList_append, List.all_append, identifier_bare target]
    decide
  have attributes := (Value.script_weaves m.attributes plain).behind opened
  have timed := (attributes.before (b := ", ") (by decide)).before (number_bare m.milliseconds)
  exact (timed.append follows).before (by decide)

theorem function_weaves {texts : List String} {body : String} (woven : Weaves isBare texts body) :
    Weaves isBare texts (functionText body) :=
  (woven.behind (by decide)).before (by decide)

theorem continuation_weaves (after : Continuation) (plain : after.isPlain = true)
    (targets : ∀ target ∈ after.targets, isIdentifier target = true) :
    Weaves isBare after.texts (match after.text? with | none => "" | some f => ", " ++ f) := by
  induction after with
  | nothing => exact .bare rfl
  | start motion after ih =>
    obtain ⟨own, later⟩ := Bool.and_eq_true_iff.mp plain
    obtain ⟨target, others⟩ := List.forall_mem_cons.mp targets
    have called := (motion_weaves own target (ih later others)).before (b := ";") (by decide)
    exact (function_weaves called).behind (by decide)
  | run body => contradiction
  | startAndRun motion after body => contradiction

theorem chain_weaves {motion : Motion} {after : Continuation}
    (plain : (motion.attributes.isPlain && after.isPlain) = true)
    (targets : ∀ target ∈ motion.target :: after.targets, isIdentifier target = true) :
    Weaves isBare (motion.attributes.texts ++ after.texts) (motion.text after.text?) := by
  obtain ⟨own, later⟩ := Bool.and_eq_true_iff.mp plain
  obtain ⟨target, others⟩ := List.forall_mem_cons.mp targets
  exact motion_weaves own target (continuation_weaves after later others)

theorem launcher_weaves {motion : Motion} {after : Continuation} {texts : List String}
    (chain : Weaves isBare texts (motion.text after.text?)) :
    Weaves isBare texts (launcher motion after) :=
  function_weaves (chain.before (by decide))

theorem names_weave {names : List String} (valid : ∀ name ∈ names, isIdentifier name = true) :
    Weaves isBare [] (", ".intercalate names) := by
  have quotes_nothing : names.flatMap (fun _ => ([] : List String)) = [] :=
    List.flatMap_eq_nil_iff.mpr fun _ _ => rfl
  have woven : Weaves isBare _ (", ".intercalate (names.map id)) :=
    .joined (by decide) (fun _ => []) id names fun name member =>
      .bare (identifier_bare (valid name member))
  rwa [List.map_id, quotes_nothing] at woven

theorem statement_weaves {st : Statement} (plain : st.isPlain = true)
    (names : ∀ name ∈ st.declared?.toList ++ st.references, isIdentifier name = true) :
    Weaves isBare st.texts st.text := by
  cases st with
  | create name paper method arguments =>
    obtain ⟨called, values⟩ := Bool.and_eq_true_iff.mp plain
    have own := identifier_bare (names name (by simp [Statement.declared?]))
    have owner := identifier_bare (names paper (by simp [Statement.references]))
    refine ((Value.arguments_weave values).behind ?_).before (by decide)
    simp only [String.toList_append, List.all_append, own, owner, identifier_bare called]
    decide
  | join set members =>
    obtain ⟨own, others⟩ := List.forall_mem_cons.mp names
    refine ((names_weave others).behind ?_).before (by decide)
    simp only [String.toList_append, List.all_append, identifier_bare own]
    decide
  | call receiver method arguments =>
    obtain ⟨called, values⟩ := Bool.and_eq_true_iff.mp plain
    have owner := identifier_bare (names receiver List.mem_cons_self)
    refine ((Value.arguments_weave values).behind ?_).before (by decide)
    simp only [String.toList_append, List.all_append, owner, identifier_bare called]
    decide
  | node name element =>
    have own := identifier_bare (names name (by simp [Statement.declared?]))
    have other := identifier_bare (names element (by simp [Statement.references]))
    refine .bare (a := "var " ++ name ++ " = " ++ element ++ ".node;") ?_
    simp only [String.toList_append, List.all_append, own, other]
    decide
  | measure declared name element =>
    have own := identifier_bare (names name (by
      cases declared <;> simp [Statement.declared?, Statement.references]))
    have other := identifier_bare (names element (by
      cases declared <;> simp [Statement.references]))
    refine .bare
      (a := (if declared then "" else "var ") ++ name ++ " = " ++ element ++ ".getBBox();") ?_
    simp only [String.toList_append, List.all_append, own, other]
    cases declared <;> decide
  | field name box part =>
    have own := identifier_bare (names name (by simp [Statement.declared?]))
    have owner := identifier_bare (names box (by simp [Statement.references]))
    refine .bare (a := "var " ++ name ++ " = " ++ box ++ "." ++ part ++ ";") ?_
    simp only [String.toList_append, List.all_append, own, owner, identifier_bare plain]
    decide
  | animate motion after => exact (chain_weaves plain names).before (by decide)
  | launch motion after => exact (launcher_weaves (chain_weaves plain names)).before (by decide)
  | cycle motion after =>
    have launched := launcher_weaves (chain_weaves plain names)
    have again := (launched.behind (a := "(function " ++ loopName ++ "() \x7b ") (by decide)).before
      (b := "(); setTimeout(") (by decide)
    have named := (again.before (b := loopName) (by decide)).before (b := ", ") (by decide)
    exact (named.before (number_bare motion.milliseconds)).before (by decide)
  | raw text => contradiction

namespace Canvas

def texts (c : Canvas) : List String :=
  Value.textsItems c.target.arguments ++ c.statements.flatMap Statement.texts

/-- What a plain canvas has: variables that are identifiers and declared before they are used, and
    statements without verbatim parts. -/
structure Plain (c : Canvas) : Prop where
  names : ∀ name ∈ c.declared, isIdentifier name = true
  resolved : c.Resolved
  statements : ∀ st ∈ c.statements, st.isPlain = true

theorem arguments_plain (target : Target) : Value.isPlainItems target.arguments = true := by
  cases target <;> rfl

variable {c : Canvas}

theorem Plain.statement_names (plain : c.Plain) {st : Statement} (member : st ∈ c.statements) :
    ∀ name ∈ st.declared?.toList ++ st.references, isIdentifier name = true := by
  obtain ⟨front, back, split⟩ := List.append_of_mem member
  intro name listed
  apply plain.names
  rcases List.mem_append.mp listed with declared | used
  · refine List.mem_cons_of_mem _ (List.mem_filterMap.mpr ⟨st, member, ?_⟩)
    simpa using declared
  · have known := plain.resolved front st back split name used
    rcases List.mem_append.mp known with paper | earlier
    · exact List.mem_singleton.mp paper ▸ List.mem_cons_self
    · refine List.mem_cons_of_mem _ ?_
      rw [split, declaredBy, List.filterMap_append]
      exact List.mem_append_left _ earlier

theorem paper_weaves (plain : c.Plain) :
    Weaves isBare (Value.textsItems c.target.arguments)
      ("var " ++ c.name ++ " = " ++ c.construction ++ ";") := by
  have name := identifier_bare (plain.names c.name List.mem_cons_self)
  have arguments := Value.arguments_weave (arguments_plain c.target)
  have made := (arguments.behind (a := "new Raphael(") (by decide)).before (b := ")") (by decide)
  refine (made.behind ?_).before (by decide)
  simp only [String.toList_append, List.all_append, name]
  decide

theorem script_weaves (plain : c.Plain) : Weaves isSpread c.texts c.script := by
  have spread {texts : List String} {line : String} (woven : Weaves isBare texts line) :
      Weaves isSpread texts line :=
    Woven.widened woven fun d bare => by rw [isSpread, bare]; rfl
  have paper := spread (paper_weaves plain)
  have lines : Weaves isSpread (c.statements.flatMap Statement.texts)
      ("\n".intercalate (c.statements.map Statement.text)) :=
    .joined (by decide) _ _ _ fun st member =>
      spread (statement_weaves (plain.statements st member) (plain.statement_names member))
  unfold script texts
  cases present : c.statements with
  | nil =>
    rw [List.flatMap_nil, List.append_nil, List.map_nil, String.intercalate_singleton]
    exact paper
  | cons st rest =>
    rw [present] at lines
    rw [List.map_cons, String.intercalate_cons_cons, ← List.map_cons]
    exact (paper.before (by decide)).append lines

end Canvas

end SceneScript
