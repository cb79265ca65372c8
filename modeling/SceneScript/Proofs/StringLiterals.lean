import SceneScript.Proofs.Quoting
import SceneScript.Proofs.Weaving

/- The string literals of a script, by the grammar of ECMAScript 5, the edition of the time of
   Raphael 1.x. A quoted text is such a literal, with the text as its value, unless the text has a
   line or a paragraph separator: in JSON they are plain characters, in a script they end a line. -/
namespace SceneScript.Literal

inductive Mode where
  | code
  | text
  | escape
  /-- In the digits of an escape, with so many of them left. -/
  | digits (left value : Nat)
  | null
  /-- Behind a backslash and a carriage return, which a line feed belongs to. -/
  | carriage
  deriving DecidableEq, Repr

structure State where
  mode : Mode
  units : List Nat
  values : List (List Nat)
  deriving DecidableEq, Repr

def isLineEnd (c : Char) : Bool :=
  ['\n', '\r', '\u2028', '\u2029'].contains c

/-- The units that a character of the source is: one, or a pair of surrogates. -/
def sourceUnits (c : Char) : List Nat :=
  if c.toNat < 0x10000 then [c.toNat]
  else [0xD800 + (c.toNat - 0x10000) / 0x400, 0xDC00 + (c.toNat - 0x10000) % 0x400]

def escapedUnits (c : Char) : List Nat :=
  match c with
  | 'b' => [0x08]
  | 't' => [0x09]
  | 'n' => [0x0A]
  | 'v' => [0x0B]
  | 'f' => [0x0C]
  | 'r' => [0x0D]
  | _ => sourceUnits c

namespace State

def taking (s : State) (units : List Nat) : State :=
  { s with mode := .text, units := s.units ++ units }

def textStep (s : State) (c : Char) : Option State :=
  if c = '"' then some ⟨.code, [], s.values ++ [s.units]⟩
  else if c = '\\' then some { s with mode := .escape }
  else if isLineEnd c then none
  else some (s.taking (sourceUnits c))

/-- A character behind a backslash. An end of a line there continues the literal on the next line,
    and a digit other than zero begins no escape. -/
def escapeStep (s : State) (c : Char) : Option State :=
  if c = 'u' then some { s with mode := .digits 4 0 }
  else if c = 'x' then some { s with mode := .digits 2 0 }
  else if c = '0' then some { s.taking [0] with mode := .null }
  else if c.isDigit then none
  else if c = '\r' then some { s with mode := .carriage }
  else if isLineEnd c then some (s.taking [])
  else some (s.taking (escapedUnits c))

/-- Reads a character, if it may stand there. Scripts with comments, patterns or texts in single
    quotes are left out. -/
def step (s : State) (c : Char) : Option State :=
  match s.mode with
  | .code =>
    if c = '"' then some { s with mode := .text }
    else if c = '\'' ∨ c = '/' then none
    else some s
  | .text => s.textStep c
  | .escape => s.escapeStep c
  | .digits left value =>
    (Json.Reading.hexValue? c).map fun digit =>
      if left = 1 then s.taking [value * 16 + digit]
      else { s with mode := .digits (left - 1) (value * 16 + digit) }
  | .null => if c.isDigit then none else s.textStep c
  | .carriage => if c = '\n' then some (s.taking []) else s.textStep c

end State

def values? (script : String) : Option (List (List Nat)) :=
  (script.toList.foldlM State.step ⟨.code, [], []⟩).bind fun s =>
    if s.mode = .code then some s.values else none

def textUnits (s : String) : List Nat :=
  s.toList.flatMap sourceUnits

def isUnbroken (c : Char) : Bool :=
  c != '\u2028' && c != '\u2029'

section Characters
variable {units : List Nat} {values : List (List Nat)} {c : Char}

theorem plain_step (quote : c ≠ '"') (backslash : c ≠ '\\') (inside : isLineEnd c = false) :
    State.step ⟨.text, units, values⟩ c = some ⟨.text, units ++ sourceUnits c, values⟩ := by
  simp only [State.step, State.textStep, if_neg quote, if_neg backslash, inside]
  rfl

theorem hex_step (left value n : Nat) (small : n < 16) :
    State.step ⟨.digits left value, units, values⟩ (Text.hexDigit n) =
      some (if left = 1 then ⟨.text, units ++ [value * 16 + n], values⟩
        else ⟨.digits (left - 1) (value * 16 + n), units, values⟩) := by
  simp only [State.step, Text.hex_read n small, Option.map_some, State.taking]

theorem control_steps (control : c.toNat < 0x20) :
    ['\\', 'u', '0', '0', Text.hexDigit (c.toNat / 16), Text.hexDigit (c.toNat % 16)].foldlM
        State.step ⟨.text, units, values⟩ =
      some ⟨.text, units ++ sourceUnits c, values⟩ := by
  have value : c.toNat / 16 * 16 + c.toNat % 16 = c.toNat := by omega
  have own : sourceUnits c = [c.toNat] := if_pos (by omega)
  have zero (left : Nat) (more : left ≠ 1) :
      State.step ⟨.digits left 0, units, values⟩ '0' = some ⟨.digits (left - 1) 0, units, values⟩ :=
    (hex_step left 0 0 (by decide)).trans (by rw [if_neg more])
  have opened : State.step ⟨.text, units, values⟩ '\\' = some ⟨.escape, units, values⟩ := rfl
  have unicode : State.step ⟨.escape, units, values⟩ 'u' = some ⟨.digits 4 0, units, values⟩ := rfl
  simp only [List.foldlM_cons, List.foldlM_nil, opened, unicode, Option.bind_eq_bind,
    Option.bind_some, zero 4 (by decide), zero 3 (by decide),
    hex_step 2 0 (c.toNat / 16) (by omega), if_neg (show 2 ≠ 1 by decide),
    hex_step 1 _ (c.toNat % 16) (by omega), Nat.zero_mul, Nat.zero_add, value, own]
  rfl

theorem unbroken_steps (unbroken : isUnbroken c = true) :
    (Text.quotedChar c).foldlM State.step ⟨.text, units, values⟩ =
      some ⟨.text, units ++ sourceUnits c, values⟩ := by
  unfold Text.quotedChar
  split_ifs with quote backslash newline carriage tab back feed control
  · subst quote
    rfl
  · subst backslash
    rfl
  · subst newline
    rfl
  · subst carriage
    rfl
  · subst tab
    rfl
  · subst back
    rfl
  · subst feed
    rfl
  · exact control_steps control
  · have inside : isLineEnd c = false := by
      simpa [isLineEnd, isUnbroken, newline, carriage] using unbroken
    rw [List.foldlM_cons, plain_step quote backslash inside]
    rfl

theorem broken_steps (broken : isUnbroken c = false) :
    (Text.quotedChar c).foldlM State.step ⟨.text, units, values⟩ = none := by
  have separator : c = '\u2028' ∨ c = '\u2029' := by
    simpa [isUnbroken, or_iff_not_imp_left] using broken
  rcases separator with rfl | rfl <;> rfl

end Characters

section Texts
variable {units : List Nat} {values : List (List Nat)}

def isUnbrokenText (s : String) : Bool :=
  s.toList.all isUnbroken

theorem characters_steps (s : List Char) (units : List Nat) :
    (Text.quotedChars s).foldlM State.step ⟨.text, units, values⟩ =
      if s.all isUnbroken then some ⟨.text, units ++ s.flatMap sourceUnits, values⟩ else none := by
  induction s using Text.quotedChars.induct generalizing units with
  | case1 => rw [List.flatMap_nil, List.append_nil]; rfl
  | case2 tail ih =>
    -- The slash of `</` stands behind a backslash and is itself there.
    have pair : ['<', '\\', '/'].foldlM State.step ⟨.text, units, values⟩ =
        some ⟨.text, units ++ [0x3C] ++ [0x2F], values⟩ := rfl
    have units_pair : units ++ ('<' :: '/' :: tail).flatMap sourceUnits =
        units ++ [0x3C] ++ [0x2F] ++ tail.flatMap sourceUnits := by
      rw [List.append_assoc, List.append_assoc]
      rfl
    have split : Text.quotedChars ('<' :: '/' :: tail) =
        ['<', '\\', '/'] ++ Text.quotedChars tail := rfl
    rw [split, List.foldlM_append, pair, units_pair]
    exact ih (units ++ [0x3C] ++ [0x2F])
  | case3 c tail apart ih =>
    rw [Text.quotedChars, List.foldlM_append, List.all_cons, List.flatMap_cons]
    · cases unbroken : isUnbroken c with
      | false => rw [broken_steps unbroken]; rfl
      | true =>
        rw [unbroken_steps unbroken]
        refine (ih (units ++ sourceUnits c)).trans ?_
        rw [List.append_assoc, Bool.true_and]
    · exact apart

theorem quote_steps (s : String) :
    (Text.quote s).toList.foldlM State.step ⟨.code, [], values⟩ =
      if isUnbrokenText s then some ⟨.code, [], values ++ [textUnits s]⟩ else none := by
  have opened : State.step ⟨.code, [], values⟩ '"' = some ⟨.text, [], values⟩ := rfl
  rw [Value.quote_chars, List.foldlM_cons, opened, Option.bind_eq_bind, Option.bind_some,
    List.foldlM_append, characters_steps]
  unfold isUnbrokenText
  cases s.toList.all isUnbroken <;> rfl

theorem mark_step {c : Char} (mark : isMark c = true) :
    State.step ⟨.code, [], values⟩ c = some ⟨.code, [], values⟩ := by
  have apart (d : Char) (other : isMark d = false) : c ≠ d := by
    rintro rfl
    rw [mark] at other
    contradiction
  simp only [State.step, if_neg (apart '"' (by decide)),
    if_neg (not_or.mpr ⟨apart '\'' (by decide), apart '/' (by decide)⟩)]

theorem woven_steps {texts : List String} {cs : List Char} (woven : Woven isMark texts cs)
    (values : List (List Nat)) :
    cs.foldlM State.step ⟨.code, [], values⟩ =
      if texts.all isUnbrokenText then some ⟨.code, [], values ++ texts.map textUnits⟩
      else none := by
  induction woven generalizing values with
  | nothing => rw [List.map_nil, List.append_nil]; rfl
  | bare own rest ih => rw [List.foldlM_cons, mark_step own]; exact ih values
  | quoted s rest ih =>
    rw [List.foldlM_append, quote_steps, List.all_cons, List.map_cons]
    cases isUnbrokenText s with
    | false => rfl
    | true =>
      refine (ih (values ++ [textUnits s])).trans ?_
      rw [List.append_assoc, Bool.true_and]
      rfl

end Texts

/-- The string literals of a value without verbatim parts are its texts and keys, in order, with
    their values, if none of these has a separator of lines or paragraphs. Otherwise the first that
    has one is no literal, and the script is refused. -/
theorem values_of_script (v : Value) (plain : v.isPlain = true) :
    values? v.script =
      if v.texts.all isUnbrokenText then some (v.texts.map textUnits) else none := by
  have read := woven_steps (v.script_marks plain) []
  rw [values?, read]
  cases v.texts.all isUnbrokenText <;> rfl

theorem values_of_escaped_script :
    let v : Value := .object [("</", .list [.text "a\n\x01\u03c0\x0d", .null]), ("", .bool true)]
    v.isPlain = true ∧ values? v.script =
      some [[0x3C, 0x2F], [0x61, 0x0A, 0x01, 0x3C0, 0x0D], []] := by
  intro v
  have plain : v.isPlain = true := rfl
  refine ⟨plain, (values_of_script v plain).trans ?_⟩
  decide +kernel

theorem separator_refused :
    ¬ ∀ v : Value, v.isPlain = true → values? v.script = some (v.texts.map textUnits) := by
  intro all
  have refused : values? (Value.text "\u2028").script = none := by decide +kernel
  have read := all (.text "\u2028") rfl
  rw [refused] at read
  contradiction

end SceneScript.Literal
