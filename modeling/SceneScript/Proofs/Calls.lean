import Mathlib.Data.List.Forall2
import SceneScript.Identifier
import SceneScript.Proofs.Delimited
import SceneScript.Proofs.ReadBack
import SceneScript.Statement

/- A call as it is spelled in a script, `var N = R.method(a, b);` or without the declaration. No
   text is spelled for two calls: a name ends at the first character that no name has, and an
   argument where a reader of JSON ends. -/
namespace SceneScript

structure Call where
  declared : Option String
  receiver : String
  method : String
  arguments : List Json.Tree

namespace Call

def declaration : Option String → String
  | some name => "var " ++ name ++ " = "
  | none => ""

/-- A text is written for a call if its names are identifiers and its arguments any JSON texts. -/
structure Written (c : Call) (text : String) : Prop where
  declared : ∀ name, c.declared = some name → isIdentifier name = true
  receiver : isIdentifier c.receiver = true
  method : isIdentifier c.method = true
  spelled : ∃ arguments : List String,
    List.Forall₂ (fun a tree => Json.Tree.ofChars? true a.toList = some tree) arguments
      c.arguments ∧
    text = declaration c.declared ++ c.receiver ++ "." ++ c.method ++ "(" ++
      ", ".intercalate arguments ++ ");"

theorem span_unique {sort : Char → Bool} {as bs xs ys : List Char} {x y : Char}
    (first : ∀ c ∈ as, sort c = true) (second : ∀ c ∈ bs, sort c = true)
    (outside : sort x = false) (beyond : sort y = false) (same : as ++ x :: xs = bs ++ y :: ys) :
    as = bs ∧ x :: xs = y :: ys := by
  induction as generalizing bs with
  | nil =>
    cases bs with
    | nil => exact ⟨rfl, same⟩
    | cons b bs =>
      obtain ⟨rfl, _⟩ := List.cons.inj same
      rw [second x List.mem_cons_self] at outside
      contradiction
  | cons a as ih =>
    cases bs with
    | nil =>
      obtain ⟨rfl, _⟩ := List.cons.inj same
      rw [first a List.mem_cons_self] at beyond
      contradiction
    | cons b bs =>
      obtain ⟨rfl, behind⟩ := List.cons.inj same
      obtain ⟨rfl, rest⟩ := ih (fun c member => first c (List.mem_cons_of_mem _ member))
        (fun c member => second c (List.mem_cons_of_mem _ member)) behind
      exact ⟨rfl, rest⟩

theorem identifier_chars {name : String} (valid : isIdentifier name = true) :
    ∀ c ∈ name.toList, Identifier.isPart c = true := by
  intro c member
  unfold isIdentifier at valid
  split at valid
  · contradiction
  · rename_i first rest chars
    simp only [Bool.and_eq_true, List.all_eq_true] at valid
    rw [chars] at member
    rcases List.mem_cons.mp member with rfl | later
    · have start := valid.1.1
      simp only [Identifier.isStart, Bool.or_eq_true] at start
      simp only [Identifier.isPart, Char.isAlphanum, Bool.or_eq_true]
      tauto
    · exact valid.1.2 c later

section
open Json Json.Reading

theorem argument_unique {a b xs ys : List Char} {s t : Tree} {x y : Char}
    (first : Tree.ofChars? true a = some s) (second : Tree.ofChars? true b = some t)
    (ends : x ∈ [',', ')']) (also : y ∈ [',', ')']) (same : a ++ x :: xs = b ++ y :: ys) :
    a = b ∧ x :: xs = y :: ys := by
  have ended {c : Char} (cs : List Char) (separator : c ∈ [',', ')']) : Ended (c :: cs) := by
    intro d head
    obtain rfl := Option.some.inj head
    simp only [List.mem_cons, List.not_mem_nil, or_false] at separator
    rcases separator with rfl | rfl <;> decide
  have visible {c : Char} (separator : c ∈ [',', ')']) : isSpace c = false := by
    simp only [List.mem_cons, List.not_mem_nil, or_false] at separator
    rcases separator with rfl | rfl <;> rfl
  let fuel := 2 * a.length + 2 * b.length + 2
  obtain ⟨before, blank, filled, read⟩ := whole_extends_to first (ended xs ends) fuel (by omega)
  obtain ⟨also_before, also_blank, also_filled, also_read⟩ :=
    whole_extends_to second (ended ys also) fuel (by omega)
  rw [← skip_extends filled, same, skip_extends also_filled, also_read] at read
  obtain ⟨_, behind⟩ := Prod.mk.inj (Option.some.inj read)
  obtain ⟨_, rest⟩ := span_unique also_blank blank (visible also) (visible ends) behind
  rw [← rest] at same
  exact ⟨List.append_cancel_right same, rest.symm⟩

def behind : List String → List Char
  | [] => [')', ';']
  | a :: rest => ',' :: ' ' :: (a.toList ++ behind rest)

theorem arguments_chars (a : String) (rest : List String) :
    (", ".intercalate (a :: rest) ++ ");").toList = a.toList ++ behind rest := by
  induction rest generalizing a with
  | nil => simp [behind]
  | cons b rest ih =>
    rw [String.intercalate_cons_cons, String.append_assoc, String.toList_append, ih,
      String.toList_append, List.append_assoc]
    rfl

theorem behind_separated (rest : List String) :
    ∃ x xs, behind rest = x :: xs ∧ x ∈ [',', ')'] := by
  cases rest with
  | nil => exact ⟨')', [';'], rfl, by decide⟩
  | cons a rest => exact ⟨',', _, rfl, by decide⟩

theorem behind_unique {as bs : List String} {ss ts : List Tree}
    (first : List.Forall₂ (fun a tree => Tree.ofChars? true a.toList = some tree) as ss)
    (second : List.Forall₂ (fun b tree => Tree.ofChars? true b.toList = some tree) bs ts)
    (same : behind as = behind bs) : ss = ts := by
  induction first generalizing bs ts with
  | nil =>
    cases second with
    | nil => rfl
    | cons read others => exact absurd (List.cons.inj same).1 (by decide)
  | @cons a s as ss read others ih =>
    cases second with
    | nil => exact absurd (List.cons.inj same).1 (by decide)
    | @cons b t bs ts also_read also_others =>
      obtain ⟨x, xs, left, ends⟩ := behind_separated as
      obtain ⟨y, ys, right, also_ends⟩ := behind_separated bs
      have inner : a.toList ++ behind as = b.toList ++ behind bs :=
        (List.cons.inj (List.cons.inj same).2).2
      rw [left, right] at inner
      obtain ⟨equal, rest⟩ := argument_unique read also_read ends also_ends inner
      rw [equal, also_read] at read
      rw [← left, ← right] at rest
      rw [Option.some.inj read, ih also_others rest]

-- No argument stands for the empty list: it would be empty, or hold the bracket at the end.
theorem argument_filled {b : String} {rest : List String} {t : Tree}
    (read : Tree.ofChars? true b.toList = some t) :
    [')', ';'] ≠ b.toList ++ behind rest := by
  intro same
  obtain ⟨y, ys, right, separator⟩ := behind_separated rest
  rw [right] at same
  cases chars : b.toList with
  | nil =>
    have unread : Tree.ofChars? true [] = none := by decide
    rw [chars, unread] at read
    contradiction
  | cons c cs =>
    rw [chars] at same
    obtain ⟨_, same⟩ := List.cons.inj same
    cases cs with
    | nil =>
      obtain ⟨rfl, _⟩ := List.cons.inj same
      exact absurd separator (by decide)
    | cons d ds =>
      obtain ⟨_, same⟩ := List.cons.inj same
      cases ds <;> contradiction

theorem arguments_unique {as bs : List String} {ss ts : List Tree}
    (first : List.Forall₂ (fun a tree => Tree.ofChars? true a.toList = some tree) as ss)
    (second : List.Forall₂ (fun b tree => Tree.ofChars? true b.toList = some tree) bs ts)
    (same : (", ".intercalate as ++ ");").toList = (", ".intercalate bs ++ ");").toList) :
    ss = ts := by
  cases first with
  | nil =>
    cases second with
    | nil => rfl
    | @cons b t bs ts read others =>
      rw [arguments_chars] at same
      exact absurd same (argument_filled read)
  | @cons a s as ss read others =>
    cases second with
    | nil =>
      rw [arguments_chars] at same
      exact absurd same.symm (argument_filled read)
    | @cons b t bs ts also_read also_others =>
      -- A comma and a space in front of both make them what stands behind an argument.
      rw [arguments_chars, arguments_chars] at same
      exact behind_unique (.cons read others) (.cons also_read also_others)
        (congrArg (fun cs => ',' :: ' ' :: cs) same)

end

theorem call_unique {r s m n : String} {as bs : List Char}
    (first : isIdentifier r = true ∧ isIdentifier m = true)
    (second : isIdentifier s = true ∧ isIdentifier n = true)
    (same : r.toList ++ '.' :: (m.toList ++ '(' :: as) =
      s.toList ++ '.' :: (n.toList ++ '(' :: bs)) :
    r = s ∧ m = n ∧ as = bs := by
  obtain ⟨receivers, rest⟩ := span_unique (identifier_chars first.1) (identifier_chars second.1)
    (by decide) (by decide) same
  obtain ⟨methods, rest⟩ := span_unique (identifier_chars first.2) (identifier_chars second.2)
    (by decide) (by decide) (List.cons.inj rest).2
  exact ⟨String.toList_inj.mp receivers, String.toList_inj.mp methods, (List.cons.inj rest).2⟩

theorem declaration_unique {c d : Option String} {r s : String} {as bs : List Char}
    (first : ∀ name, c = some name → isIdentifier name = true)
    (second : ∀ name, d = some name → isIdentifier name = true)
    (receiver : isIdentifier r = true) (also_receiver : isIdentifier s = true)
    (same : (declaration c).toList ++ (r.toList ++ '.' :: as) =
      (declaration d).toList ++ (s.toList ++ '.' :: bs)) :
    c = d ∧ r.toList ++ '.' :: as = s.toList ++ '.' :: bs := by
  have keyword : ∀ c ∈ ['v', 'a', 'r'], Identifier.isPart c = true :=
    List.all_eq_true.mp (show ['v', 'a', 'r'].all Identifier.isPart = true from rfl)
  have declared (name : String) (cs : List Char) :
      (declaration (some name)).toList ++ cs =
        ['v', 'a', 'r'] ++ ' ' :: (name.toList ++ ' ' :: '=' :: ' ' :: cs) := by
    simp [declaration]
  -- Without a declaration, a point stands where the keyword is followed by a space.
  cases c with
  | none =>
    cases d with
    | none => exact ⟨rfl, same⟩
    | some name =>
      rw [declared] at same
      obtain ⟨_, rest⟩ := span_unique (identifier_chars receiver) keyword (by decide) (by decide)
        same
      exact absurd (List.cons.inj rest).1 (by decide)
  | some name =>
    rw [declared] at same
    cases d with
    | none =>
      obtain ⟨_, rest⟩ := span_unique keyword (identifier_chars also_receiver) (by decide)
        (by decide) same
      exact absurd (List.cons.inj rest).1 (by decide)
    | some other =>
      rw [declared] at same
      have names := (List.cons.inj (List.append_cancel_left same)).2
      obtain ⟨equal, rest⟩ := span_unique (identifier_chars (first name rfl))
        (identifier_chars (second other rfl)) (by decide) (by decide) names
      rw [String.toList_inj.mp equal]
      exact ⟨rfl, (List.cons.inj (List.cons.inj (List.cons.inj rest).2).2).2⟩

theorem written_unique {c d : Call} {text : String} (first : c.Written text)
    (second : d.Written text) : c = d := by
  obtain ⟨as, read, spelled⟩ := first.spelled
  obtain ⟨bs, also_read, also_spelled⟩ := second.spelled
  have chars (c : Call) (as : List String) :
      (declaration c.declared ++ c.receiver ++ "." ++ c.method ++ "(" ++
        ", ".intercalate as ++ ");").toList =
      (declaration c.declared).toList ++ (c.receiver.toList ++ '.' :: (c.method.toList ++ '(' ::
        (", ".intercalate as ++ ");").toList)) := by
    simp only [String.toList_append, List.append_assoc]
    rfl
  have same := congrArg String.toList (spelled.symm.trans also_spelled)
  rw [chars, chars] at same
  obtain ⟨declared, same⟩ := declaration_unique first.declared second.declared first.receiver
    second.receiver same
  obtain ⟨receiver, method, same⟩ := call_unique ⟨first.receiver, first.method⟩
    ⟨second.receiver, second.method⟩ same
  have arguments := arguments_unique read also_read same
  cases c
  cases d
  simp_all only

/-- A text that is written for this call and for no other. -/
def Spelled (c : Call) (text : String) : Prop :=
  ∀ other : Call, other.Written text ↔ other = c

theorem spelled_of_written {c : Call} {text : String} (written : c.Written text) :
    c.Spelled text := by
  intro other
  constructor
  · intro also
    exact written_unique also written
  · rintro rfl
    exact written

theorem values_written {declared : Option String} {receiver method : String} {values : List Value}
    (names : ∀ name, declared = some name → isIdentifier name = true)
    (owner : isIdentifier receiver = true) (called : isIdentifier method = true)
    (plain : ∀ v ∈ values, v.isPlain = true) :
    Written ⟨declared, receiver, method, values.map Value.tree⟩
      (declaration declared ++ receiver ++ "." ++ method ++ "(" ++
        Value.scriptArguments values ++ ");") := by
  refine ⟨names, owner, called, values.map Value.script, ?_, rfl⟩
  rw [List.forall₂_map_left_iff, List.forall₂_map_right_iff, List.forall₂_same]
  intro v member
  exact Value.whole_script_read (plain v member)

end Call

end SceneScript
