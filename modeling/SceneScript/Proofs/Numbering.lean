import SceneScript.Proofs.Subjects
import SceneScript.Proofs.Variables
import SceneScript.Uid

/- The names that a canvas generates for its elements. Each takes the next suffix of the canvas and
   no other draw comes between, so with numbers for suffixes the names are numbered without gaps.
   Seconds with a random number leave it to chance whether names are apart. -/
namespace SceneScript

section Texts

theorem seconds_text (seconds : Int) : '_' ∉ (toString seconds).toList := by
  cases seconds with
  | ofNat n => exact underscore_not_digit n
  | negSucc n =>
    change '_' ∉ ("-" ++ toString (n + 1)).toList
    rw [String.toList_append]
    intro member
    rcases List.mem_append.mp member with sign | digits
    · exact absurd sign (by decide)
    · exact underscore_not_digit (n + 1) digits

theorem negative_apart (n m : Nat) : toString n ≠ "-" ++ toString m := by
  intro same
  have chars := congrArg String.toList same
  rw [String.toList_append, Nat.toString_eq_ofList_toDigits, String.toList_ofList] at chars
  have sign : '-' ∈ Nat.toDigits 10 n := by
    rw [chars]
    exact List.mem_append_left _ (by decide)
  have digit : '-'.isDigit = true := Nat.isDigit_of_mem_toDigits (by decide) (by decide) sign
  contradiction

theorem seconds_injective {seconds other : Int} (same : toString seconds = toString other) :
    seconds = other := by
  cases seconds with
  | ofNat n =>
    cases other with
    | ofNat m => exact congrArg Int.ofNat (number_text_injective same)
    | negSucc m => exact absurd same (negative_apart n (m + 1))
  | negSucc n =>
    cases other with
    | ofNat m => exact absurd same.symm (negative_apart m (n + 1))
    | negSucc m =>
      have chars := congrArg String.toList same
      change ("-" ++ toString (n + 1)).toList = ("-" ++ toString (m + 1)).toList at chars
      rw [String.toList_append, String.toList_append] at chars
      have texts := String.toList_inj.mp (List.append_cancel_left chars)
      have numbers := number_text_injective texts
      omega

theorem timestamp_injective {ambient : Ambient} {n m : Nat}
    (same : Uid.Strategy.timestamp.suffix ambient n = Uid.Strategy.timestamp.suffix ambient m) :
    ambient.seconds n = ambient.seconds m ∧ ambient.salt n = ambient.salt m := by
  have chars := congrArg String.toList same
  simp only [Uid.Strategy.suffix, String.toList_append, List.append_assoc] at chars
  obtain ⟨seconds, _, salts⟩ := (List.append_cons_inj_of_notMem (seconds_text _)
    (underscore_not_digit _)).mp chars
  refine ⟨seconds_injective (String.toList_inj.mp seconds), Fin.ext ?_⟩
  exact number_text_injective (String.toList_inj.mp salts)

end Texts

namespace Session

def unnamed? (number : Nat) (op : Op) : Answer → Option Element
  | .element e => if op.makesUnnamed ∧ e.canvas = number then some e else none
  | _ => none

def unnamed (number : Nat) (s : Session) (ops : List Op) : List Element :=
  s.collect (unnamed? number) ops

section Naming
variable {s after : Session} {op : Op} {answer : Answer} {number : Nat} {c : Canvas}

theorem effect_unnamed (sound : Sound s) (effect : Effect s op answer after)
    (found : s.canvases[number]? = some c) (source : s.sources[number]? = some none) :
    unnamed? number op answer = none ∧ op.draws s number = 0 ∨
      ∃ e, unnamed? number op answer = some e ∧ op.draws s number = 1 ∧
        e.name = "rafa_" ++ e.kind.name ++ "_" ++ c.suffix (c.drawn + 1) := by
  have made {paper : String} {k : Nat} {d : Canvas} {kind : Kind} {id : Option String}
      (at_paper : s.numbered? paper = some (k, d)) (subject : op.subject? s = some k)
      (makes : op.makesUnnamed = id.isNone)
      (given : answer = .element ((s.lentAt k d).made kind id)) :
      unnamed? number op answer = none ∧ op.draws s number = 0 ∨
        ∃ e, unnamed? number op answer = some e ∧ op.draws s number = 1 ∧
          e.name = "rafa_" ++ e.kind.name ++ "_" ++ c.suffix (c.drawn + 1) := by
    have placed := made_canvas sound (numbered_canvas at_paper) kind id
    rw [given, unnamed?, Op.draws, subject, makes, placed]
    by_cases here : k = number
    · subst k
      cases found.symm.trans (numbered_canvas at_paper)
      cases id with
      | some id => exact Or.inl ⟨if_neg (by simp), if_neg (by simp)⟩
      | none =>
        refine Or.inr ⟨_, if_pos ⟨rfl, rfl⟩, if_pos ⟨rfl, rfl⟩, ?_⟩
        rw [lentAt_own source]
        rfl
    · refine Or.inl ⟨if_neg fun both => here both.2, if_neg fun both => ?_⟩
      exact here (Option.some.inj both.1)
  cases effect with
  | missed misses => exact Or.inl ⟨rfl, draws_none (misses_subject misses)⟩
  | drew draws at_paper clean =>
    obtain ⟨subject, makes⟩ := draws_subject draws at_paper
    exact made at_paper subject makes rfl
  | grouped at_paper own clean =>
    exact made at_paper (by rw [Op.subject?, at_paper]; rfl) rfl rfl
  | gave gives at_element => exact Or.inl ⟨rfl, draws_silent (gives_subject gives at_element).2⟩
  | boxFirst asks at_element none_before =>
    rcases asks with rfl | rfl
    · exact Or.inl ⟨rfl, draws_silent rfl⟩
    · exact Or.inl ⟨rfl, draws_silent rfl⟩
  | _ => exact Or.inl ⟨rfl, draws_silent rfl⟩

theorem unnamed_names (sound : Sound s) (found : s.canvases[number]? = some c)
    (source : s.sources[number]? = some none) (ops : List Op) :
    ∀ i e, (s.unnamed number ops)[i]? = some e →
      e.name = "rafa_" ++ e.kind.name ++ "_" ++ c.suffix (c.drawn + i + 1) := by
  induction ops generalizing s c with
  | nil =>
    intro i e member
    contradiction
  | cons op rest ih =>
    rcases collect_cons (unnamed? number) s op rest with
      ⟨_, same⟩ | ⟨answer, after, effect, _, split⟩
    · rw [unnamed, same]
      exact ih sound found source
    · obtain ⟨inside, _⟩ := List.getElem?_eq_some_iff.mp source
      obtain ⟨given, later, _⟩ := effect_grows effect found
      have names := ih (effect_sound sound effect) later
        ((effect_source effect inside).trans source)
      rw [unnamed, split]
      rcases effect_unnamed sound effect found source with ⟨none, undrawn⟩ | ⟨e, made, drawn, name⟩
      · rw [none]
        rw [undrawn] at names
        exact names
      · rw [made]
        rw [drawn] at names
        intro i d member
        cases i with
        | zero =>
          cases member
          exact name
        | succ i =>
          have own := names i d member
          rwa [show c.drawn + 1 + i = c.drawn + (i + 1) by omega] at own

end Naming

theorem created_names (before : List Op) {handle : String} {target : Target} {name : Option String}
    {suffix : Nat → String} {c : Canvas} {start : Session}
    (created : (act (.canvas handle target name suffix)).run (empty.run before).2 =
      .ok (.canvas c) start) (ops : List Op) :
    ∀ i e, (start.unnamed c.number ops)[i]? = some e →
      e.name = "rafa_" ++ e.kind.name ++ "_" ++ suffix (i + if name.isNone then 2 else 1) := by
  have sound : Sound (empty.run before).2 := run_sound empty_sound before
  have effect := act_ok_iff.mp created
  have later := effect_sound sound effect
  cases effect with
  | canvas clean =>
    let s := (empty.run before).2
    have found : (s.withCanvas handle target name suffix none).canvases[s.canvases.length]? =
        some (s.opened target name suffix none) := List.getElem?_concat_length
    have source : (s.withCanvas handle target name suffix none).sources[s.canvases.length]? =
        some none := by
      rw [← sound.scripts.paired]
      exact List.getElem?_concat_length
    have names := unnamed_names later found source ops
    intro i e member
    rw [opened_number] at member
    have own := names i e member
    cases name with
    | none =>
      change e.name = "rafa_" ++ e.kind.name ++ "_" ++ suffix (0 + 1 + i + 1) at own
      rwa [show 0 + 1 + i + 1 = i + 2 by omega] at own
    | some name =>
      change e.name = "rafa_" ++ e.kind.name ++ "_" ++ suffix (0 + 0 + i + 1) at own
      rwa [show 0 + 0 + i + 1 = i + 1 by omega] at own

section Apart
variable {elements : List Element} {suffix : Nat → String} {first : Nat}

theorem names_nodup_iff (names : ∀ i e, elements[i]? = some e →
      e.name = "rafa_" ++ e.kind.name ++ "_" ++ suffix (i + first)) :
    (elements.map Element.name).Nodup ↔
      ∀ i j d e, i < j → elements[i]? = some d → elements[j]? = some e → d.kind = e.kind →
        suffix (i + first) ≠ suffix (j + first) := by
  rw [List.nodup_iff_pairwise_ne, List.pairwise_iff_getElem]
  constructor
  · intro apart i j d e order at_i at_j kind same
    obtain ⟨inside, rfl⟩ := List.getElem?_eq_some_iff.mp at_i
    obtain ⟨within, rfl⟩ := List.getElem?_eq_some_iff.mp at_j
    refine apart i j (by simpa using inside) (by simpa using within) order ?_
    rw [List.getElem_map, List.getElem_map, names i _ at_i, names j _ at_j, kind, same]
  · intro apart i j inside within order same
    rw [List.length_map] at inside within
    rw [List.getElem_map, List.getElem_map] at same
    have at_i := List.getElem?_eq_getElem inside
    have at_j := List.getElem?_eq_getElem within
    rw [names i _ at_i, names j _ at_j] at same
    obtain ⟨kind, text⟩ := generated_injective same
    exact apart i j _ _ order at_i at_j kind text

theorem generated_no_paper (kind : Kind) (text uid : String) :
    "rafa_" ++ kind.name ++ "_" ++ text ≠ "_raphael_canvas_" ++ uid := by
  intro same
  have heads := congrArg (fun name => name.toList.head?) same
  simp [String.toList_append] at heads

end Apart

/-- With numbers for suffixes, the elements without an id are numbered in order and without gaps,
    whatever else is done and fails: from 2 if the paper has a generated name itself, else from 1.
    Their names are identifiers, apart from each other and from every generated name of a paper. -/
theorem sequential_names (before : List Op) {handle : String} {target : Target}
    {name : Option String} {ambient : Ambient} {c : Canvas} {start : Session}
    (created : (act (.canvas handle target name (Uid.Strategy.sequential.suffix ambient))).run
      (empty.run before).2 = .ok (.canvas c) start) (ops : List Op) :
    let elements := start.unnamed c.number ops
    (∀ i e, elements[i]? = some e → e.name = "rafa_" ++ e.kind.name ++ "_" ++
      toString (i + if name.isNone then 2 else 1)) ∧
    (elements.map Element.name).Nodup ∧
    (∀ e ∈ elements, isIdentifier e.name = true ∧ ∀ uid, e.name ≠ "_raphael_canvas_" ++ uid) ∧
    (name = none → c.name = "_raphael_canvas_1") := by
  intro elements
  have names := created_names before created ops
  refine ⟨names, ?_, ?_, ?_⟩
  · refine (names_nodup_iff names).mpr fun i j d e order _ _ _ same => ?_
    have numbers := number_text_injective same
    omega
  · intro e member
    obtain ⟨i, at_i⟩ := List.mem_iff_getElem?.mp member
    rw [names i e at_i]
    exact ⟨generated_identifier e.kind _, generated_no_paper e.kind _⟩
  · rintro rfl
    cases act_ok_iff.mp created with
    | canvas clean =>
      change "_raphael_canvas_" ++ toString 1 = "_raphael_canvas_1"
      decide

theorem numbered_past_failures :
    let page : Target := .position 0 0 9 9
    let numbers := Uid.Strategy.sequential.suffix ⟨fun _ => 0, fun _ => 0, fun _ => 0⟩
    let before : List Op := [.canvas "a" page none numbers, .draw "a" "x" (.circle 0 0 1) .empty]
    let ops : List Op := [.draw "b" "y" (.circle 0 0 1) .empty, .draw "b" "z" (.path "L1") .empty,
      .draw "b" "z" (.text 1 1 "z") (Attributes.empty.withId "own"),
      .draw "b" "z" (.text 1 1 "z") (Attributes.empty.withId "not valid"),
      .group "b" "s" ["x"] .empty, .draw "a" "x" (.circle 0 0 1) .empty,
      .group "b" "s" ["y", "z"] .empty, .draw "b" "z" (.text 1 1 "z") .empty]
    ∃ c start, (act (.canvas "b" page none numbers)).run (empty.run before).2 =
        .ok (.canvas c) start ∧
      (start.unnamed c.number ops).map Element.name =
        ["rafa_circle_2", "rafa_set_3", "rafa_text_4"] ∧
      ((start.unnamed c.number ops).map Element.name).Nodup := by
  intro page numbers before ops
  obtain ⟨c, start, created⟩ : ∃ c start,
      (act (.canvas "b" page none numbers)).run (empty.run before).2 =
        .ok (.canvas c) start := ⟨_, _, rfl⟩
  obtain ⟨_, apart, _⟩ := sequential_names before created ops
  refine ⟨c, start, created, ?_, apart⟩
  cases created
  decide +kernel

section Timestamps
variable {ambient : Ambient} {elements : List Element} {first : Nat}

theorem timestamps_nodup_iff (names : ∀ i e, elements[i]? = some e →
      e.name = "rafa_" ++ e.kind.name ++ "_" ++
        Uid.Strategy.timestamp.suffix ambient (i + first)) :
    (elements.map Element.name).Nodup ↔
      ∀ i j d e, i < j → elements[i]? = some d → elements[j]? = some e → d.kind = e.kind →
        ambient.seconds (i + first) = ambient.seconds (j + first) →
          ambient.salt (i + first) ≠ ambient.salt (j + first) := by
  rw [names_nodup_iff names]
  constructor
  · intro apart i j d e order at_i at_j kind seconds salt
    refine apart i j d e order at_i at_j kind ?_
    rw [Uid.Strategy.suffix, Uid.Strategy.suffix, seconds, salt]
  · intro apart i j d e order at_i at_j kind same
    obtain ⟨seconds, salt⟩ := timestamp_injective same
    exact apart i j d e order at_i at_j kind seconds salt

theorem timestamps_bounded (names : ∀ i e, elements[i]? = some e →
      e.name = "rafa_" ++ e.kind.name ++ "_" ++
        Uid.Strategy.timestamp.suffix ambient (i + first))
    (apart : (elements.map Element.name).Nodup) (kind : Kind) (second : Int) :
    (elements.zipIdx.filter fun p => p.1.kind = kind ∧
      ambient.seconds (p.2 + first) = second).length ≤ 10000 := by
  let chosen := elements.zipIdx.filter fun p => p.1.kind = kind ∧
    ambient.seconds (p.2 + first) = second
  let candidates := (List.range 10000).map fun salt =>
    "rafa_" ++ kind.name ++ "_" ++ (toString second ++ "_" ++ toString salt)
  have part : (chosen.map fun p => p.1.name).Sublist (elements.map Element.name) := by
    have whole : elements.zipIdx.map (fun p => p.1.name) = elements.map Element.name := by
      conv_rhs => rw [← List.zipIdx_map_fst 0 elements, List.map_map]
      rfl
    rw [← whole]
    exact List.filter_sublist.map _
  have covered : (chosen.map fun p => p.1.name) ⊆ candidates := by
    intro text member
    obtain ⟨⟨e, i⟩, inside, rfl⟩ := List.mem_map.mp member
    obtain ⟨listed, fits⟩ := List.mem_filter.mp inside
    obtain ⟨own, at_second⟩ := of_decide_eq_true fits
    refine List.mem_map.mpr ⟨(ambient.salt (i + first)).val, ?_, ?_⟩
    · exact List.mem_range.mpr (ambient.salt (i + first)).isLt
    · rw [names i e (List.mem_zipIdx_iff_getElem?.mp listed)]
      simp only at own at_second
      rw [Uid.Strategy.suffix, own, at_second]
  have bound := (apart.sublist part).length_le_of_subset covered
  simpa [chosen, candidates] using bound

end Timestamps

/-- With timestamps for suffixes, the elements without an id have names apart exactly when no two of
    a kind were drawn in one second with one random number. So with more than ten thousand of a kind
    in a second there is a clash, whatever the random numbers are. -/
theorem timestamp_names_apart_iff (before : List Op) {handle : String} {target : Target}
    {name : Option String} {ambient : Ambient} {c : Canvas} {start : Session}
    (created : (act (.canvas handle target name (Uid.Strategy.timestamp.suffix ambient))).run
      (empty.run before).2 = .ok (.canvas c) start) (ops : List Op) :
    let elements := start.unnamed c.number ops
    let first := if name.isNone then 2 else 1
    ((elements.map Element.name).Nodup ↔
      ∀ i j d e, i < j → elements[i]? = some d → elements[j]? = some e → d.kind = e.kind →
        ambient.seconds (i + first) = ambient.seconds (j + first) →
          ambient.salt (i + first) ≠ ambient.salt (j + first)) ∧
    ∀ kind second, 10000 < (elements.zipIdx.filter fun p => p.1.kind = kind ∧
        ambient.seconds (p.2 + first) = second).length →
      ¬ (elements.map Element.name).Nodup := by
  intro elements first
  have names := created_names before created ops
  refine ⟨timestamps_nodup_iff names, fun kind second many apart => ?_⟩
  exact Nat.not_lt.mpr (timestamps_bounded names apart kind second) many

theorem timestamps_apart_by_salt :
    let page : Target := .position 0 0 9 9
    let ambient : Ambient := ⟨fun _ => 1700000000, fun n => Fin.ofNat 10000 n, fun _ => 0⟩
    let uids := Uid.Strategy.timestamp.suffix ambient
    let ops : List Op :=
      [.draw "c" "x" (.circle 0 0 1) .empty, .draw "c" "y" (.circle 1 1 1) .empty]
    ∃ c start, (act (.canvas "c" page none uids)).run (empty.run []).2 = .ok (.canvas c) start ∧
      (start.unnamed c.number ops).map Element.name =
        ["rafa_circle_1700000000_2", "rafa_circle_1700000000_3"] ∧
      ∀ i j d e, i < j → (start.unnamed c.number ops)[i]? = some d →
        (start.unnamed c.number ops)[j]? = some e → d.kind = e.kind →
          ambient.seconds (i + 2) = ambient.seconds (j + 2) →
            ambient.salt (i + 2) ≠ ambient.salt (j + 2) := by
  intro page ambient uids ops
  obtain ⟨c, start, created⟩ : ∃ c start,
      (act (.canvas "c" page none uids)).run (empty.run []).2 = .ok (.canvas c) start := ⟨_, _, rfl⟩
  obtain ⟨apart, _⟩ := timestamp_names_apart_iff [] created ops
  have names : (start.unnamed c.number ops).map Element.name =
      ["rafa_circle_1700000000_2", "rafa_circle_1700000000_3"] := by
    cases created
    decide +kernel
  refine ⟨c, start, created, names, apart.mp ?_⟩
  rw [names]
  decide

theorem equal_timestamps_clash :
    let ambient : Ambient := ⟨fun _ => 1700000000, fun _ => 7, fun _ => 0⟩
    let ops : List Op := [
      .canvas "c" (.position 0 0 9 9) (some "paper") (Uid.Strategy.timestamp.suffix ambient),
      .draw "c" "x" (.circle 0 0 1) .empty, .draw "c" "y" (.circle 1 1 1) .empty]
    (empty.run ops).1.map Except.isOk = [true, true, true] ∧
    ((empty.run ops).2.canvases.map fun c => c.statements.map Statement.text) = [
      ["var rafa_circle_1700000000_7 = paper.circle(0, 0, 1);",
        "var rafa_circle_1700000000_7 = paper.circle(1, 1, 1);"]] ∧
    (empty.unnamed 0 ops).map Element.name =
      ["rafa_circle_1700000000_7", "rafa_circle_1700000000_7"] ∧
    ¬ ((empty.unnamed 0 ops).map Element.name).Nodup := by
  decide +kernel

end Session

end SceneScript
