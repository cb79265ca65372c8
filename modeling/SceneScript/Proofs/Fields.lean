import Mathlib.Data.List.Forall2
import SceneScript.Scene.FromJson

/- What records come to depends on the values that names are given there: not on the order of the
   fields, and not on fields of other names. -/
namespace SceneScript.Scene

section Lists
variable {α β γ : Type}

theorem mapM_eq_filterMap (f : α → Option β) (l : List α) :
    l.mapM f = if l.all (fun a => (f a).isSome) then some (l.filterMap f) else none := by
  induction l with
  | nil => rfl
  | cons a l ih =>
    rw [List.mapM_cons, ih]
    cases found : f a with
    | none => simp [found]
    | some b =>
      simp only [List.all_cons, List.filterMap_cons, found, Option.isSome_some, Bool.true_and]
      split <;> rfl

theorem mapM_isSome (f : α → Option β) (l : List α) :
    (l.mapM f).isSome = l.all fun a => (f a).isSome := by
  rw [mapM_eq_filterMap]
  split <;> simp_all

theorem forall₂_of_mapM {f : α → Option β} {l : List α} {m : List β} (made : l.mapM f = some m) :
    List.Forall₂ (fun a b => f a = some b) l m := by
  induction l generalizing m with
  | nil => cases made; exact .nil
  | cons a l ih =>
    simp only [List.mapM_cons, Option.bind_eq_bind, Option.bind_eq_some_iff] at made
    obtain ⟨b, first, rest, others, made⟩ := made
    cases made
    exact .cons first (ih others)

theorem mapM_replaced {f : α → Option β} {a b : α} (same : f a = f b) (before after : List α) :
    (before ++ a :: after).mapM f = (before ++ b :: after).mapM f := by
  simp only [List.mapM_append, List.mapM_cons, same]

theorem rel_mono {R S : α → β → Prop} {a : Option α} {b : Option β} (rel : Option.Rel R a b)
    (weaker : ∀ x y, R x y → S x y) : Option.Rel S a b := by
  cases rel with
  | some related => exact .some (weaker _ _ related)
  | none => exact .none

theorem bind_of_rel {R : α → β → Prop} {a : Option α} {b : Option β} {f : α → Option γ}
    {g : β → Option γ} (rel : Option.Rel R a b) (same : ∀ x y, R x y → f x = g y) :
    a.bind f = b.bind g := by
  cases rel with
  | some related => exact same _ _ related
  | none => rfl

end Lists

namespace Fields
variable {ν μ ν' μ' : Type} {name : String}

/-- What two lists of fields have under a name: nothing, too much, or values that are related. -/
def Alike (R : ν → μ → Prop) (name : String) (fields : Fields ν) (others : Fields μ) : Prop :=
  Option.Rel (Option.Rel R) (fields.once? name) (others.once? name)

theorem once?_perm {fields others : Fields ν} (perm : fields.Perm others) :
    fields.once? name = others.once? name := by
  have found := perm.filter fun f => f.1 == name
  unfold once?
  generalize fields.filter _ = l at found ⊢
  generalize others.filter _ = m at found ⊢
  match l, m, found with
  | [], _, found => rw [found.nil_eq]
  | [_], _, found => rw [found.singleton_eq]
  | _ :: _ :: _, [], found => exact nomatch found.length_eq
  | _ :: _ :: _, [_], found => exact nomatch found.length_eq
  | _ :: _ :: _, _ :: _ :: _, _ => rfl

theorem once?_cons {key : String} (other : key ≠ name) (v : ν) (fields : Fields ν) :
    once? ((key, v) :: fields) name = fields.once? name := by
  simp [once?, other]

theorem once?_filter (keep : String → Bool) (kept : keep name = true) (fields : Fields ν) :
    once? (fields.filter fun f => keep f.1) name = fields.once? name := by
  have same : ∀ f : String × ν, (f.1 == name && keep f.1) = (f.1 == name) := by
    intro f
    by_cases own : f.1 = name <;> simp [own, kept]
  simp only [once?, List.filter_filter, same]

theorem once?_eq_some {fields : Fields ν} {v : ν} (given : fields.once? name = some (some v)) :
    (name, v) ∈ fields := by
  unfold once? at given
  split at given
  · cases given
  next key _ found =>
    cases given
    obtain ⟨inside, own⟩ := List.mem_filter.1 (found ▸ List.mem_singleton_self _)
    cases eq_of_beq own
    exact inside
  · cases given

namespace Alike
variable {R : ν → μ → Prop} {fields : Fields ν} {others : Fields μ}

theorem of_forall₂
    (same : List.Forall₂ (fun f g => f.1 = g.1 ∧ (f.1 = name → R f.2 g.2)) fields others) :
    Alike R name fields others := by
  have keys : Relator.LiftFun
      (fun (f : String × ν) (g : String × μ) => f.1 = g.1 ∧ (f.1 = name → R f.2 g.2)) Iff
      (fun f => (f.1 == name) = true) (fun g => (g.1 == name) = true) :=
    fun f g both => by simp only [both.1]
  have found := List.rel_filter keys same
  have own : ∀ f ∈ fields.filter fun f => f.1 == name, f.1 = name :=
    fun f inside => eq_of_beq (List.mem_filter.1 inside).2
  unfold Alike once?
  generalize fields.filter _ = l at found own ⊢
  generalize others.filter _ = m at found ⊢
  match l, m, found with
  | [], [], _ => exact .some .none
  | [f], [_], .cons both .nil => exact .some (.some (both.2 (own f (by simp))))
  | _ :: _ :: _, _ :: _ :: _, _ => exact .none

theorem refl {R : ν → ν → Prop} (same : ∀ v, R v v) (fields : Fields ν) :
    Alike R name fields fields :=
  of_forall₂ (List.forall₂_same.2 fun f _ => ⟨rfl, fun _ => same f.2⟩)

theorem of_eq {R : ν → ν → Prop} (same : ∀ v, R v v) {fields others : Fields ν}
    (eq : fields.once? name = others.once? name) : Alike R name fields others := by
  rw [Alike, eq]
  exact refl same others

@[elab_as_elim]
theorem cases {motive : Option (Option ν) → Option (Option μ) → Prop}
    (alike : Alike R name fields others) (many : motive none none)
    (none : motive (some none) (some none))
    (one : ∀ v w, R v w → motive (some (some v)) (some (some w))) :
    motive (fields.once? name) (others.once? name) := by
  unfold Alike at alike
  generalize fields.once? name = a at alike ⊢
  generalize others.once? name = b at alike ⊢
  match alike with
  | .none => exact many
  | .some .none => exact none
  | .some (.some related) => exact one _ _ related

theorem eq {fields others : Fields ν} (alike : Alike Eq name fields others) :
    fields.once? name = others.once? name :=
  alike.cases rfl rfl fun _ _ same => by rw [same]

theorem mono {S : ν → μ → Prop} (alike : Alike R name fields others)
    (weaker : ∀ v w, R v w → S v w) : Alike S name fields others := by
  unfold Alike
  exact alike.cases .none (.some .none) fun _ _ related => .some (.some (weaker _ _ related))

theorem given {w : μ} (alike : Alike R name fields others)
    (found : others.once? name = some (some w)) :
    ∃ v, fields.once? name = some (some v) ∧ R v w := by
  revert found
  refine alike.cases nofun nofun fun v w related found => ?_
  cases found
  exact ⟨v, rfl, related⟩

theorem remade {S : ν' → μ' → Prop} {P : ν → ν' → Prop} {Q : μ → μ' → Prop} {ones : Fields ν'}
    {twos : Fields μ'} (alike : Alike R name fields others) (first : Alike P name fields ones)
    (second : Alike Q name others twos)
    (related : ∀ v w v' w', R v w → P v v' → Q w w' → S v' w') : Alike S name ones twos := by
  unfold Alike at alike first second ⊢
  generalize fields.once? name = a at alike first
  generalize others.once? name = b at alike second
  generalize ones.once? name = c at first ⊢
  generalize twos.once? name = d at second ⊢
  match alike, first, second with
  | .none, .none, .none => exact .none
  | .some .none, .some .none, .some .none => exact .some .none
  | .some (.some r), .some (.some p), .some (.some q) =>
    exact .some (.some (related _ _ _ _ r p q))

end Alike

end Fields

namespace Reader
variable {ν α : Type} {name : String} {fields others : Fields ν}

theorem once_eq (fields : Fields ν) (name : String) :
    once (m := Option) fields name = fields.once? name := by
  unfold once
  cases fields.once? name <;> rfl

theorem need_alike {read : ν → Option α}
    (alike : Fields.Alike (fun v w => read v = read w) name fields others) :
    need fields name read = need others name read := by
  simp only [need, once_eq]
  exact alike.cases rfl rfl fun _ _ same => same

theorem orElse_alike {value : α} {read : ν → Option α}
    (alike : Fields.Alike (fun v w => read v = read w) name fields others) :
    orElse fields name value read = orElse others name value read := by
  simp only [orElse, once_eq]
  exact alike.cases rfl rfl fun _ _ same => same

theorem maybe_alike {read : ν → Option α} (F : Reader Option ν)
    (alike : Fields.Alike (fun v w => F.optional v = F.optional w ∨
      F.optional v = some (some v) ∧ F.optional w = some (some w) ∧ read v = read w)
      name fields others) :
    F.maybe fields name read = F.maybe others name read := by
  simp only [maybe, once_eq]
  refine alike.cases rfl rfl fun v w same => ?_
  rcases same with same | ⟨here, there, same⟩
  · simp only [Option.bind_eq_bind, Option.bind_some, same]
  · simp only [Option.bind_eq_bind, Option.bind_some, here, there, same]

end Reader

end SceneScript.Scene
