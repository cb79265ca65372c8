import SceneScript.Error

/- Results that hang on a list of faults: the value if there is none, else the first fault. Whatever
   checks in turn and stops at the first failure is such a result for the list of all its faults. A
   change that makes all its checks first is one too, and with a fault it leaves its state alone. -/
namespace SceneScript
variable {α β σ : Type}

def checked : List Error → α → Except Error α
  | [], a => .ok a
  | fault :: _, _ => .error fault

def faultIf (cause : Prop) [Decidable cause] (fault : Error) : List Error :=
  if cause then [fault] else []

theorem checked_ok_iff {faults : List Error} {a b : α} :
    checked faults a = .ok b ↔ faults = [] ∧ a = b := by
  cases faults <;> simp [checked]

theorem checked_error_iff {faults : List Error} {a : α} {e : Error} :
    checked faults a = .error e ↔ faults.head? = some e := by
  cases faults <;> simp [checked]

theorem checked_bind {faults more : List Error} {a : α} {b : β} {next : α → Except Error β}
    (follows : faults = [] → next a = checked more b) :
    (checked faults a >>= next) = checked (faults ++ more) b := by
  cases faults with
  | nil => exact follows rfl
  | cons fault rest => rfl

theorem checked_bind_ok {faults : List Error} {a : α} {b : β} {next : α → Except Error β}
    (follows : next a = .ok b) : (checked faults a >>= next) = checked faults b := by
  cases faults with
  | nil => exact follows
  | cons fault rest => rfl

theorem checked_map (faults : List Error) (a : α) (f : α → β) :
    (checked faults a).map f = checked faults (f a) := by
  cases faults <;> rfl

theorem if_checked (cause : Prop) [Decidable cause] (fault : Error) (a : α) :
    (if cause then .error fault else .ok a) = checked (faultIf cause fault) a := by
  unfold faultIf
  split <;> rfl

theorem faultIf_empty_iff {cause : Prop} [Decidable cause] {fault : Error} :
    faultIf cause fault = [] ↔ ¬ cause := by
  simp [faultIf]

theorem faultIf_member_iff {cause : Prop} [Decidable cause] {fault e : Error} :
    e ∈ faultIf cause fault ↔ cause ∧ e = fault := by
  unfold faultIf
  split <;> simp_all

theorem bind_after_ok {x : EStateM Error σ α} {next : α → EStateM Error σ β} {s between : σ} {a : α}
    (first : x.run s = .ok a between) : (x >>= next).run s = (next a).run between := by
  rw [EStateM.run_bind, first]

theorem bind_after_error {x : EStateM Error σ α} {next : α → EStateM Error σ β} {s left : σ}
    {fault : Error} (first : x.run s = .error fault left) :
    (x >>= next).run s = .error fault left := by
  rw [EStateM.run_bind, first]

/-- What a change leaves: with a fault the state before it, else the state after it. -/
def settled (before : σ) (faults : List Error) (a : α) (after : σ) : EStateM.Result Error σ α :=
  match faults with
  | [] => .ok a after
  | fault :: _ => .error fault before

theorem settled_error {before after left : σ} {faults : List Error} {a : α} {fault : Error}
    (failed : settled before faults a after = .error fault left) : left = before := by
  cases faults with
  | nil => contradiction
  | cons first rest =>
    cases failed
    rfl

theorem settled_bind {x : EStateM Error σ α} {next : α → EStateM Error σ β} {s after : σ}
    {faults more : List Error} {a : α} {b : β} (checks : x.run s = settled s faults a s)
    (follows : (next a).run s = settled s more b after) :
    (x >>= next).run s = settled s (faults ++ more) b after := by
  cases faults with
  | nil => exact (bind_after_ok checks).trans follows
  | cons fault rest => exact bind_after_error checks

theorem settled_bind_ok {x : EStateM Error σ α} {next : α → EStateM Error σ β}
    {s between after : σ} {faults : List Error} {a : α} {b : β}
    (first : x.run s = settled s faults a between) (follows : (next a).run between = .ok b after) :
    (x >>= next).run s = settled s faults b after := by
  cases faults with
  | nil => exact (bind_after_ok first).trans follows
  | cons fault rest => exact bind_after_error first

end SceneScript
