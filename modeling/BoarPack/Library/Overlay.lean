import Mathlib.Logic.Function.Basic

/-! Objects as partial maps of their fields, and what is spread over them. -/
namespace Overlay

variable {F V : Type}

abbrev Fields (F V : Type) : Type := F → Option V

def empty : Fields F V := fun _ => none

/-- `{ ...base, ...changes }`. -/
def overlay (base changes : Fields F V) : Fields F V := fun field => (changes field).or (base field)

@[simp] theorem overlay_empty (base : Fields F V) : overlay base empty = base := rfl

theorem overlay_some (base : Fields F V) {changes : Fields F V} {field : F} {value : V}
    (given : changes field = some value) :
    overlay base changes field = some value := by
  simp [overlay,given]

theorem overlay_none (base : Fields F V) {changes : Fields F V} {field : F} (missing : changes field = none) :
    overlay base changes field = base field := by
  simp [overlay,missing]

theorem overlay_assoc (base first second : Fields F V) :
    overlay (overlay base first) second = overlay base (overlay first second) := by
  funext field
  simp [overlay,Option.or_assoc]

@[simp] theorem overlay_self (base : Fields F V) : overlay base base = base := by
  funext field
  simp [overlay]

/-- Spreading an object over itself as it was changed restores it, unless a field was added. -/
theorem overlay_back_iff (base changes : Fields F V) :
    overlay (overlay base changes) base = base ↔ ∀ field, base field = none → changes field = none := by
  constructor
  · intro restored field missing
    have same := congrFun restored field
    rwa [overlay_none _ missing,overlay,missing,Option.or_none] at same
  · intro known
    funext field
    cases held : base field with
    | none => rw [overlay_none _ held,overlay_none _ (known field held),held]
    | some value => rw [overlay_some _ held]

end Overlay
