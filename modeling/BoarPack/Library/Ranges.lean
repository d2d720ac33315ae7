import Mathlib.Order.Lattice

/-! Half-open ranges of a database, whose bounds may be missing. A range that is empty has forgotten its
bounds. Nothing here names a particular system. -/
namespace Ranges

inductive Range (T : Type)
  | empty
  | bounds (lower upper : Option T)
  deriving DecidableEq, Repr

variable {T : Type}

def Range.lower : Range T → Option T
  | empty => none
  | bounds lower _ => lower

variable [LinearOrder T]

/-- `range(lower, upper, '[)')`, which is an error where the bounds are the wrong way round. -/
def range (lower upper : Option T) : Option (Range T) :=
  match lower, upper with
  | some least, some limit =>
    if limit < least then none else if least = limit then some .empty else some (.bounds lower upper)
  | _, _ => some (.bounds lower upper)

/-- The range from where the old one begins up to a new limit. -/
def extend (old : Range T) (limit : T) : Option (Range T) := range old.lower (some limit)

theorem extend_some (old : Range T) (least limit : T) (begins : old.lower = some least) (next : Range T) :
    extend old limit = some next ↔
      least < limit ∧ next = .bounds (some least) (some limit) ∨ least = limit ∧ next = .empty := by
  unfold extend range
  rw [begins]
  rcases lt_trichotomy limit least with before | rfl | after
  · simp [before,before.asymm,before.ne']
  · simp [eq_comm]
  · simp [after,after.asymm,after.ne,eq_comm]

theorem extend_none (old : Range T) (limit : T) (lost : old.lower = none) :
    extend old limit = some (.bounds none (some limit)) := by
  unfold extend range
  rw [lost]

end Ranges
