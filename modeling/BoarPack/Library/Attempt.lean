import Mathlib.Data.List.Basic

/-! Computations that may reject, and keep the state they had reached when they do, and the rules for what
holds when they have ended. Nothing here names a particular system. -/
namespace Attempts

abbrev Attempt (D A : Type) : Type := OptionT (StateM D) A

variable {D A B : Type}

def execute (m : Attempt D A) (start : D) : Option A × D := m.run.run start

/-- A single statement: where it rejects, it has done nothing. -/
def statement (f : D → Option (A × D)) : Attempt D A :=
  OptionT.mk (fun start => match f start with
    | some (a,after) => (some a,after)
    | none => (none,start))

/-- What holds afterwards, by how the computation ended. -/
def Ends (m : Attempt D A) (start : D) (returns : A → D → Prop) (rejects : D → Prop) : Prop :=
  match execute m start with
  | (some a,after) => returns a after
  | (none,after) => rejects after

variable {returns : A → D → Prop} {rejects : D → Prop} {start : D}

theorem execute_bind (m : Attempt D A) (next : A → Attempt D B) (start : D) :
    execute (m >>= next) start = match execute m start with
      | (some a,after) => execute (next a) after
      | (none,after) => (none,after) := by
  simp only [execute,OptionT.run_bind,Option.elimM,StateT.run_bind]
  rcases m.run.run start with ⟨_ | a,after⟩ <;> rfl

theorem ends_pure (a : A) : Ends (pure a) start returns rejects ↔ returns a start := Iff.rfl

theorem ends_statement (f : D → Option (A × D)) : Ends (statement f) start returns rejects ↔
    match f start with
    | some (a,after) => returns a after
    | none => rejects start := by
  unfold Ends execute statement
  simp only [OptionT.run_mk,StateT.run]
  cases f start <;> rfl

theorem ends_bind (m : Attempt D A) (next : A → Attempt D B) {returns : B → D → Prop} :
    Ends (m >>= next) start returns rejects ↔
      Ends m start (fun a after => Ends (next a) after returns rejects) rejects := by
  unfold Ends
  rw [execute_bind]
  rcases execute m start with ⟨_ | a,after⟩ <;> rfl

theorem Ends.imp {m : Attempt D A} {better : A → D → Prop} {worse : D → Prop} (ends : Ends m start returns rejects)
    (returned : ∀ a after, returns a after → better a after) (rejected : ∀ after, rejects after → worse after) :
    Ends m start better worse := by
  revert ends
  unfold Ends
  rcases execute m start with ⟨_ | a,after⟩
  · exact rejected after
  · exact returned a after

end Attempts
