import Mathlib.Data.List.Induction

/-! What has been so since something happened, in a list of what came to pass, the latest last. Nothing
here names a particular system. -/
namespace PastTime

variable {T : Type} (start stays : T → Prop)

/-- At some moment it was `start`, and at each later one `stays`. -/
def Since (past : List T) : Prop :=
  ∃ older moment newer, past = older ++ moment :: newer ∧ start moment ∧ ∀ later ∈ newer, stays later

theorem since_append (past : List T) (now : T) :
    Since start stays (past ++ [now]) ↔ start now ∨ stays now ∧ Since start stays past := by
  constructor
  · intro since
    obtain ⟨older,moment,newer,split,starts,still⟩ := since
    rcases List.eq_nil_or_concat newer with rfl | ⟨rest,final,rfl⟩
    · obtain ⟨rfl,same⟩ := List.append_inj' split rfl
      cases same
      exact Or.inl starts
    · rw [List.concat_eq_append,← List.cons_append,← List.append_assoc] at split
      obtain ⟨rfl,same⟩ := List.append_inj' split rfl
      cases same
      exact Or.inr ⟨still now (by simp),older,moment,rest,rfl,starts,fun later member => still later (by simp [member])⟩
  · intro either
    rcases either with starts | ⟨still,older,moment,newer,rfl,starts,others⟩
    · exact ⟨past,now,[],rfl,starts,by simp⟩
    · refine ⟨older,moment,newer ++ [now],by simp,starts,fun later member => ?_⟩
      rcases List.mem_append.mp member with old | new
      · exact others later old
      · exact List.mem_singleton.mp new ▸ still

end PastTime
