import Mathlib.Data.List.Induction
import Mathlib.Data.List.Nodup

/-! The keys of a list in the order of their first appearance, and where a key stands at its own index.
Nothing here names a particular system. -/
namespace FirstAppearance

variable {K : Type} [DecidableEq K]

theorem eraseDups_concat (keys : List K) (k : K) :
    (keys ++ [k]).eraseDups = if k ∈ keys then keys.eraseDups else keys.eraseDups ++ [k] := by
  rw [List.eraseDups_append]
  by_cases here : k ∈ keys
  · simp [List.removeAll,here]
  · simp [List.removeAll,here,List.eraseDups_cons]

theorem eraseDups_nodup (keys : List K) : keys.eraseDups.Nodup := by
  induction keys using List.reverseRecOn with
  | nil => exact List.nodup_nil
  | append_singleton keys k ih =>
    rw [eraseDups_concat]
    split
    next => exact ih
    next absent =>
      refine List.nodup_append.mpr ⟨ih,by simp,fun old member new last same => absent ?_⟩
      rw [← List.mem_singleton.mp last,← same]
      exact List.mem_eraseDups.mp member

theorem length_eraseDups_le (keys : List K) : keys.eraseDups.length ≤ keys.length := by
  induction keys using List.reverseRecOn with
  | nil => exact Nat.le_refl 0
  | append_singleton keys k ih =>
    rw [eraseDups_concat]
    split
    next => exact Nat.le_trans ih (by simp)
    next => simpa using ih

/-- Each key appears once where as many appear as there are. -/
theorem nodup_iff_length (keys : List K) : keys.Nodup ↔ keys.eraseDups.length = keys.length := by
  induction keys using List.reverseRecOn with
  | nil => simp
  | append_singleton keys k ih =>
    rw [eraseDups_concat,List.nodup_append]
    have most := length_eraseDups_le keys
    split
    next here =>
      refine iff_of_false (fun nodup => nodup.2.2 k here k (by simp) rfl) ?_
      rw [List.length_append,List.length_singleton]
      omega
    next absent =>
      simp only [List.length_append,List.length_singleton,Nat.add_right_cancel_iff,← ih]
      refine ⟨fun nodup => nodup.1,fun nodup => ⟨nodup,by simp,fun old member new last same => absent ?_⟩⟩
      rw [← List.mem_singleton.mp last,← same]
      exact member

theorem eraseDups_of_nodup {keys : List K} (own : keys.Nodup) : keys.eraseDups = keys := by
  induction keys using List.reverseRecOn with
  | nil => rfl
  | append_singleton keys k ih =>
    obtain ⟨before,_,apart⟩ := List.nodup_append.mp own
    have absent : k ∉ keys := fun here => apart k here k (by simp) rfl
    rw [eraseDups_concat,if_neg absent,ih before]

/-- Different keys, each some times in a row. -/
theorem eraseDups_flatMap (copies : K → List K) (one : ∀ k, (copies k).eraseDups = [k]) (keys : List K)
    (own : keys.Nodup) :
    (keys.flatMap copies).eraseDups = keys := by
  have same (k j : K) : j ∈ copies k ↔ j = k := by
    rw [← List.mem_eraseDups,one,List.mem_singleton]
  induction keys with
  | nil => rfl
  | cons k rest ih =>
    obtain ⟨absent,own⟩ := List.nodup_cons.mp own
    have kept : (rest.flatMap copies).removeAll (copies k) = rest.flatMap copies := by
      rw [List.removeAll,List.filter_eq_self]
      intro j member
      obtain ⟨other,inside,copied⟩ := List.mem_flatMap.mp member
      obtain rfl := (same other j).mp copied
      have apart : j ≠ k := fun equal => absent (equal ▸ inside)
      simpa [same] using apart
    rw [List.flatMap_cons,List.eraseDups_append,one,kept,ih own,List.singleton_append]

theorem eraseDups_take_isPrefix (keys : List K) (i : Nat) : (keys.take i).eraseDups <+: keys.eraseDups := by
  have split : (keys.take i ++ keys.drop i).eraseDups = _ := List.eraseDups_append
  rw [List.take_append_drop] at split
  rw [split]
  exact List.prefix_append _ _

theorem eraseDups_getElem?_take (keys : List K) (i j : Nat) (k : K) (appears : (keys.take i).eraseDups[j]? = some k) :
    keys.eraseDups[j]? = some k := by
  obtain ⟨bound,rfl⟩ := List.getElem?_eq_some_iff.mp appears
  exact List.prefix_iff_getElem?.mp (eraseDups_take_isPrefix keys i) j bound

/-- The key that appears as number `i` stands at index `i` where no key up to there is repeated, and only
there. -/
theorem at_index_iff (keys : List K) (i : Nat) (k : K) (appears : keys.eraseDups[i]? = some k) :
    keys[i]? = some k ↔ (keys.take (i + 1)).Nodup := by
  obtain ⟨bound,_⟩ := List.getElem?_eq_some_iff.mp appears
  have inside : i < keys.length := Nat.lt_of_lt_of_le bound (length_eraseDups_le keys)
  have index : ∀ j, keys.eraseDups[j]? = some k → j = i := by
    intro j also
    obtain ⟨there,at_j⟩ := List.getElem?_eq_some_iff.mp also
    obtain ⟨_,at_i⟩ := List.getElem?_eq_some_iff.mp appears
    exact (eraseDups_nodup keys).getElem_inj_iff.mp (at_j.trans at_i.symm)
  constructor
  · intro here
    have next : keys.take (i + 1) = keys.take i ++ [k] := by
      rw [List.take_add_one,here]
      rfl
    have length : (keys.take i).length = i := List.length_take_of_le (Nat.le_of_lt inside)
    have fewer := length_eraseDups_le (keys.take i)
    -- an earlier `k` would have appeared as a number below `i`
    have absent : k ∉ keys.take i := by
      intro earlier
      obtain ⟨j,before,same⟩ := List.mem_iff_getElem.mp (List.mem_eraseDups.mpr earlier)
      have at_j := eraseDups_getElem?_take keys i j k (List.getElem?_eq_some_iff.mpr ⟨before,same⟩)
      have reached := index j at_j
      omega
    have last : (keys.take (i + 1)).eraseDups = (keys.take i).eraseDups ++ [k] := by
      rw [next,eraseDups_concat,if_neg absent]
    -- so `k` appears after all keys before index `i`, which are then `i` different ones
    have reached := index (keys.take i).eraseDups.length
      (eraseDups_getElem?_take keys (i + 1) _ k (by rw [last,List.getElem?_concat_length]))
    rw [nodup_iff_length,last,List.length_append,List.length_take_of_le inside,reached]
    rfl
  · intro own
    have at_i : (keys.take (i + 1)).eraseDups[i]? = keys[i]? := by
      rw [eraseDups_of_nodup own,List.getElem?_take_of_lt (Nat.lt_succ_self i)]
    rw [← appears,← at_i]
    have longer : i < (keys.take (i + 1)).eraseDups.length := by
      rw [eraseDups_of_nodup own,List.length_take_of_le inside]
      exact Nat.lt_succ_self i
    rw [List.getElem?_eq_getElem longer]
    exact (List.prefix_iff_getElem?.mp (eraseDups_take_isPrefix keys (i + 1)) i longer).symm

end FirstAppearance
