import Mathlib.Data.List.Dedup
import Mathlib.Data.List.Perm.Basic

/-! Evenly spaced series of integers, and lists divided among keys. -/
namespace Buckets

variable {A K : Type}

def series (first last step : Int) : List Int :=
  (List.range ((last - first) / step + 1).toNat).map (fun k : Nat => first + k * step)

theorem mem_series (first last step t : Int) (forward : 0 < step) :
    t ∈ series first last step ↔ step ∣ t - first ∧ first ≤ t ∧ t ≤ last := by
  simp only [series,List.mem_map,List.mem_range]
  constructor
  · intro term
    obtain ⟨k,bound,rfl⟩ := term
    have reached : (k : Int) ≤ (last - first) / step := by omega
    have product := (Int.le_ediv_iff_mul_le forward).mp reached
    have natural : 0 ≤ (k : Int) * step := Int.mul_nonneg (Int.natCast_nonneg k) (Int.le_of_lt forward)
    refine ⟨⟨k,?_⟩,by omega,by omega⟩
    rw [Int.mul_comm step]
    omega
  · intro term
    obtain ⟨⟨k,apart⟩,after,before⟩ := term
    have natural : 0 ≤ k := by
      by_contra negative
      have product : step * k < 0 := Int.mul_neg_of_pos_of_neg forward (by omega)
      omega
    have reached : k ≤ (last - first) / step := by
      rw [Int.le_ediv_iff_mul_le forward,Int.mul_comm]
      omega
    refine ⟨k.toNat,by omega,?_⟩
    rw [Int.toNat_of_nonneg natural,Int.mul_comm]
    omega

theorem series_nodup (first last step : Int) (forward : 0 < step) : (series first last step).Nodup := by
  refine List.Nodup.map (fun i j same => ?_) List.nodup_range
  have product : (i : Int) * step = j * step := by simpa using same
  have equal := Int.eq_of_mul_eq_mul_right (Int.ne_of_gt forward) product
  exact Int.ofNat_inj.mp equal

theorem flatMap_filter_perm [DecidableEq K] (keys : List K) (distinct : keys.Nodup) (rows : List A) (key : A → K) :
    (keys.flatMap (fun k => rows.filter (fun r => key r = k))).Perm (rows.filter (fun r => key r ∈ keys)) := by
  induction keys with
  | nil => simp
  | cons k keys ih =>
    obtain ⟨absent,distinct⟩ := List.nodup_cons.mp distinct
    have divided := List.filter_append_perm (fun r => decide (key r = k)) (rows.filter (fun r => key r ∈ k :: keys))
    have here : (rows.filter (fun r => key r ∈ k :: keys)).filter (fun r => decide (key r = k)) =
        rows.filter (fun r => key r = k) := by
      rw [List.filter_filter]
      apply List.filter_congr
      intro r _
      by_cases same : key r = k <;> simp [same]
    have elsewhere : (rows.filter (fun r => key r ∈ k :: keys)).filter (fun r => !decide (key r = k)) =
        rows.filter (fun r => key r ∈ keys) := by
      rw [List.filter_filter]
      apply List.filter_congr
      intro r _
      by_cases same : key r = k
      · simp [same,absent]
      · simp [same]
    rw [here,elsewhere] at divided
    exact ((ih distinct).append_left _).trans divided

theorem count_flatten_replicate [DecidableEq A] (m : Nat) (rows : List A) (r : A) :
    (List.replicate m rows).flatten.count r = m * rows.count r := by
  rw [List.count_flatten,List.map_replicate,List.sum_replicate_nat]

theorem flatten_replicate_perm_iff [DecidableEq A] (m : Nat) (rows : List A) (selected : A → Bool) :
    (List.replicate m (rows.filter selected)).flatten.Perm rows ↔ ∀ r ∈ rows, selected r ∧ m = 1 := by
  constructor
  · intro same r member
    have counted := List.perm_iff_count.mp same r
    rw [count_flatten_replicate] at counted
    have some_r := List.count_pos_iff.mpr member
    by_cases chosen : selected r
    · rw [List.count_filter chosen] at counted
      exact ⟨chosen,Nat.eq_of_mul_eq_mul_right some_r (by rw [counted,Nat.one_mul])⟩
    · have none_r : (rows.filter selected).count r = 0 :=
        List.count_eq_zero.mpr (fun found => chosen (List.mem_filter.mp found).2)
      rw [none_r] at counted
      omega
  · intro all
    cases rows with
    | nil => simp
    | cons r rest =>
      have once := (all r List.mem_cons_self).2
      have kept : (r :: rest).filter selected = r :: rest :=
        List.filter_eq_self.mpr (fun other member => (all other member).1)
      rw [once,kept]
      simp

theorem flatMap_replicate_perm (m : Nat) (keys : List K) (f : K → List A) :
    (keys.flatMap (fun k => (List.replicate m (f k)).flatten)).Perm (List.replicate m (keys.flatMap f)).flatten := by
  induction m with
  | zero => simp
  | succ m ih =>
    simp only [List.replicate_succ,List.flatten_cons]
    exact (List.flatMap_append_perm keys f _).symm.trans (ih.append_left _)

theorem flatten_replicate_perm (m : Nat) {rows others : List A} (same : rows.Perm others) :
    (List.replicate m rows).flatten.Perm (List.replicate m others).flatten := by
  induction m with
  | zero => exact List.Perm.refl _
  | succ m ih =>
    simp only [List.replicate_succ,List.flatten_cons]
    exact same.append ih

theorem divided_perm_iff [DecidableEq A] [DecidableEq K] (m : Nat) (keys : List K) (distinct : keys.Nodup)
    (rows : List A) (key : A → K) :
    (keys.flatMap (fun k => (List.replicate m (rows.filter (fun r => key r = k))).flatten)).Perm rows ↔
      ∀ r ∈ rows, key r ∈ keys ∧ m = 1 := by
  have copies := (flatMap_replicate_perm m keys (fun k => rows.filter (fun r => key r = k))).trans
    (flatten_replicate_perm m (flatMap_filter_perm keys distinct rows key))
  have selected := flatten_replicate_perm_iff m rows (fun r => key r ∈ keys)
  simp only [decide_eq_true_eq] at selected
  exact (List.Perm.congr_left copies rows).trans selected

end Buckets
