import Mathlib.Data.List.Nodup
import Mathlib.Data.List.TakeWhile
import Mathlib.Logic.Function.Basic

/-! Hierarchies of classes by their chains: a class, and those that it inherits from, the nearest first. What is
looked up along a chain is what the nearest class has of its own. -/

structure Hierarchy (C : Type) where
  chain : C → List C
  head : ∀ c, ∃ above, chain c = c :: above
  above : ∀ c d, d ∈ chain c → chain d <:+ chain c
  distinct : ∀ c, (chain c).Nodup

namespace Hierarchy

variable {C V : Type} [DecidableEq C] (h : Hierarchy C)

def nearer (target c : C) : List C := (h.chain c).takeWhile (· ≠ target)

def inherited (own : C → Option V) (c : C) : Option V := (h.chain c).findSome? own

/-- A class sees what another has of its own where none is nearer. -/
def Sees (own : C → Option V) (target c : C) : Prop := target ∈ h.chain c ∧ ∀ d ∈ h.nearer target c, own d = none

omit [DecidableEq C] in
theorem mem_chain (c : C) : c ∈ h.chain c := by
  obtain ⟨above,shape⟩ := h.head c
  rw [shape]
  exact List.mem_cons_self

theorem chain_split {target c : C} (below : target ∈ h.chain c) : h.chain c = h.nearer target c ++ h.chain target := by
  obtain ⟨before,split⟩ := h.above c target below
  obtain ⟨above,shape⟩ := h.head target
  have apart : ∀ d ∈ before, d ≠ target := by
    intro d member
    have distinct := h.distinct c
    rw [← split] at distinct
    exact (List.nodup_append.mp distinct).2.2 d member target (h.mem_chain target)
  have nearer : h.nearer target c = before := by
    rw [Hierarchy.nearer,← split,List.takeWhile_append_of_pos (by simpa using apart),shape]
    simp
  rw [nearer,split]

theorem inherited_below (own : C → Option V) {target c : C} (below : target ∈ h.chain c) :
    h.inherited own c = ((h.nearer target c).findSome? own).or (h.inherited own target) := by
  rw [inherited,h.chain_split below,List.findSome?_append]
  rfl

theorem inherited_sees (own : C → Option V) {target c : C} (sees : h.Sees own target c) :
    h.inherited own c = h.inherited own target := by
  rw [h.inherited_below own sees.1,List.findSome?_eq_none_iff.mpr sees.2,Option.none_or]

theorem sees_of_none (own : C → Option V) {target : C} (nothing : h.inherited own target = none) (c : C) :
    h.Sees own target c ↔ h.inherited own c = none ∧ target ∈ h.chain c := by
  constructor
  · intro sees
    exact ⟨(h.inherited_sees own sees).trans nothing,sees.1⟩
  · rintro ⟨empty,below⟩
    refine ⟨below,fun d member => ?_⟩
    exact List.findSome?_eq_none_iff.mp empty d (List.takeWhile_subset _ member)

theorem nearer_ne {target c d : C} (member : d ∈ h.nearer target c) : d ≠ target := by
  simpa using List.mem_takeWhile_imp member

omit [DecidableEq C] in
theorem findSome?_congr {own other : C → Option V} {chain : List C} (same : ∀ d ∈ chain, own d = other d) :
    chain.findSome? own = chain.findSome? other := by
  induction chain with
  | nil => rfl
  | cons d rest ih =>
    rw [List.findSome?_cons,List.findSome?_cons,same d List.mem_cons_self,
      ih (fun e member => same e (List.mem_cons_of_mem _ member))]

/-- What a class is given is inherited by those that see it, and nothing else changes. -/
theorem inherited_update (own : C → Option V) (target : C) (value : V) (c : C) :
    (h.Sees own target c → h.inherited (Function.update own target (some value)) c = some value) ∧
      (¬ h.Sees own target c → h.inherited (Function.update own target (some value)) c = h.inherited own c) := by
  have kept : (h.nearer target c).findSome? (Function.update own target (some value)) =
      (h.nearer target c).findSome? own :=
    findSome?_congr (fun d member => Function.update_of_ne (h.nearer_ne member) _ _)
  constructor
  · intro sees
    obtain ⟨above,shape⟩ := h.head target
    rw [h.inherited_below _ sees.1,kept,List.findSome?_eq_none_iff.mpr sees.2,Option.none_or,inherited,shape,
      List.findSome?_cons,Function.update_self]
  · intro unseen
    by_cases below : target ∈ h.chain c
    · have some_nearer : (h.nearer target c).findSome? own ≠ none := by
        intro nothing
        exact unseen ⟨below,List.findSome?_eq_none_iff.mp nothing⟩
      obtain ⟨found,first⟩ := Option.ne_none_iff_exists'.mp some_nearer
      rw [h.inherited_below _ below,h.inherited_below _ below,kept,first,Option.some_or,Option.some_or]
    · apply findSome?_congr
      intro d member
      apply Function.update_of_ne
      rintro rfl
      exact below member

end Hierarchy
