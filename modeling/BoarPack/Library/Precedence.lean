import BoarPack.Library.Containers
import BoarPack.Library.Transition

/-! Rules in order, of which the last that matches decides; sets that such rules add to and
delete from; and lists that several writers append to in turns. Nothing here names a
particular system. -/
namespace Precedence
open Containers Transition

variable {R : Type}

def last (p : R → Bool) (rules : List R) : Option R := rules.reverse.find? p

@[simp] theorem last_nil (p : R → Bool) : last p [] = none := rfl

theorem last_append (p : R → Bool) (older newer : List R) :
    last p (older ++ newer) = (last p newer).or (last p older) := by
  simp [last,List.find?_append]

@[simp] theorem last_singleton (p : R → Bool) (rule : R) :
    last p [rule] = if p rule then some rule else none := by
  cases matched : p rule <;> simp [last,matched]

theorem last_split (p : R → Bool) (older newer : List R) (rule : R) :
    last p (older ++ rule :: newer) = (last p newer).or (if p rule then some rule else last p older) := by
  have single : rule :: newer = [rule] ++ newer := rfl
  rw [single,last_append,last_append,last_singleton]
  cases last p newer with
  | some later => rfl
  | none => cases p rule <;> rfl

theorem last_eq_none (p : R → Bool) (rules : List R) : last p rules = none ↔ ∀ rule ∈ rules, p rule = false := by
  simp [last]

theorem last_and_none (p q : R → Bool) (rules : List R) (nothing : last p rules = none) :
    last (fun rule => p rule && q rule) rules = none := by
  rw [last_eq_none] at nothing ⊢
  intro rule member
  rw [nothing rule member,Bool.false_and]

theorem last_filter (p q : R → Bool) (rules : List R) :
    last q (rules.filter p) = last (fun rule => p rule && q rule) rules := by
  unfold last
  rw [← List.filter_reverse,List.find?_filter]
  simp only [Bool.decide_and,Bool.decide_eq_true]

theorem last_map {S : Type} (p : S → Bool) (f : R → S) (rules : List R) :
    last p (rules.map f) = (last (fun rule => p (f rule)) rules).map f := by
  simp only [last,← List.map_reverse,List.find?_map]
  rfl

/-- The deciding rule, with the rules before it and the rules after it, of which none matches. -/
theorem last_eq_some (p : R → Bool) (rules : List R) (rule : R) :
    last p rules = some rule ↔ ∃ older newer, rules = older ++ rule :: newer ∧ p rule = true ∧ last p newer = none := by
  constructor
  · intro decides
    induction rules using List.reverseRecOn with
    | nil => cases decides
    | append_singleton rules final ih =>
      rw [last_append,last_singleton] at decides
      split at decides
      next matched =>
        obtain rfl := Option.some.inj decides
        exact ⟨rules,[],rfl,matched,rfl⟩
      next missed =>
        obtain ⟨older,newer,rfl,matched,nothing⟩ := ih decides
        refine ⟨older,newer ++ [final],by simp,matched,?_⟩
        rw [last_append,last_singleton,if_neg missed,nothing]
        rfl
  · rintro ⟨older,newer,rfl,matched,nothing⟩
    rw [last_split,nothing,if_pos matched]
    rfl

section Toggles

variable {A : Type} [DecidableEq A]

/-- Each rule adds what it lists, or deletes it if it is inverted. -/
def toggle (inverted : R → Bool) (lists : R → List A) (pool : Distinct A) (rule : R) : Distinct A :=
  (lists rule).foldl (fun pool x => if inverted rule then pool.delete x else pool.add x) pool

def toggled (inverted : R → Bool) (lists : R → List A) (rules : List R) : Distinct A :=
  rules.foldl (toggle inverted lists) Distinct.empty

theorem mem_adds (items : List A) (pool : Distinct A) (x : A) :
    x ∈ items.foldl Distinct.add pool ↔ x ∈ pool ∨ x ∈ items := by
  induction items generalizing pool with
  | nil => simp
  | cons item items ih => rw [List.foldl_cons,ih,Distinct.mem_add,List.mem_cons,or_assoc]

theorem mem_deletes (items : List A) (pool : Distinct A) (x : A) :
    x ∈ items.foldl Distinct.delete pool ↔ x ∈ pool ∧ x ∉ items := by
  induction items generalizing pool with
  | nil => simp
  | cons item items ih => rw [List.foldl_cons,ih,Distinct.mem_delete,List.mem_cons,not_or,and_assoc]

theorem mem_toggle (inverted : R → Bool) (lists : R → List A) (pool : Distinct A) (rule : R) (x : A) :
    x ∈ toggle inverted lists pool rule ↔ if x ∈ lists rule then inverted rule = false else x ∈ pool := by
  unfold toggle
  cases direction : inverted rule with
  | false =>
    simp only [Bool.false_eq_true,if_false]
    rw [mem_adds]
    split
    next listed => simp [listed]
    next unlisted => simp [unlisted]
  | true =>
    simp only [if_true]
    rw [mem_deletes]
    split
    next listed => simp [listed]
    next unlisted => simp [unlisted]

/-- Membership is decided by the last rule that lists the element. -/
theorem mem_toggled (inverted : R → Bool) (lists : R → List A) (rules : List R) (x : A) :
    x ∈ toggled inverted lists rules ↔
      ∃ rule, last (fun rule => x ∈ lists rule) rules = some rule ∧ inverted rule = false := by
  induction rules using List.reverseRecOn with
  | nil => simp [toggled]
  | append_singleton rules rule ih =>
    unfold toggled at ih ⊢
    rw [List.foldl_append,List.foldl_cons,List.foldl_nil,mem_toggle,last_append,last_singleton]
    by_cases listed : x ∈ lists rule
    · simp [listed]
    · simp only [listed,if_false,decide_false,Bool.false_eq_true,Option.none_or]
      exact ih

end Toggles

/-- Writers that append to one list: what each has still to append, part by part. -/
structure Turns (R : Type) where
  pending : List (List (List R))
  written : List R
  deriving DecidableEq, Repr

namespace Turns

def turn (s : Turns R) (i : Nat) : Option (Turns R) :=
  match s.pending[i]? with
  | some (part :: rest) => some ⟨s.pending.set i rest,s.written ++ part⟩
  | _ => none

def Finished (s : Turns R) : Prop := ∀ parts ∈ s.pending, parts = []

instance (s : Turns R) : Decidable s.Finished :=
  decidable_of_iff (∀ parts ∈ s.pending, parts.isEmpty = true) (by simp [Finished])

/-- The list ends in what some writer wrote last, if a writer had a match to write. -/
def Decides (p : R → Bool) (s : Turns R) (result : Option R) : Prop :=
  (∃ parts ∈ s.pending, ∃ rule, last p parts.flatten = some rule ∧ result = some rule) ∨
    (∀ parts ∈ s.pending, last p parts.flatten = none) ∧ result = last p s.written

theorem turn_some (s t : Turns R) (i : Nat) (taken : s.turn i = some t) : ∃ part rest,
    s.pending[i]? = some (part :: rest) ∧ t = ⟨s.pending.set i rest,s.written ++ part⟩ := by
  unfold turn at taken
  split at taken
  next part rest found => exact ⟨part,rest,found,(Option.some.inj taken).symm⟩
  next => cases taken

/-- What is written and what is to be written satisfies `good`. -/
def All (good : R → Prop) (s : Turns R) : Prop :=
  (∀ rule ∈ s.written, good rule) ∧ ∀ parts ∈ s.pending, ∀ rule ∈ parts.flatten, good rule

theorem all_turn (good : R → Prop) (s : Turns R) (i : Nat) (t : Turns R) (all : s.All good)
    (taken : s.turn i = some t) :
    t.All good := by
  obtain ⟨part,rest,found,rfl⟩ := turn_some s t i taken
  have held := all.2 (part :: rest) (List.mem_of_getElem? found)
  rw [List.flatten_cons] at held
  constructor
  · intro rule member
    rcases List.mem_append.mp member with old | new
    · exact all.1 rule old
    · exact held rule (List.mem_append_left _ new)
  · intro parts member
    rcases List.mem_or_eq_of_mem_set member with old | rfl
    · exact all.2 parts old
    · exact fun rule inside => held rule (List.mem_append_right _ inside)

theorem all_run (good : R → Prop) (s t : Turns R) (turns : List Nat) (all : s.All good)
    (ran : run turn s turns = some t) :
    t.All good :=
  run_invariant (All good) (all_turn good) s t turns all ran

/-- What is written or is to be written stays so. -/
def Holds (s : Turns R) (rule : R) : Prop := rule ∈ s.written ∨ ∃ parts ∈ s.pending, rule ∈ parts.flatten

theorem holds_turn (rule : R) (s t : Turns R) (i : Nat) (taken : s.turn i = some t) : t.Holds rule ↔ s.Holds rule := by
  obtain ⟨part,rest,found,rfl⟩ := turn_some s t i taken
  have held : part :: rest ∈ s.pending := List.mem_of_getElem? found
  have inside : i < s.pending.length := (List.getElem?_eq_some_iff.mp found).1
  constructor
  · rintro (member | ⟨parts,member,here⟩)
    · rcases List.mem_append.mp member with old | new
      · exact Or.inl old
      · exact Or.inr ⟨_,held,by simp [new]⟩
    · rcases List.mem_or_eq_of_mem_set member with old | rfl
      · exact Or.inr ⟨parts,old,here⟩
      · exact Or.inr ⟨_,held,by rw [List.flatten_cons]; exact List.mem_append_right part here⟩
  · rintro (old | ⟨parts,member,here⟩)
    · exact Or.inl (List.mem_append_left part old)
    · obtain ⟨j,at_j⟩ := List.mem_iff_getElem?.mp member
      by_cases same : i = j
      · subst same
        rw [found] at at_j
        cases at_j
        rw [List.flatten_cons] at here
        rcases List.mem_append.mp here with new | later
        · exact Or.inl (List.mem_append_right s.written new)
        · exact Or.inr ⟨rest,List.mem_set inside rest,later⟩
      · refine Or.inr ⟨parts,List.mem_of_getElem? (i := j) ?_,here⟩
        rw [List.getElem?_set_ne same]
        exact at_j

theorem holds_run (rule : R) (s t : Turns R) (turns : List Nat) (ran : run turn s turns = some t) :
    t.Holds rule ↔ s.Holds rule :=
  run_invariant (fun u => u.Holds rule ↔
    s.Holds rule) (fun u i v same taken => (holds_turn rule u v i taken).trans same) s t turns
    Iff.rfl ran

theorem holds_finished (rule : R) {s : Turns R} (finished : s.Finished) : s.Holds rule ↔ rule ∈ s.written := by
  constructor
  · rintro (member | ⟨parts,member,here⟩)
    · exact member
    · rw [finished parts member] at here
      cases here
  · exact Or.inl

theorem decides_turn (p : R → Bool) (s t : Turns R) (i : Nat) (taken : s.turn i = some t) (result : Option R)
    (decides : t.Decides p result) : s.Decides p result := by
  obtain ⟨part,rest,found,rfl⟩ := turn_some s t i taken
  have held : part :: rest ∈ s.pending := List.mem_of_getElem? found
  have inside : i < s.pending.length := (List.getElem?_eq_some_iff.mp found).1
  have left : rest ∈ s.pending.set i rest := List.mem_set inside rest
  have joined : last p (part :: rest).flatten = (last p rest.flatten).or (last p part) := by
    rw [List.flatten_cons,last_append]
  obtain ⟨parts,member,rule,ends,rfl⟩ | ⟨nothing,rfl⟩ := decides
  · rcases List.mem_or_eq_of_mem_set member with old | rfl
    · exact Or.inl ⟨parts,old,rule,ends,rfl⟩
    · refine Or.inl ⟨part :: parts,held,rule,?_,rfl⟩
      rw [joined,ends]
      rfl
  · have ended := nothing rest left
    rw [ended,Option.none_or] at joined
    rw [last_append]
    cases here : last p part with
    | some rule =>
      rw [here] at joined
      exact Or.inl ⟨part :: rest,held,rule,joined,rfl⟩
    | none =>
      refine Or.inr ⟨fun parts member => ?_,rfl⟩
      by_cases same : parts = part :: rest
      · rw [same,joined,here]
      · obtain ⟨j,bound,at_j⟩ := List.getElem_of_mem member
        have other : j ≠ i := by
          rintro rfl
          rw [List.getElem?_eq_getElem bound,at_j] at found
          exact same (Option.some.inj found)
        apply nothing parts
        rw [← at_j,← List.getElem_set_ne (Ne.symm other) (by simpa using bound)]
        exact List.getElem_mem _

theorem decides_run (p : R → Bool) (s t : Turns R) (turns : List Nat) (ran : run turn s turns = some t)
    (finished : t.Finished) : s.Decides p (last p t.written) := by
  induction turns generalizing s with
  | nil =>
    cases ran
    refine Or.inr ⟨fun parts member => ?_,rfl⟩
    rw [finished parts member]
    rfl
  | cons i rest ih =>
    obtain ⟨next,taken,ran⟩ := (run_cons s t i rest).mp ran
    exact decides_turn p s next i taken _ (ih next ran)

/-- Writer `i` takes turns until it is done. -/
theorem drain (s : Turns R) (i : Nat) (parts : List (List R)) (held : s.pending[i]? = some parts) : ∃ turns,
    run turn s turns = some ⟨s.pending.set i [],s.written ++ parts.flatten⟩ := by
  induction parts generalizing s with
  | nil =>
    refine ⟨[],?_⟩
    have inside := (List.getElem?_eq_some_iff.mp held).1
    have same : s.pending.set i [] = s.pending := by
      rw [← (List.getElem?_eq_some_iff.mp held).2]
      exact List.set_getElem_self inside
    simp [same]
  | cons part rest ih =>
    have inside := (List.getElem?_eq_some_iff.mp held).1
    have taken : s.turn i = some ⟨s.pending.set i rest,s.written ++ part⟩ := by simp [turn,held]
    obtain ⟨turns,ran⟩ := ih ⟨s.pending.set i rest,s.written ++ part⟩ (List.getElem?_set_self inside)
    refine ⟨i :: turns,(run_cons _ _ _ _).mpr ⟨_,taken,?_⟩⟩
    rw [ran]
    simp

theorem drain_all (s : Turns R) (writers : List Nat) : ∃ turns t, run turn s turns = some t ∧
    ∀ j, t.pending[j]? = if j ∈ writers then (s.pending[j]?).map (fun _ => []) else s.pending[j]? := by
  induction writers generalizing s with
  | nil => exact ⟨[],s,rfl,by simp⟩
  | cons i rest ih =>
    cases held : s.pending[i]? with
    | none =>
      obtain ⟨turns,t,ran,later⟩ := ih s
      refine ⟨turns,t,ran,fun j => ?_⟩
      by_cases same : j = i
      · subst same
        rw [later j,held]
        simp
      · simpa [same] using later j
    | some parts =>
      obtain ⟨first,ran⟩ := drain s i parts held
      obtain ⟨second,t,ran_on,later⟩ := ih ⟨s.pending.set i [],s.written ++ parts.flatten⟩
      refine ⟨first ++ second,t,?_,fun j => ?_⟩
      · rw [run_append,ran]
        exact ran_on
      · have inside := (List.getElem?_eq_some_iff.mp held).1
        rw [later j]
        by_cases same : j = i
        · subst same
          simp [held,List.getElem?_set_self inside]
        · simp [same,List.getElem?_set_ne (Ne.symm same)]

/-- Any writer can be the last one to finish. -/
theorem finishes_with (p : R → Bool) (s : Turns R) (parts : List (List R)) (member : parts ∈ s.pending) (rule : R)
    (ends : last p parts.flatten = some rule) : ∃ turns t, run turn s turns = some t ∧ t.Finished ∧
      last p t.written = some rule := by
  obtain ⟨i,inside,at_i⟩ := List.getElem_of_mem member
  have held : s.pending[i]? = some parts := List.getElem?_eq_some_iff.mpr ⟨inside,at_i⟩
  obtain ⟨first,mid,ran,others⟩ := drain_all s ((List.range s.pending.length).filter (fun j => j ≠ i))
  have kept : mid.pending[i]? = some parts := by
    rw [others i]
    simpa using held
  obtain ⟨second,ran_on⟩ := drain mid i parts kept
  refine ⟨first ++ second,_,by rw [run_append,ran]; exact ran_on,?_,?_⟩
  · intro left at_end
    obtain ⟨j,found⟩ := List.getElem?_of_mem at_end
    by_cases same : j = i
    · subst same
      rw [List.getElem?_set_self (List.getElem?_eq_some_iff.mp kept).1] at found
      exact (Option.some.inj found).symm
    · rw [List.getElem?_set_ne (Ne.symm same),others j] at found
      by_cases bound : j < s.pending.length
      · simp only [List.mem_filter,List.mem_range,bound,decide_eq_true_eq,same,ne_eq,not_false_eq_true,and_self,
          if_true,List.getElem?_eq_getElem bound,Option.map_some] at found
        exact (Option.some.inj found).symm
      · simp [bound] at found
  · rw [last_append,ends]
    rfl

end Turns

end Precedence
