import BoarPack.Library.Containers
import BoarPack.Library.Transition
import Mathlib.Algebra.BigOperators.Group.List.Basic
import Mathlib.Algebra.Group.Prod
import Mathlib.Tactic.Abel

/-! What is given to a buffer that is saved batch by batch: a part of it waits, a part is being saved, a
part is stored and a part was lost. Nothing here names a particular system. -/
namespace Outbox
open Containers Transition

/-- What becomes of a batch that is being saved. -/
inductive Outcome
  | succeeds
  | rejects
  deriving DecidableEq, Repr

variable {M : Type}

/-- What a system shows of it. -/
structure View (M : Type) where
  given : M
  waiting : M
  saving : List M
  stored : M

variable [AddCommMonoid M]

def View.empty : View M := ⟨0,0,[],0⟩

def View.give (v : View M) (m : M) : View M := { v with given := v.given + m, waiting := v.waiting + m }

def View.detach (v : View M) (batch rest : M) : View M := { v with waiting := rest, saving := v.saving ++ [batch] }

def View.store (v : View M) (i : Nat) (batch : M) : View M :=
  { v with saving := v.saving.eraseIdx i, stored := v.stored + batch }

def View.lose (v : View M) (i : Nat) : View M := { v with saving := v.saving.eraseIdx i }

/-- All that was given is somewhere, and `lost` is what was lost of it. -/
def Balanced (lost : M) (v : View M) : Prop := v.stored + v.saving.sum + v.waiting + lost = v.given

def Conserved (v : View M) : Prop := v.stored + v.saving.sum + v.waiting = v.given

theorem balanced_empty : Balanced (0 : M) View.empty := by simp [Balanced,View.empty]

theorem conserved_iff [IsCancelAdd M] {lost : M} {v : View M} (balanced : Balanced lost v) :
    Conserved v ↔ lost = 0 := by
  unfold Balanced at balanced
  unfold Conserved
  constructor
  · intro conserved
    have same : v.stored + v.saving.sum + v.waiting + lost = v.stored + v.saving.sum + v.waiting + 0 := by
      rw [balanced,add_zero,conserved]
    exact add_left_cancel same
  · intro nothing
    rw [← balanced,nothing,add_zero]

theorem Balanced.give {lost : M} {v : View M} (balanced : Balanced lost v) (m : M) : Balanced lost (v.give m) := by
  unfold Balanced at *
  simp only [View.give]
  rw [← balanced]
  abel

theorem Balanced.detach {lost : M} {v : View M} (balanced : Balanced lost v) (batch rest : M)
    (splits : v.waiting = batch + rest) :
    Balanced lost (v.detach batch rest) := by
  unfold Balanced at *
  simp only [View.detach,List.sum_append,List.sum_singleton]
  rw [← balanced,splits]
  abel

theorem sum_eraseIdx {saving : List M} {i : Nat} {batch : M} (found : saving[i]? = some batch) :
    batch + (saving.eraseIdx i).sum = saving.sum := by
  obtain ⟨bound,rfl⟩ := List.getElem?_eq_some_iff.mp found
  exact List.CommMonoid.add_sum_eraseIdx bound

theorem Balanced.store {lost : M} {v : View M} (balanced : Balanced lost v) {i : Nat} {batch : M}
    (found : v.saving[i]? = some batch) :
    Balanced lost (v.store i batch) := by
  unfold Balanced at *
  simp only [View.store]
  rw [← balanced,← sum_eraseIdx found]
  abel

theorem Balanced.lose {lost : M} {v : View M} (balanced : Balanced lost v) {i : Nat} {batch : M}
    (found : v.saving[i]? = some batch) :
    Balanced (lost + batch) (v.lose i) := by
  unfold Balanced at *
  simp only [View.lose]
  rw [← balanced,← sum_eraseIdx found]
  abel

/-- The sum over an object in which one value is replaced by what it and `added` weigh. -/
theorem sum_set {K V : Type} [DecidableEq K] (weight : K × V → M) (object : List (K × V)) (key : K)
    (f : Option V → V) (added : M)
    (adds : ∀ old, weight (key,f old) = old.elim 0 (fun value => weight (key,value)) + added) :
    ((set object key (f (get object key))).map weight).sum = (object.map weight).sum + added := by
  induction object with
  | nil =>
    have fresh := adds none
    simpa [Containers.set,Containers.get] using fresh
  | cons entry rest ih =>
    by_cases same : entry.1 = key
    · subst same
      have held : get (entry :: rest) entry.1 = some entry.2 := by simp [Containers.get]
      have raised : weight (entry.1,f (some entry.2)) = weight entry + added := adds (some entry.2)
      rw [held,Containers.set,if_pos rfl,List.map_cons,List.sum_cons,raised,List.map_cons,List.sum_cons]
      abel
    · have later : get (entry :: rest) key = get rest key := by simp [Containers.get,same]
      rw [later,Containers.set,if_neg same,List.map_cons,List.sum_cons,ih,List.map_cons,List.sum_cons,add_assoc]

section History

variable {S A : Type}

/-- The steps, with the sum of what they do remembered. -/
def recorded (step : S → A → Option S) (does : S → A → M) (s : S × M) (a : A) : Option (S × M) :=
  (step s.1 a).map (fun t => (t,s.2 + does s.1 a))

variable {step : S → A → Option S} {gives loses : S → A → M} {view : S → M → View M}

/-- Where each step keeps the balance, nothing is lost in a run in which no step loses anything, and in no
other run. -/
theorem always_conserved_iff [IsCancelAdd M]
    (keeps : ∀ s given lost a t, step s a = some t → Balanced lost (view s given) →
      Balanced (lost + loses s a) (view t (given + gives s a)))
    (start : S) (balanced : Balanced 0 (view start 0)) (labels : List A) :
    Always (recorded step gives) (fun s => Conserved (view s.1 s.2)) (start,0) labels ↔
      Meets (recorded step gives) (fun s a => loses s.1 a = 0) (start,0) labels := by
  refine always_iff_meets (fun s : S × M => ∃ lost, Balanced lost (view s.1 s.2)) _ _ ?_ ?_ (start,0) labels
    ⟨0,balanced⟩
    ((conserved_iff balanced).mpr rfl)
  · rintro s a t ⟨lost,before⟩ taken
    obtain ⟨next,moved,rfl⟩ := Option.map_eq_some_iff.mp taken
    exact ⟨lost + loses s.1 a,keeps s.1 s.2 lost a next moved before⟩
  · rintro s a t ⟨lost,before⟩ conserved taken
    obtain ⟨next,moved,rfl⟩ := Option.map_eq_some_iff.mp taken
    have nothing := (conserved_iff before).mp conserved
    subst nothing
    rw [conserved_iff (keeps s.1 s.2 0 a next moved before),zero_add]

theorem always_balanced
    (keeps : ∀ s given lost a t, step s a = some t → Balanced lost (view s given) →
      Balanced (lost + loses s a) (view t (given + gives s a)))
    (start : S) (balanced : Balanced 0 (view start 0)) (labels : List A) :
    Always (recorded step (fun s a => (gives s a,loses s a))) (fun s => Balanced s.2.2 (view s.1 s.2.1))
      (start,0) labels := by
  refine always_of_meets _ (fun _ _ => True) ?_ (start,0) labels balanced (meets_of_labels (fun _ _ => trivial))
  intro s a t before _ taken
  obtain ⟨next,moved,rfl⟩ := Option.map_eq_some_iff.mp taken
  exact keeps s.1 s.2.1 s.2.2 a next moved before

end History

end Outbox
