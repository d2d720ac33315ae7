import Mathlib.Data.List.Basic
import Mathlib.Logic.Function.Basic

/-! Runs of a labelled step function that is partial in the label: what one step
preserves, every run preserves, and what one step is conditioned on, every run
can be conditioned on. Nothing here names a particular system. -/
namespace Transition

variable {S A : Type}

/-- The state after performing the labels in order, or `none` as soon as one of
them is not enabled. -/
def run (step : S → A → Option S) : S → List A → Option S
  | s, [] => some s
  | s, a :: rest => (step s a).bind (fun next => run step next rest)

/-- Every enabled step of the run is taken under `cond`. -/
def Meets (step : S → A → Option S) (cond : S → A → Prop) : S → List A → Prop
  | _, [] => True
  | s, a :: rest => ∀ next, step s a = some next → cond s a ∧ Meets step cond next rest

/-- Every state that the run visits, the first one included, satisfies `good`. -/
def Always (step : S → A → Option S) (good : S → Prop) : S → List A → Prop
  | s, [] => good s
  | s, a :: rest => good s ∧ ∀ next, step s a = some next → Always step good next rest

variable {step : S → A → Option S}

instance Meets.decidable (cond : S → A → Prop) [∀ s a, Decidable (cond s a)] :
    (s : S) → (as : List A) → Decidable (Meets step cond s as)
  | _, [] => isTrue trivial
  | s, a :: rest =>
    match taken : step s a with
    | none => isTrue (fun next enabled => by rw [taken] at enabled; cases enabled)
    | some next =>
      have := Meets.decidable cond next rest
      decidable_of_iff (cond s a ∧ Meets step cond next rest) (by simp [Meets,taken])

@[simp] theorem run_nil (s : S) : run step s [] = some s := rfl

theorem run_cons (s t : S) (a : A) (rest : List A) :
    run step s (a :: rest) = some t ↔ ∃ next, step s a = some next ∧ run step next rest = some t := by
  simp [run,Option.bind_eq_some_iff]

theorem run_append (s : S) (first second : List A) :
    run step s (first ++ second) = (run step s first).bind (fun t => run step t second) := by
  induction first generalizing s with
  | nil => rfl
  | cons a rest ih =>
    simp only [List.cons_append,run,Option.bind_assoc]
    congr 1
    funext next
    exact ih next

theorem run_invariant_meeting (inv : S → Prop) (cond : S → A → Prop)
    (keeps : ∀ s a t, inv s → cond s a → step s a = some t → inv t)
    (s t : S) (as : List A) (start : inv s) (meets : Meets step cond s as)
    (ran : run step s as = some t) : inv t := by
  induction as generalizing s with
  | nil => cases Option.some.inj ran; exact start
  | cons a rest ih =>
    obtain ⟨next,taken,ran⟩ := (run_cons s t a rest).mp ran
    obtain ⟨allowed,meets⟩ := meets next taken
    exact ih next (keeps s a next start allowed taken) meets ran

theorem run_invariant (inv : S → Prop) (keeps : ∀ s a t, inv s → step s a = some t → inv t)
    (s t : S) (as : List A) (start : inv s) (ran : run step s as = some t) : inv t := by
  induction as generalizing s with
  | nil => cases Option.some.inj ran; exact start
  | cons a rest ih =>
    obtain ⟨next,taken,ran⟩ := (run_cons s t a rest).mp ran
    exact ih next (keeps s a next start taken) ran

theorem Always.head {good : S → Prop} {s : S} {as : List A} (always : Always step good s as) :
    good s := by
  cases as with
  | nil => exact always
  | cons a rest => exact always.1

theorem Always.imp {good better : S → Prop} (weaken : ∀ s, good s → better s) {s : S} {as : List A}
    (always : Always step good s as) : Always step better s as := by
  induction as generalizing s with
  | nil => exact weaken s always
  | cons a rest ih => exact ⟨weaken s always.1,fun next taken => ih (always.2 next taken)⟩

theorem always_of_meets (inv : S → Prop) (cond : S → A → Prop)
    (keeps : ∀ s a t, inv s → cond s a → step s a = some t → inv t)
    (s : S) (as : List A) (start : inv s) (meets : Meets step cond s as) :
    Always step inv s as := by
  induction as generalizing s with
  | nil => exact start
  | cons a rest ih =>
    refine ⟨start,fun next taken => ?_⟩
    obtain ⟨allowed,meets⟩ := meets next taken
    exact ih next (keeps s a next start allowed taken) meets

/-- Exactness: when, given one condition on a step, another decides whether the property survives that step, the steps
of a run meet both iff they meet the first and the run keeps the property throughout. -/
theorem meets_and_iff (inv good : S → Prop) (given cond : S → A → Prop)
    (keeps : ∀ s a t, inv s → step s a = some t → inv t)
    (exact : ∀ s a t, inv s → good s → given s a → step s a = some t → (cond s a ↔ good t))
    (s : S) (as : List A) (start : inv s) (holds : good s) :
    Meets step (fun s a => given s a ∧ cond s a) s as ↔ Meets step given s as ∧ Always step good s as := by
  induction as generalizing s with
  | nil => exact iff_of_true trivial ⟨trivial,holds⟩
  | cons a rest ih =>
    constructor
    · intro meets
      have both (next : S) (taken : step s a = some next) :
          given s a ∧ Meets step given next rest ∧ Always step good next rest := by
        obtain ⟨⟨assumed,allowed⟩,later⟩ := meets next taken
        have kept := (exact s a next start holds assumed taken).mp allowed
        exact ⟨assumed,(ih next (keeps s a next start taken) kept).mp later⟩
      refine ⟨fun next taken => ?_,holds,fun next taken => (both next taken).2.2⟩
      exact ⟨(both next taken).1,(both next taken).2.1⟩
    · rintro ⟨meets,_,later⟩ next taken
      obtain ⟨assumed,meets⟩ := meets next taken
      have kept := later next taken
      have allowed := (exact s a next start holds assumed taken).mpr kept.head
      exact ⟨⟨assumed,allowed⟩,(ih next (keeps s a next start taken) kept.head).mpr ⟨meets,kept⟩⟩

theorem meets_of_labels {allowed : A → Prop} {s : S} {as : List A} (labels : ∀ a ∈ as, allowed a) :
    Meets step (fun _ a => allowed a) s as := by
  induction as generalizing s with
  | nil => trivial
  | cons a rest ih =>
    intro next taken
    exact ⟨labels a List.mem_cons_self,ih (fun b member => labels b (List.mem_cons_of_mem _ member))⟩

/-- A condition that alone decides whether the property survives a step. -/
theorem always_iff_meets (inv good : S → Prop) (cond : S → A → Prop)
    (keeps : ∀ s a t, inv s → step s a = some t → inv t)
    (exact : ∀ s a t, inv s → good s → step s a = some t → (cond s a ↔ good t))
    (s : S) (as : List A) (start : inv s) (holds : good s) :
    Always step good s as ↔ Meets step cond s as := by
  have both := meets_and_iff inv good (fun _ _ => True) cond keeps (fun s a t held good _ => exact s a t held good) s as
    start holds
  simp only [true_and] at both
  rw [both]
  exact (and_iff_right (meets_of_labels (fun _ _ => trivial))).symm

/-- Under an invariant a property may be replaced by one that says the same. -/
theorem always_congr {good better : S → Prop} (inv : S → Prop) (keeps : ∀ s a t, inv s → step s a = some t → inv t)
    (same : ∀ s, inv s → (good s ↔ better s)) (s : S) (as : List A) (start : inv s) :
    Always step good s as ↔ Always step better s as := by
  induction as generalizing s with
  | nil => exact same s start
  | cons a rest ih =>
    apply and_congr (same s start)
    apply forall₂_congr
    intro next taken
    exact ih next (keeps s a next start taken)

theorem Meets.and_labels {cond : S → A → Prop} {allowed : A → Prop} {s : S} {as : List A}
    (meets : Meets step cond s as) (labels : ∀ a ∈ as, allowed a) :
    Meets step (fun s a => cond s a ∧ allowed a) s as := by
  induction as generalizing s with
  | nil => trivial
  | cons a rest ih =>
    intro next taken
    obtain ⟨holds,later⟩ := meets next taken
    exact ⟨⟨holds,labels a List.mem_cons_self⟩,ih later (fun b member => labels b (List.mem_cons_of_mem _ member))⟩

/-- A view of the state that only the labels of its own change, as they would without the others. -/
theorem run_projected {V : Type} {viewed : V → A → Option V} (view : S → V) (own : A → Bool) (inv : S → Prop)
    (allowed : A → Prop) (keeps : ∀ s a t, inv s → allowed a → step s a = some t → inv t)
    (mine : ∀ s a t, inv s → allowed a → own a = true → step s a = some t → viewed (view s) a = some (view t))
    (others : ∀ s a t, inv s → allowed a → own a = false → step s a = some t → view t = view s)
    (s t : S) (as : List A) (labels : ∀ a ∈ as, allowed a) (start : inv s) (ran : run step s as = some t) :
    run viewed (view s) (as.filter own) = some (view t) := by
  induction as generalizing s with
  | nil =>
    cases ran
    rfl
  | cons a rest ih =>
    obtain ⟨permitted,labels⟩ := List.forall_mem_cons.mp labels
    obtain ⟨next,taken,ran⟩ := (run_cons s t a rest).mp ran
    have later := ih next labels (keeps s a next start permitted taken) ran
    cases owned : own a with
    | true =>
      rw [List.filter_cons_of_pos owned]
      exact (run_cons _ _ _ _).mpr ⟨view next,mine s a next start permitted owned taken,later⟩
    | false =>
      rw [List.filter_cons_of_neg (by simp [owned]),← others s a next start permitted owned taken]
      exact later

section Indexed

variable {I : Type} [DecidableEq I] {steps : I → S → A → Option S}

/-- Independent systems side by side; a label names the one that moves. -/
def indexed (steps : I → S → A → Option S) (s : I → S) (label : I × A) : Option (I → S) :=
  (steps label.1 (s label.1) label.2).map (Function.update s label.1)

theorem indexed_keeps (inv : S → Prop) (s t : I → S) (label : I × A) (all : ∀ i, inv (s i))
    (keeps : ∀ next, steps label.1 (s label.1) label.2 = some next → inv next)
    (taken : indexed steps s label = some t) : ∀ i, inv (t i) := by
  obtain ⟨next,moved,rfl⟩ := Option.map_eq_some_iff.mp taken
  intro i
  by_cases same : i = label.1
  · subst same
    rw [Function.update_self]
    exact keeps next moved
  · rw [Function.update_of_ne same]
    exact all i

def labelsOf (i : I) (labels : List (I × A)) : List A :=
  labels.filterMap (fun label => if label.1 = i then some label.2 else none)

theorem mem_labelsOf (i : I) (labels : List (I × A)) (a : A) : a ∈ labelsOf i labels ↔ (i,a) ∈ labels := by
  simp only [labelsOf,List.mem_filterMap]
  constructor
  · intro found
    obtain ⟨⟨j,b⟩,member,same⟩ := found
    split at same
    next named => cases same; exact named ▸ member
    next other => cases same
  · intro member
    exact ⟨(i,a),member,by simp⟩

theorem run_labelsOf (s t : I → S) (labels : List (I × A)) (ran : run (indexed steps) s labels = some t)
    (i : I) : run (steps i) (s i) (labelsOf i labels) = some (t i) := by
  induction labels generalizing s with
  | nil => cases ran; rfl
  | cons label rest ih =>
    obtain ⟨j,a⟩ := label
    obtain ⟨next,taken,ran⟩ := (run_cons s t (j,a) rest).mp ran
    obtain ⟨moved,step_taken,rfl⟩ := Option.map_eq_some_iff.mp taken
    have later := ih (Function.update s j moved) ran
    by_cases same : j = i
    · subst same
      simp only [Function.update_self] at later
      simp only [labelsOf,List.filterMap_cons,if_true]
      exact (run_cons (s j) (t j) a _).mpr ⟨moved,step_taken,later⟩
    · rw [Function.update_of_ne (Ne.symm same)] at later
      simpa [labelsOf,same] using later

theorem run_indexed (steps : I → S → A → Option S) (s : I → S) (i : I) (t : S) (as : List A)
    (ran : run (steps i) (s i) as = some t) :
    run (indexed steps) s (as.map (fun a => (i,a))) = some (Function.update s i t) := by
  induction as generalizing s with
  | nil => cases ran; simp
  | cons a rest ih =>
    obtain ⟨next,taken,ran⟩ := (run_cons (s i) t a rest).mp ran
    have moved : indexed steps s (i,a) = some (Function.update s i next) := by simp [indexed,taken]
    have later := ih (Function.update s i next) (by simpa using ran)
    rw [Function.update_idem] at later
    exact (run_cons _ _ _ _).mpr ⟨_,moved,later⟩

end Indexed

end Transition
