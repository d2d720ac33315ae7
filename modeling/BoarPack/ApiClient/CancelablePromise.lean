import BoarPack.Library.Transition

/-! `CancelablePromise` of the generated clients: an executor settles it and registers handlers, and its owner may
cancel it. Handlers are called one after the other, and whatever is called while one of them runs comes between. -/
namespace BoarPack.ApiClient
open Transition

/-- What a promise was rejected with: a reason the executor gave, or `new CancelError(message)`. -/
inductive Reason (E : Type)
  | given (reason : E)
  | cancelError (message : String)
  deriving DecidableEq, Repr

inductive Settled (T E : Type)
  | pending
  | fulfilled (value : T)
  | rejected (reason : Reason E)
  deriving DecidableEq, Repr

/-- `calling`: the place of the handler that `cancel` is calling. History: `called`, the handlers it called. -/
structure CancelablePromise (T E H : Type) where
  isResolved : Bool := false
  isRejected : Bool := false
  isCancelled : Bool := false
  cancelHandlers : List H := []
  promise : Settled T E := .pending
  calling : Option Nat := none
  called : List H := []
  deriving DecidableEq, Repr

inductive Call (T E H : Type)
  | resolve (value : T)
  | reject (reason : E)
  | onCancel (cancelHandler : H)
  | cancel
  | returned
  | threw
  deriving DecidableEq, Repr

variable {T E H : Type}

namespace CancelablePromise

variable (p : CancelablePromise T E H)

def ended : Bool := p.isResolved || p.isRejected || p.isCancelled

/-- Only the first call of the functions of a promise settles it. -/
def settle (outcome : Settled T E) : CancelablePromise T E H :=
  match p.promise with
  | .pending => { p with promise := outcome }
  | _ => p

def onResolve (value : T) : CancelablePromise T E H :=
  if p.ended then p else { p with isResolved := true }.settle (.fulfilled value)

def onReject (reason : E) : CancelablePromise T E H :=
  if p.ended then p else { p with isRejected := true }.settle (.rejected (.given reason))

def onCancel (cancelHandler : H) : CancelablePromise T E H :=
  if p.ended then p else { p with cancelHandlers := p.cancelHandlers ++ [cancelHandler] }

def aborted : Settled T E := .rejected (.cancelError "Request aborted")

/-- The loop over the handlers, at place `i`. -/
def handlersFrom (i : Nat) : CancelablePromise T E H :=
  match p.cancelHandlers[i]? with
  | some cancelHandler => { p with calling := some i, called := p.called ++ [cancelHandler] }
  | none => { p with calling := none, cancelHandlers := [] }.settle aborted

def cancel : CancelablePromise T E H := if p.ended then p else { p with isCancelled := true }.handlersFrom 0

def step : Call T E H → Option (CancelablePromise T E H)
  | .resolve value => some (p.onResolve value)
  | .reject reason => some (p.onReject reason)
  | .onCancel cancelHandler => some (p.onCancel cancelHandler)
  | .cancel => some p.cancel
  | .returned => p.calling.map (fun i => p.handlersFrom (i + 1))
  -- `cancel` returns before it empties the handlers and rejects
  | .threw => p.calling.map (fun _ => { p with calling := none })

end CancelablePromise

def Call.settles : Call T E H → Bool
  | .resolve _ | .reject _ | .cancel => true
  | _ => false

def registered (calls : List (Call T E H)) : List H :=
  calls.filterMap (fun
    | .onCancel cancelHandler => some cancelHandler
    | _ => none)

/-- How many handlers returned before one threw. -/
def returns : List (Call T E H) → Nat
  | [] | .threw :: _ => 0
  | .returned :: rest => returns rest + 1
  | _ :: rest => returns rest

def throws (calls : List (Call T E H)) : Bool := calls.any (fun call => call matches .threw)

/-- The first call that settles decides, and what comes after it changes nothing. Where it is a cancellation the
handlers registered before are called in their order, each after the return of the one before it, and the promise is
rejected after the last of them; one that throws is the last that is called, and the promise stays pending. -/
def Explained (calls : List (Call T E H)) (p : CancelablePromise T E H) : Prop :=
  match calls.find? Call.settles with
  | some (.resolve value) => p.promise = .fulfilled value ∧ p.called = []
  | some (.reject reason) => p.promise = .rejected (.given reason) ∧ p.called = []
  | some _ =>
    let handlers := registered (calls.takeWhile (fun call => !call.settles))
    p.called = handlers.take (returns calls + 1) ∧
      (p.calling.isSome ↔ throws calls = false ∧ returns calls < handlers.length) ∧
      p.promise = if throws calls ∨ returns calls < handlers.length then .pending else CancelablePromise.aborted
  | none => p.promise = .pending ∧ p.called = []

namespace CancelablePromise

def opened (handlers : List H) : CancelablePromise T E H := { cancelHandlers := handlers }

/-- What a cancelled promise with these handlers is after so many of them returned, and whether one of them threw
then. -/
inductive Cancelled (handlers : List H) : Nat → Bool → CancelablePromise T E H → Prop
  | calling (i : Nat) (inside : i < handlers.length) : Cancelled handlers i false
      { isCancelled := true, cancelHandlers := handlers, calling := some i, called := handlers.take (i + 1) }
  | finished : Cancelled handlers handlers.length false { isCancelled := true, promise := aborted, called := handlers }
  | thrown (i : Nat) : Cancelled handlers i true
      { isCancelled := true, cancelHandlers := handlers, called := handlers.take (i + 1) }

private theorem opened_step {handlers : List H} {call : Call T E H} {q : CancelablePromise T E H}
    (waits : call.settles = false) (taken : (opened handlers).step call = some q) :
    q = opened (handlers ++ registered [call]) ∧ ∃ cancelHandler, call = .onCancel cancelHandler := by
  cases call with
  | onCancel cancelHandler =>
    cases taken
    exact ⟨rfl,cancelHandler,rfl⟩
  | returned | threw => cases taken
  | resolve | reject | cancel => cases waits

private theorem opened_run {handlers : List H} {calls : List (Call T E H)} {q : CancelablePromise T E H}
    (wait : ∀ call ∈ calls, call.settles = false) (ran : run step (opened handlers) calls = some q) :
    q = opened (handlers ++ registered calls) ∧ ∀ later, returns (calls ++ later) = returns later ∧
      throws (calls ++ later) = throws later := by
  induction calls generalizing handlers with
  | nil =>
    cases ran
    simp [registered]
  | cons call rest ih =>
    obtain ⟨first,after⟩ := List.forall_mem_cons.mp wait
    obtain ⟨next,taken,ran⟩ := (run_cons _ _ _ _).mp ran
    obtain ⟨rfl,cancelHandler,rfl⟩ := opened_step first taken
    obtain ⟨reached,quiet⟩ := ih after ran
    refine ⟨?_,quiet⟩
    rw [reached,List.append_assoc,registered,registered,← List.filterMap_append]
    rfl

theorem ended_step {p q : CancelablePromise T E H} (ended : p.ended = true) (idle : p.calling = none)
    {call : Call T E H} (taken : p.step call = some q) : q = p := by
  cases call with
  | resolve value => simpa [step,onResolve,ended] using taken.symm
  | reject reason => simpa [step,onReject,ended] using taken.symm
  | onCancel cancelHandler => simpa [step,onCancel,ended] using taken.symm
  | cancel => simpa [step,cancel,ended] using taken.symm
  | returned => simp [step,idle] at taken
  | threw => simp [step,idle] at taken

theorem ended_run {p q : CancelablePromise T E H} (ended : p.ended = true) (idle : p.calling = none)
    {calls : List (Call T E H)} (ran : run step p calls = some q) : q = p := by
  refine run_invariant (fun t => t = p) ?_ p q calls rfl ran
  rintro s call t rfl taken
  exact ended_step ended idle taken

private theorem handlersFrom_cancelled (handlers : List H) (i : Nat) (bounded : i ≤ handlers.length) :
    Cancelled handlers i false
      (handlersFrom
        ({ isCancelled := true, cancelHandlers := handlers, called := handlers.take i } : CancelablePromise T E H)
        i) := by
  unfold handlersFrom
  cases here : handlers[i]? with
  | some cancelHandler =>
    have inside : i < handlers.length := (List.getElem?_eq_some_iff.mp here).1
    have grown : handlers.take (i + 1) = handlers.take i ++ [cancelHandler] := by
      rw [List.take_add_one,here]
      rfl
    simp only
    rw [← grown]
    exact .calling i inside
  | none =>
    obtain rfl : i = handlers.length := Nat.le_antisymm bounded (List.getElem?_eq_none_iff.mp here)
    simp only [settle,List.take_length]
    exact .finished

theorem Cancelled.step {handlers : List H} {k : Nat} {threw : Bool} {p q : CancelablePromise T E H}
    (cancelled : Cancelled handlers k threw p) {call : Call T E H} (taken : p.step call = some q) :
    Cancelled handlers (if threw then k else k + returns [call]) (threw || throws [call]) q := by
  cases cancelled with
  | calling _ inside =>
    cases call with
    | returned =>
      cases taken
      exact handlersFrom_cancelled handlers (k + 1) inside
    | threw =>
      cases taken
      exact .thrown k
    | resolve | reject | onCancel | cancel =>
      cases taken
      exact .calling k inside
  | finished =>
    obtain rfl := ended_step rfl rfl taken
    cases call with
    | returned | threw => cases taken
    | resolve | reject | onCancel | cancel => exact .finished
  | thrown =>
    obtain rfl := ended_step rfl rfl taken
    exact .thrown k

theorem Cancelled.run {handlers : List H} {k : Nat} {threw : Bool} {p q : CancelablePromise T E H}
    (cancelled : Cancelled handlers k threw p) {calls : List (Call T E H)}
    (ran : run CancelablePromise.step p calls = some q) :
    Cancelled handlers (if threw then k else k + returns calls) (threw || throws calls) q := by
  induction calls generalizing p k threw with
  | nil =>
    cases ran
    simpa [returns,throws] using cancelled
  | cons call rest ih =>
    obtain ⟨next,taken,ran⟩ := (run_cons _ _ _ _).mp ran
    have later := ih (cancelled.step taken) ran
    cases threw with
    | true => exact later
    | false =>
      cases call with
      | threw => exact later
      | returned =>
        simp only [returns,throws] at later ⊢
        rw [Nat.add_comm (returns rest) 1,← Nat.add_assoc]
        exact later
      | resolve | reject | onCancel | cancel => exact later

end CancelablePromise

open CancelablePromise in
/-- Every run of a promise is explained by its calls. -/
theorem settled_by_first (calls : List (Call T E H)) (p : CancelablePromise T E H)
    (ran : run CancelablePromise.step {} calls = some p) : Explained calls p := by
  unfold Explained
  cases first : calls.find? Call.settles with
  | none =>
    have wait : ∀ call ∈ calls, call.settles = false := by simpa using first
    obtain ⟨rfl,_⟩ := opened_run wait ran
    exact ⟨rfl,rfl⟩
  | some call =>
    obtain ⟨settles,before,after,rfl,wait⟩ := List.find?_eq_some_iff_append.mp first
    rw [run_append] at ran
    obtain ⟨q,opening,ran⟩ := Option.bind_eq_some_iff.mp ran
    have waits : ∀ call ∈ before, call.settles = false := by simpa using wait
    obtain ⟨rfl,quiet⟩ := opened_run waits opening
    obtain ⟨next,taken,ran⟩ := (run_cons _ _ _ _).mp ran
    cases call with
    | resolve value =>
      cases taken
      obtain rfl := ended_run rfl rfl ran
      exact ⟨rfl,rfl⟩
    | reject reason =>
      cases taken
      obtain rfl := ended_run rfl rfl ran
      exact ⟨rfl,rfl⟩
    | cancel =>
      cases taken
      have start : Cancelled (registered before) 0 false
          (opened ([] ++ registered before) : CancelablePromise T E H).cancel :=
        handlersFrom_cancelled (registered before) 0 (Nat.zero_le _)
      have reached := start.run ran
      have prefix_calls : (before ++ Call.cancel :: after).takeWhile (fun call => !call.settles) = before := by
        rw [List.takeWhile_append_of_pos wait]
        simp [Call.settles]
      have returned : returns (before ++ Call.cancel :: after) = returns after := (quiet _).1
      have threw : throws (before ++ Call.cancel :: after) = throws after := (quiet _).2
      simp only [prefix_calls,returned,threw]
      simp only [Bool.false_eq_true,if_false,Nat.zero_add,Bool.false_or] at reached
      generalize returns after = k at reached
      generalize throws after = thrown at reached
      cases reached with
      | calling _ inside => simp [inside]
      | finished => simp [List.take_of_length_le]
      | thrown => simp
    | onCancel | returned | threw => cases settles

theorem cancelled_before_resolve : ∃ p : CancelablePromise String String Nat,
    run CancelablePromise.step {} [.onCancel 1,.onCancel 2,.cancel,.returned,.resolve "late",.returned] = some p ∧
      Explained [.onCancel 1,.onCancel 2,.cancel,.returned,.resolve "late",.returned] p :=
  ⟨_,rfl,settled_by_first _ _ rfl⟩

end BoarPack.ApiClient
