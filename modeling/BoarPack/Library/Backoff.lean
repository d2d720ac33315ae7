import BoarPack.Library.PastTime
import Mathlib.Order.Lattice

/-! An alarm that is repeated after growing delays for as long as things are bad, and cleared when they
are good again. Nothing here names a particular system. -/
namespace Backoff

inductive Signal
  | raise
  | clear
  deriving DecidableEq, Repr

/-- How often the alarm was repeated, and when it was raised last. -/
structure Alarm (T : Type) where
  attempts : Nat
  last : T
  deriving DecidableEq, Repr

structure Observation (T : Type) where
  now : T
  bad : Bool
  signal : Option Signal
  deriving DecidableEq, Repr

variable {T D : Type}

/-- The times of the alarms since the last clearing. -/
def raised (times : List T) (o : Observation T) : List T :=
  match o.signal with
  | some .raise => times ++ [o.now]
  | some .clear => []
  | none => times

def since (trace : List (Observation T)) : List T := trace.foldl raised []

/-- An alarm was raised, and things have been bad from then on. -/
def RaisedSinceGood (trace : List (Observation T)) : Prop :=
  ∃ older alarm newer, trace = older ++ alarm :: newer ∧ alarm.signal = some .raise ∧ ∀ later ∈ newer, later.bad = true

theorem since_append (trace : List (Observation T)) (o : Observation T) :
    since (trace ++ [o]) = raised (since trace) o := by
  simp [since]

theorem raisedSinceGood_append (trace : List (Observation T)) (o : Observation T) :
    RaisedSinceGood (trace ++ [o]) ↔ o.signal = some .raise ∨ o.bad = true ∧ RaisedSinceGood trace :=
  PastTime.since_append (fun alarm : Observation T => alarm.signal = some .raise) (fun later =>
    later.bad = true) trace o

variable (delays : List D)

/-- What the memory says of the alarms so far. -/
structure Remembers (memory : Option (Alarm T)) (trace : List (Observation T)) : Prop where
  nothing : memory = none → since trace = []
  alarm : ∀ alarm, memory = some alarm → (since trace).length = alarm.attempts + 1 ∧
    (since trace).getLast? = some alarm.last ∧ alarm.attempts ≤ delays.length
  pending : since trace ≠ [] ↔ RaisedSinceGood trace

theorem remembers_empty : Remembers delays (none : Option (Alarm T)) [] where
  nothing _ := rfl
  alarm _ held := by cases held
  pending := by simp [since,RaisedSinceGood]

theorem Remembers.raise {trace : List (Observation T)} (o : Observation T) (raises : o.signal = some .raise)
    (attempts : Nat) (before : (since trace).length = attempts) (most : attempts ≤ delays.length) :
    Remembers delays (some ⟨attempts,o.now⟩) (trace ++ [o]) := by
  have later : since (trace ++ [o]) = since trace ++ [o.now] := by
    rw [since_append]
    unfold raised
    rw [raises]
  constructor
  · intro nothing
    cases nothing
  · intro alarm held
    obtain rfl := Option.some.inj held
    rw [later]
    exact ⟨by simp [before],by simp,most⟩
  · rw [later,raisedSinceGood_append]
    exact iff_of_true (by simp) (Or.inl raises)

theorem Remembers.wait {trace : List (Observation T)} {memory : Option (Alarm T)}
    (remembers : Remembers delays memory trace)
    (o : Observation T) (quiet : o.signal = none) (bad : o.bad = true) : Remembers delays memory (trace ++ [o]) := by
  have same : since (trace ++ [o]) = since trace := by
    rw [since_append]
    unfold raised
    rw [quiet]
  refine ⟨same ▸ remembers.nothing,same ▸ remembers.alarm,?_⟩
  rw [same,raisedSinceGood_append,remembers.pending]
  simp [quiet,bad]

theorem Remembers.forget {trace : List (Observation T)} (o : Observation T) (unraised : o.signal ≠ some .raise)
    (good : o.bad = false) (nothing : since (trace ++ [o]) = []) : Remembers delays none (trace ++ [o]) := by
  constructor
  · exact fun _ => nothing
  · intro alarm held
    cases held
  · rw [nothing,raisedSinceGood_append]
    simp [unraised,good]

theorem Remembers.counted {trace : List (Observation T)} {memory : Option (Alarm T)}
    (remembers : Remembers delays memory trace) :
    (since trace).length ≤ delays.length + 1 := by
  cases memory with
  | none =>
    rw [remembers.nothing rfl]
    simp
  | some alarm =>
    obtain ⟨length,_,most⟩ := remembers.alarm alarm rfl
    omega

section Schedule

variable [LinearOrder D] (elapsed : T → T → D)

/-- One observation, and what comes of the memory of the alarm. -/
def react (memory : Option (Alarm T)) (now : T) (bad : Bool) : Option (Alarm T) × Option Signal :=
  if bad then
    match memory with
    | none => (some ⟨0,now⟩,some .raise)
    | some alarm =>
      match delays[alarm.attempts]? with
      | none => (some alarm,none)
      | some delay =>
        if elapsed now alarm.last < delay then (some alarm,none) else (some ⟨alarm.attempts + 1,now⟩,some .raise)
  else (none,if memory.isSome then some .clear else none)

/-- What holds of an observation and of those before it. -/
structure Proper (before : List (Observation T)) (o : Observation T) : Prop where
  raised_bad : o.signal = some .raise → o.bad = true
  /-- The first alarm after a clearing comes as soon as things are bad. -/
  first : o.bad = true → since before = [] → o.signal = some .raise
  /-- An alarm after `k` alarms comes when the `k`-th delay is over. -/
  spaced : o.signal = some .raise → ∀ last, (since before).getLast? = some last →
    ∃ delay, delays[(since before).length - 1]? = some delay ∧ delay ≤ elapsed o.now last
  /-- The alarm is cleared as soon as things are good. -/
  cleared : o.signal = some .clear ↔ o.bad = false ∧ RaisedSinceGood before
  some_raised : o.signal = some .clear → since before ≠ []

structure Scheduled (trace : List (Observation T)) : Prop where
  proper : ∀ before o after, trace = before ++ o :: after → Proper delays elapsed before o
  /-- At most one alarm more than there are delays. -/
  counted : ∀ before after, trace = before ++ after → (since before).length ≤ delays.length + 1

theorem Scheduled.append {trace : List (Observation T)} (scheduled : Scheduled delays elapsed trace) (o : Observation T)
    (proper : Proper delays elapsed trace o) (counted : (since (trace ++ [o])).length ≤ delays.length + 1) :
    Scheduled delays elapsed (trace ++ [o]) where
  proper before other after split := by
    rcases List.eq_nil_or_concat after with rfl | ⟨rest,final,rfl⟩
    · obtain ⟨rfl,same⟩ := List.append_inj' split rfl
      cases same
      exact proper
    · rw [List.concat_eq_append,← List.cons_append,← List.append_assoc] at split
      obtain ⟨rfl,_⟩ := List.append_inj' split rfl
      exact scheduled.proper before other rest rfl
  counted before after split := by
    rcases List.eq_nil_or_concat after with rfl | ⟨rest,final,rfl⟩
    · rw [List.append_nil] at split
      exact split ▸ counted
    · rw [List.concat_eq_append,← List.append_assoc] at split
      obtain ⟨rfl,_⟩ := List.append_inj' split rfl
      exact scheduled.counted before rest rfl

theorem scheduled_empty : Scheduled delays elapsed ([] : List (Observation T)) where
  proper before o after split := by simp at split
  counted before after split := by
    obtain ⟨rfl,_⟩ := List.append_eq_nil_iff.mp split.symm
    simp [since]

theorem proper_quiet (before : List (Observation T)) (o : Observation T) (quiet : o.signal = none)
    (bad : o.bad = true → since before ≠ []) (good : o.bad = false → ¬ RaisedSinceGood before) :
    Proper delays elapsed before o where
  raised_bad raises := by rw [quiet] at raises; cases raises
  first at_bad nothing := absurd nothing (bad at_bad)
  spaced raises := by rw [quiet] at raises; cases raises
  cleared := by
    rw [quiet]
    exact iff_of_false (fun clears => by cases clears) (fun both => good both.1 both.2)
  some_raised clears := by rw [quiet] at clears; cases clears

theorem proper_raise (before : List (Observation T)) (o : Observation T) (raises : o.signal = some .raise)
    (bad : o.bad = true) (spaced : ∀ last, (since before).getLast? = some last →
      ∃ delay, delays[(since before).length - 1]? = some delay ∧ delay ≤ elapsed o.now last) :
    Proper delays elapsed before o where
  raised_bad _ := bad
  first _ _ := raises
  spaced _ := spaced
  cleared := by
    rw [raises,bad]
    exact iff_of_false (fun clears => by cases clears) (fun both => by cases both.1)
  some_raised clears := by rw [raises] at clears; cases clears

theorem proper_clear (before : List (Observation T)) (o : Observation T) (clears : o.signal = some .clear)
    (good : o.bad = false)
    (pending : RaisedSinceGood before) (alarms : since before ≠ []) : Proper delays elapsed before o where
  raised_bad raises := by rw [clears] at raises; cases raises
  first bad := by rw [good] at bad; cases bad
  spaced raises := by rw [clears] at raises; cases raises
  cleared := iff_of_true clears ⟨good,pending⟩
  some_raised _ := alarms

theorem react_scheduled (memory : Option (Alarm T)) (trace : List (Observation T)) (now : T) (bad : Bool)
    (remembers : Remembers delays memory trace) (scheduled : Scheduled delays elapsed trace) :
    Scheduled delays elapsed (trace ++ [⟨now,bad,(react delays elapsed memory now bad).2⟩]) ∧
      Remembers delays (react delays elapsed memory now bad).1
        (trace ++ [⟨now,bad,(react delays elapsed memory now bad).2⟩]) := by
  suffices both : Proper delays elapsed trace ⟨now,bad,(react delays elapsed memory now bad).2⟩ ∧
      Remembers delays (react delays elapsed memory now bad).1
        (trace ++ [⟨now,bad,(react delays elapsed memory now bad).2⟩]) from
    ⟨scheduled.append delays elapsed _ both.1 (both.2.counted delays),both.2⟩
  cases bad with
  | false =>
    cases memory with
    | none =>
      -- nothing to clear: an alarm that was not cleared would be remembered
      have nothing := remembers.nothing rfl
      refine ⟨proper_quiet delays elapsed trace _ rfl (fun bad => by cases bad) (fun _ pending => ?_),?_⟩
      · exact remembers.pending.mpr pending nothing
      · exact Remembers.forget delays _ (fun raises => by cases raises) rfl (by rw [since_append]; exact nothing)
    | some alarm =>
      obtain ⟨length,_,_⟩ := remembers.alarm alarm rfl
      have alarms : since trace ≠ [] := List.ne_nil_of_length_eq_add_one length
      refine ⟨proper_clear delays elapsed trace _ rfl rfl (remembers.pending.mp alarms) alarms,?_⟩
      exact Remembers.forget delays _ (fun raises => by cases raises) rfl (by rw [since_append]; rfl)
  | true =>
    cases memory with
    | none =>
      have nothing := remembers.nothing rfl
      refine ⟨proper_raise delays elapsed trace _ rfl rfl (fun last held => ?_),?_⟩
      · rw [nothing] at held
        cases held
      · exact Remembers.raise delays ⟨now,true,some .raise⟩ rfl 0 (by rw [nothing]; rfl) (Nat.zero_le _)
    | some alarm =>
      obtain ⟨length,at_last,most⟩ := remembers.alarm alarm rfl
      have alarms : since trace ≠ [] := List.ne_nil_of_length_eq_add_one length
      have quiet : Proper delays elapsed trace ⟨now,true,none⟩ :=
        proper_quiet delays elapsed trace _ rfl (fun _ => alarms) (fun good => by cases good)
      have waits := remembers.wait delays ⟨now,true,none⟩ rfl rfl
      simp only [react,if_true]
      cases delayed : delays[alarm.attempts]? with
      | none => exact ⟨quiet,waits⟩
      | some delay =>
        by_cases early : elapsed now alarm.last < delay
        · simp only [early,if_true]
          exact ⟨quiet,waits⟩
        · simp only [early,if_false]
          refine ⟨proper_raise delays elapsed trace _ rfl rfl (fun last held => ?_),?_⟩
          · obtain rfl := Option.some.inj (at_last.symm.trans held)
            rw [length,Nat.add_sub_cancel]
            exact ⟨delay,delayed,not_lt.mp early⟩
          · have room := (List.getElem?_eq_some_iff.mp delayed).1
            exact Remembers.raise delays ⟨now,true,some .raise⟩ rfl (alarm.attempts + 1) length room

end Schedule

end Backoff
