import BoarPack.Library.Containers
import BoarPack.Library.Ranges
import BoarPack.Library.Transition
import Mathlib.Order.Bounds.Basic

/-! `ApiStatisticService`: the row of the process, which each heartbeat extends up to the clock it read. The
statements of several heartbeats may be under way, and are executed in any order. -/
namespace BoarPack.ApiStatistics
open Containers Transition Ranges

structure ApiStatistic where
  serviceName : String
  uptimePeriod : Range Int
  deriving DecidableEq, Repr

/-- `updates`: the statements sent, with the clock and the id that `update` read. `executed` is history: the
clocks of those that were executed. -/
structure State where
  serviceName : Option String
  lastInsertedId : Option Nat := none
  table : List (Nat × ApiStatistic)
  updates : List (Int × Option Nat) := []
  executed : List Int := []
  deriving DecidableEq, Repr

inductive Event
  | updateUptimeStatistic (now : Int)
  | onModuleDestroy (now : Int)
  | executed (i : Nat)
  | failed (i : Nat)
  deriving DecidableEq, Repr

/-- `id` is what the database draws. Until `save` returns there is no id to update. -/
def onModuleInit (serviceName : Option String) (table : List (Nat × ApiStatistic)) (id : Nat) (now : Int) : State :=
  match serviceName.filter (· ≠ "") with
  | none => { serviceName := none, table := table }
  | some serviceName =>
    { serviceName := some serviceName
      lastInsertedId := some id
      table := set table id ⟨serviceName,.bounds (some now) none⟩ }

def State.update (s : State) (now : Int) : State := { s with updates := s.updates ++ [(now,s.lastInsertedId)] }

def setUptimePeriod (table : List (Nat × ApiStatistic)) (id : Option Nat) (now : Int) :
    Option (List (Nat × ApiStatistic)) :=
  -- `UPDATE … SET uptime_period = tstzrange(lower(uptime_period), now, '[)') WHERE id = …`
  match id with
  | none => some table
  | some id =>
    match get table id with
    | none => some table
    | some row => (extend row.uptimePeriod now).map (fun period => set table id { row with uptimePeriod := period })

def step (s : State) : Event → Option State
  | .updateUptimeStatistic now =>
    if s.serviceName.isNone || s.lastInsertedId.isNone then some s else some (s.update now)
  | .onModuleDestroy now => if s.serviceName.isNone then some s else some (s.update now)
  | .executed i =>
    match s.updates[i]? with
    | some (now,id) =>
      (setUptimePeriod s.table id now).map (fun table =>
        { s with table := table, updates := s.updates.eraseIdx i, executed := s.executed ++ [now] })
    | none => none
  | .failed i => if i < s.updates.length then some { s with updates := s.updates.eraseIdx i } else none

section Row

variable (start : Int) (id : Nat)

def NoneBefore (readings : List Int) : Prop := ∀ now ∈ readings, start ≤ now

instance (readings : List Int) : Decidable (NoneBefore start readings) :=
  inferInstanceAs (Decidable (∀ now ∈ readings, start ≤ now))

/-- Once a reading later than the start was executed, the row lasts from the start to the latest of them. -/
def Extends (s : State) : Prop :=
  NoneBefore start s.executed → (∃ now ∈ s.executed, start < now) →
    ∃ latest, IsGreatest {now | now ∈ s.executed} latest ∧
      (get s.table id).map ApiStatistic.uptimePeriod = some (.bounds (some start) (some latest))

/-- A reading of the start comes after readings of the start only, a later one after readings that are later
than the start and not later than itself. -/
def InOrder (s : State) : Event → Prop
  | .executed i => ∀ update, s.updates[i]? = some update → NoneBefore start s.executed →
      update.1 = start ∧ (∀ now ∈ s.executed, now = start) ∨
      start < update.1 ∧ (∀ now ∈ s.executed, start < now ∧ now ≤ update.1) ∨
      update.1 < start
  | _ => True

/-- What the row holds, from the readings executed: with the start itself among them it has lost its lower bound. -/
def Written (readings : List Int) (period : Range Int) : Prop :=
  if start ∈ readings then period.lower = none else period = .bounds (some start) readings.getLast?

/-- Either the service is off, or the row has come from the readings. -/
inductive Kept (s : State) : Prop
  | off (serviceName : s.serviceName = none) (updates : s.updates = []) (executed : s.executed = [])
  | row (lastInsertedId : s.lastInsertedId = some id) (updates : ∀ update ∈ s.updates, update.2 = some id)
      (row : ApiStatistic) (held : get s.table id = some row)
      (written : NoneBefore start s.executed → Written start s.executed row.uptimePeriod)

/-- The readings alone decide whether the row is right. -/
def Ordered (readings : List Int) : Prop :=
  NoneBefore start readings → (∃ now ∈ readings, start < now) →
    start ∉ readings ∧ ∃ latest, readings.getLast? = some latest ∧ IsGreatest {now | now ∈ readings} latest

private theorem noneBefore_append (readings : List Int) (now : Int) :
    NoneBefore start (readings ++ [now]) ↔ NoneBefore start readings ∧ start ≤ now := by
  simp [NoneBefore,or_imp,forall_and]

private theorem ordered_append (readings : List Int) (now : Int) :
    Ordered start (readings ++ [now]) ↔ (NoneBefore start readings →
      now = start ∧ (∀ other ∈ readings, other = start) ∨
      start < now ∧ (∀ other ∈ readings, start < other ∧ other ≤ now) ∨ now < start) := by
  unfold Ordered
  rw [noneBefore_append,and_imp]
  apply forall_congr'
  intro none_before
  rcases lt_trichotomy now start with before | rfl | after
  · simp [before,before.not_ge]
  · constructor
    · intro ordered
      refine Or.inl ⟨rfl,fun other member => ?_⟩
      by_contra differs
      have later : now < other := lt_of_le_of_ne (none_before other member) (Ne.symm differs)
      exact (ordered le_rfl ⟨other,by simp [member],later⟩).1 (by simp)
    · rintro (⟨_,same⟩ | ⟨later,_⟩ | before) _ ⟨other,member,after⟩
      · rcases List.mem_append.mp member with old | new
        · exact absurd (same other old) after.ne'
        · exact absurd (List.mem_singleton.mp new) after.ne'
      · exact absurd later (lt_irrefl now)
      · exact absurd before (lt_irrefl now)
  · constructor
    · intro ordered
      obtain ⟨absent,latest,last,greatest⟩ := ordered after.le ⟨now,by simp,after⟩
      obtain rfl : now = latest := by simpa using last
      refine Or.inr (Or.inl ⟨after,fun other member => ⟨?_,greatest.2 (by simp [member])⟩⟩)
      have apart : start ≠ other := by
        rintro rfl
        exact absent (by simp [member])
      exact lt_of_le_of_ne (none_before other member) apart
    · rintro (⟨same,_⟩ | ⟨_,all⟩ | before) _ _
      · exact absurd same after.ne'
      · refine ⟨?_,now,by simp,by simp,fun other member => ?_⟩
        · intro member
          rcases List.mem_append.mp member with old | new
          · exact lt_irrefl start (all start old).1
          · exact after.ne (List.mem_singleton.mp new)
        · rcases List.mem_append.mp member with old | new
          · exact (all other old).2
          · exact (List.mem_singleton.mp new).le
      · exact absurd before after.asymm

theorem Kept.extends_iff {s : State} (kept : Kept start id s) : Extends start id s ↔ Ordered start s.executed := by
  unfold Extends Ordered
  apply forall₂_congr
  intro none_before some_later
  cases kept with
  | off _ _ executed =>
    obtain ⟨now,member,_⟩ := some_later
    rw [executed] at member
    cases member
  | row _ _ row held written =>
    have period := written none_before
    unfold Written at period
    rw [held,Option.map_some]
    split at period
    next lost =>
      refine iff_of_false ?_ (fun ordered => ordered.1 lost)
      rintro ⟨latest,_,same⟩
      rw [Option.some.inj same] at period
      cases period
    next absent =>
      rw [period]
      constructor
      · rintro ⟨latest,greatest,same⟩
        exact ⟨absent,latest,(Range.bounds.inj (Option.some.inj same)).2,greatest⟩
      · rintro ⟨_,latest,last,greatest⟩
        exact ⟨latest,greatest,by rw [last]⟩

private theorem written_extend (readings : List Int) (old next : Range Int) (now : Int)
    (written : Written start readings old)
    (extended : extend old now = some next) : Written start (readings ++ [now]) next := by
  unfold Written at written ⊢
  by_cases lost : start ∈ readings
  · rw [if_pos lost] at written
    rw [if_pos (List.mem_append_left _ lost)]
    obtain rfl := Option.some.inj ((extend_none old now written).symm.trans extended)
    rfl
  · rw [if_neg lost] at written
    subst written
    rcases (extend_some _ start now rfl next).mp extended with ⟨later,rfl⟩ | ⟨rfl,rfl⟩
    · rw [if_neg (by simp [lost,later.ne]),List.getLast?_concat]
    · rw [if_pos (by simp)]
      rfl

theorem Kept.update {s : State} (kept : Kept start id s) (named : ¬ s.serviceName.isNone = true) (now : Int) :
    Kept start id (s.update now) := by
  cases kept with
  | off serviceName _ _ => exact absurd (by simp [serviceName]) named
  | row lastInsertedId updates row held written =>
    refine .row lastInsertedId (fun update member => ?_) row held written
    rcases List.mem_append.mp member with old | new
    · exact updates update old
    · rw [List.mem_singleton.mp new]
      exact lastInsertedId

theorem kept_step (s : State) (event : Event) (t : State) (kept : Kept start id s) (taken : step s event = some t) :
    Kept start id t := by
  cases event with
  | updateUptimeStatistic now =>
    simp only [step] at taken
    split at taken
    next =>
      obtain rfl := Option.some.inj taken
      exact kept
    next given =>
      obtain rfl := Option.some.inj taken
      exact kept.update start id (fun missing => given (by simp [missing])) now
  | onModuleDestroy now =>
    simp only [step] at taken
    split at taken
    next =>
      obtain rfl := Option.some.inj taken
      exact kept
    next named =>
      obtain rfl := Option.some.inj taken
      exact kept.update start id named now
  | executed i =>
    simp only [step] at taken
    split at taken
    next now target found =>
      obtain ⟨table,wrote,rfl⟩ := Option.map_eq_some_iff.mp taken
      cases kept with
      | off _ updates _ =>
        rw [updates] at found
        cases found
      | row lastInsertedId updates row held written =>
        obtain rfl : target = some id := updates _ (List.mem_of_getElem? found)
        simp only [setUptimePeriod,held] at wrote
        obtain ⟨period,extended,rfl⟩ := Option.map_eq_some_iff.mp wrote
        refine .row lastInsertedId (fun update member => updates update (List.mem_of_mem_eraseIdx member))
          { row with uptimePeriod := period } (get_set_self _ _ _) (fun none_before => ?_)
        exact written_extend start _ _ _ _ (written ((noneBefore_append start _ _).mp none_before).1) extended
    next => cases taken
  | failed i =>
    obtain ⟨_,moved⟩ := Option.ite_none_right_eq_some.mp taken
    obtain rfl := Option.some.inj moved
    cases kept with
    | off serviceName updates executed => exact .off serviceName (by simp [updates]) executed
    | row lastInsertedId updates row held written =>
      exact .row lastInsertedId (fun update member => updates update (List.mem_of_mem_eraseIdx member)) row held written

private theorem step_executed (s : State) (event : Event) (t : State) (taken : step s event = some t) :
    t.executed = s.executed ∧ (∀ i, event ≠ .executed i) ∨
      ∃ i update, event = .executed i ∧ s.updates[i]? = some update ∧ t.executed = s.executed ++ [update.1] := by
  cases event with
  | executed i =>
    simp only [step] at taken
    split at taken
    next now target found =>
      obtain ⟨table,_,rfl⟩ := Option.map_eq_some_iff.mp taken
      exact Or.inr ⟨i,_,rfl,found,rfl⟩
    next => cases taken
  | updateUptimeStatistic | onModuleDestroy =>
    refine Or.inl ⟨?_,fun i same => by cases same⟩
    simp only [step] at taken
    split at taken
    next =>
      obtain rfl := Option.some.inj taken
      rfl
    next =>
      obtain rfl := Option.some.inj taken
      rfl
  | failed i =>
    obtain ⟨_,moved⟩ := Option.ite_none_right_eq_some.mp taken
    obtain rfl := Option.some.inj moved
    exact Or.inl ⟨rfl,fun i same => by cases same⟩

private theorem extends_step (s : State) (event : Event) (t : State) (kept : Kept start id s)
    (extends_before : Extends start id s)
    (taken : step s event = some t) : InOrder start s event ↔ Extends start id t := by
  rw [(kept_step start id s event t kept taken).extends_iff]
  rw [kept.extends_iff] at extends_before
  rcases step_executed s event t taken with ⟨same,other⟩ | ⟨i,update,rfl,found,appended⟩
  · rw [same]
    refine iff_of_true ?_ extends_before
    cases event with
    | executed i => exact absurd rfl (other i)
    | _ => trivial
  · rw [appended,ordered_append]
    simp only [InOrder,found,Option.some.injEq,forall_eq']

end Row

theorem uptime_extends_iff (serviceName : Option String) (table : List (Nat × ApiStatistic)) (id : Nat) (start : Int)
    (events : List Event) :
    Always step (Extends start id) (onModuleInit serviceName table id start) events ↔
      Meets step (InOrder start) (onModuleInit serviceName table id start) events := by
  have nothing : (onModuleInit serviceName table id start).executed = [] := by
    unfold onModuleInit
    split <;> rfl
  apply always_iff_meets (Kept start id) (Extends start id) (InOrder start) (kept_step start id) (extends_step start id)
  · unfold onModuleInit
    split
    next => exact .off rfl rfl rfl
    next name _ =>
      exact .row rfl (by simp) ⟨name,.bounds (some start) none⟩ (get_set_self _ _ _) (fun _ => by simp [Written])
  · intro _ later
    rw [nothing] at later
    obtain ⟨_,member,_⟩ := later
    cases member

def overtaken : List Event :=
  [.updateUptimeStatistic 5,.updateUptimeStatistic 10,.executed 1,.executed 0]

/-- The statement of the earlier reading is executed last, and the period shrinks. -/
theorem overtaken_shrinks : ¬ ∀ (serviceName : Option String) (table : List (Nat × ApiStatistic)) (id : Nat)
    (start : Int)
    (events : List Event), Always step (Extends start id) (onModuleInit serviceName table id start) events := by
  intro always
  have extended := (((((always (some "api") [] 0 0 overtaken).2 _ rfl).2 _ rfl).2 _ rfl).2 _ rfl).head
  obtain ⟨latest,greatest,period⟩ := extended (by decide) (by decide)
  obtain rfl : 5 = latest := Option.some.inj (Range.bounds.inj (Option.some.inj period)).2
  exact absurd (greatest.2 (show (10 : Int) ∈ _ from by decide)) (by decide)

end BoarPack.ApiStatistics
