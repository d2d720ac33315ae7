import BoarPack.ProviderMonitoring.Service
import BoarPack.Library.Transition
import Mathlib.Data.List.Nodup

/-! The checks and the table of problematic periods. The interval does not wait for a check, so
any number of them may be under way; each reads the open periods, decides, and saves. -/
namespace BoarPack.ProviderMonitoring
open Containers Transition

/-- Where a call of `checkProviderActivity` awaits. -/
inductive Stage
  | fetching
  | quotes (providers : List TProvider)
  | selecting (providers : List TProvider) (latestQuotesByProviders : LatestQuotes)
  | deciding (providers : List TProvider) (latestQuotesByProviders : LatestQuotes) (openPeriods : OpenPeriods)
  | saving (openPeriods : OpenPeriods) (problematicPeriods : List Partial)
  | done

structure State where
  table : Table
  checks : List Stage

/-- A check starts, or what the `i`-th check awaits is there: the providers, the latest quotes, the
answer of the database, the answer in the process with the clock read, the end of the upsert. -/
inductive Event
  | tick
  | fetched (i : Nat) (providers : List TProvider)
  | quoted (i : Nat) (latestQuotesByProviders : LatestQuotes)
  | selected (i : Nat)
  | decided (i : Nat) (now : Int) (clock : String → Int)
  | saved (i : Nat)
  | failed (i : Nat)

namespace State

def move (s : State) (i : Nat) (stage : Stage) : State := { s with checks := s.checks.set i stage }

end State

def step (s : State) : Event → Option State
  | .tick => some { s with checks := s.checks ++ [.fetching] }
  | .fetched i providers =>
    match s.checks[i]? with
    | some .fetching =>
      let providers := withThreshold providers
      some (s.move i (if providers = [] then .done else .quotes providers))
    | _ => none
  | .quoted i latestQuotesByProviders =>
    match s.checks[i]? with
    | some (.quotes providers) => some (s.move i (.selecting providers latestQuotesByProviders))
    | _ => none
  | .selected i =>
    match s.checks[i]? with
    | some (.selecting providers latestQuotesByProviders) =>
      let openPeriods := getOpenProblematicPeriods s.table (providers.map TProvider.id)
      some (s.move i (.deciding providers latestQuotesByProviders openPeriods))
    | _ => none
  | .decided i now clock =>
    match s.checks[i]? with
    | some (.deciding providers latestQuotesByProviders openPeriods) =>
      let rows := problematicPeriods providers latestQuotesByProviders openPeriods now clock
      some (s.move i (if rows = [] then .done else .saving openPeriods rows))
    | _ => none
  | .saved i =>
    match s.checks[i]? with
    | some (.saving _ rows) => (upsert s.table rows).map (fun table => { s with table := table }.move i .done)
    | _ => none
  | .failed i => if i < s.checks.length then some (s.move i .done) else none

/-- The moments of a period, its bounds included. -/
def Period.Holds (period : Period) (time : Int) : Prop := period.lower ≤ time ∧ ∀ upper ∈ period.upper, time ≤ upper

def Period.Apart (left right : Period) : Prop := ∀ time, ¬ (left.Holds time ∧ right.Holds time)

def Table.of (table : Table) (providerId : String) : List ProvidersProblematicPeriod :=
  table.rows.filter (fun row => row.providerId = providerId)

def isOpen (row : ProvidersProblematicPeriod) : Bool := row.period.upper.isNone

/-- At most one period of a provider is open, and no two of them overlap. -/
def WellKept (table : Table) : Prop :=
  ∀ providerId, (table.of providerId).countP isOpen ≤ 1 ∧
    (table.of providerId).Pairwise (fun left right => left.period.Apart right.period)

/-- The open period that a check would find now. -/
def openPeriod (table : Table) (providerId : String) : Option ProvidersProblematicPeriod :=
  get (getOpenProblematicPeriods table [providerId]) providerId

/-- What the check read of the provider is still so, and a new period begins after the others ended. -/
def UpToDate (table : Table) (openPeriods : OpenPeriods) (row : Partial) : Prop :=
  openPeriod table row.providerId = get openPeriods row.providerId ∧
  (row.id = none → ∀ old ∈ table.of row.providerId, ∀ upper ∈ old.period.upper, upper < row.period.lower)

instance (table : Table) (openPeriods : OpenPeriods) (row : Partial) : Decidable (UpToDate table openPeriods row) :=
  inferInstanceAs (Decidable (_ ∧ (_ → ∀ old ∈ table.of row.providerId, ∀ upper ∈ old.period.upper, _)))

def Stage.toSave : Stage → Option (OpenPeriods × List Partial)
  | .saving openPeriods rows => some (openPeriods,rows)
  | _ => none

/-- A check saves each provider once, and what is up to date. -/
def NotOvertaken (s : State) : Event → Prop
  | .saved i => ∀ saving ∈ (s.checks[i]?).bind Stage.toSave,
      (saving.2.map Partial.providerId).Nodup ∧ ∀ row ∈ saving.2, UpToDate s.table saving.1 row
  | _ => True

instance (s : State) (event : Event) : Decidable (NotOvertaken s event) := by
  cases event <;> dsimp only [NotOvertaken] <;> infer_instance

private theorem openPeriod_eq (table : Table) (providerId : String) :
    openPeriod table providerId = ((table.of providerId).filter isOpen).getLast? := by
  have same : ∀ row : ProvidersProblematicPeriod,
      (decide (row.providerId = providerId) && (decide (row.providerId ∈ [providerId]) && row.period.upper.isNone)) =
        (isOpen row && decide (row.providerId = providerId)) := by
    intro row
    by_cases here : row.providerId = providerId <;> simp [here,isOpen]
  unfold openPeriod getOpenProblematicPeriods Table.of
  rw [get_keyed,List.filter_filter,List.filter_filter]
  simp only [same,Option.map_id_fun,id_eq]

private theorem openPeriod_some (table : Table) (providerId : String) (row : ProvidersProblematicPeriod)
    (found : openPeriod table providerId = some row) : row ∈ table.of providerId ∧ isOpen row = true := by
  rw [openPeriod_eq] at found
  exact List.mem_filter.mp (List.mem_of_getLast? found)

private theorem openPeriod_none (table : Table) (providerId : String) (nothing : openPeriod table providerId = none) :
    ∀ row ∈ table.of providerId, isOpen row = false := by
  rw [openPeriod_eq,List.getLast?_eq_none_iff] at nothing
  intro row member
  simpa using List.filter_eq_nil_iff.mp nothing row member

private theorem mem_of (table : Table) (providerId : String) (row : ProvidersProblematicPeriod) :
    row ∈ table.of providerId ↔ row ∈ table.rows ∧ row.providerId = providerId := by
  simp [Table.of]

/-- What a check decided about a provider, from what it had read. -/
structure Decided (openPeriods : OpenPeriods) (row : Partial) : Prop where
  opens : row.id = none → get openPeriods row.providerId = none ∧ row.period.upper = none
  closes : ∀ id, row.id = some id → ∃ old, get openPeriods row.providerId = some old ∧ old.id = id ∧
    row.period.lower = old.period.lower ∧ row.period.upper.isSome

private theorem problematicPeriods_decided (providers : List TProvider) (latestQuotesByProviders : LatestQuotes)
    (openPeriods : OpenPeriods) (now : Int) (clock : String → Int) :
    ∀ row ∈ problematicPeriods providers latestQuotesByProviders openPeriods now clock, Decided openPeriods row := by
  intro row member
  obtain ⟨provider,_,decided⟩ := List.mem_filterMap.mp member
  simp only [problematicPeriod] at decided
  split at decided
  next _ absent =>
    obtain rfl := Option.some.inj decided
    exact ⟨fun _ => ⟨absent,rfl⟩,fun id held => by cases held⟩
  next old _ found =>
    obtain rfl := Option.some.inj decided
    exact {
      opens := by
        intro opening
        cases opening
      closes := fun id held => ⟨old,found,Option.some.inj held,rfl,rfl⟩ }
  next => cases decided

structure Sound (table : Table) : Prop where
  own : (table.rows.map ProvidersProblematicPeriod.id).Nodup
  fresh : ∀ row ∈ table.rows, row.id < table.nextId
  kept : WellKept table

private theorem put_opening (table : Table) (row : Partial) (opening : row.id = none) :
    put table row = ⟨table.rows ++ [⟨table.nextId,row.providerId,row.period⟩],table.nextId + 1⟩ := by
  unfold put
  rw [opening]

private theorem put_closing (table : Table) (row : Partial) (old : ProvidersProblematicPeriod)
    (closing : row.id = some old.id)
    (held : old ∈ table.rows) : put table row = { table with rows := table.rows.map (replaced row old.id) } := by
  have found : table.rows.any (fun other => other.id = old.id) = true := List.any_eq_true.mpr ⟨old,held,by simp⟩
  unfold put
  simp only [closing,found,if_true]

@[simp] theorem replaced_id (row : Partial) (id : Nat) (old : ProvidersProblematicPeriod) :
    (replaced row id old).id = old.id := by
  unfold replaced
  split
  next same => exact same.symm
  next => rfl

private theorem replaced_eq {table : Table} (sound : Sound table) (row : Partial)
    (old other : ProvidersProblematicPeriod) (held : old ∈ table.rows) (also : other ∈ table.rows) :
    replaced row old.id other = if other = old then ⟨old.id,row.providerId,row.period⟩ else other := by
  unfold replaced
  by_cases same : other.id = old.id
  · rw [if_pos same,if_pos (List.inj_on_of_nodup_map sound.own also held same)]
  · rw [if_neg same,if_neg (fun equal => same (congrArg _ equal))]

private theorem of_put_opening (table : Table) (row : Partial) (opening : row.id = none) (providerId : String) :
    (put table row).of providerId =
      table.of providerId ++ (if row.providerId =
        providerId then [⟨table.nextId,row.providerId,row.period⟩] else []) := by
  rw [put_opening table row opening]
  unfold Table.of
  rw [List.filter_append,List.filter_singleton,Bool.cond_decide]

private theorem of_put_closing {table : Table} (sound : Sound table) (row : Partial) (old : ProvidersProblematicPeriod)
    (closing : row.id = some old.id) (held : old ∈ table.of row.providerId) (providerId : String) :
    (put table row).of providerId = (table.of providerId).map (replaced row old.id) := by
  obtain ⟨listed,provider⟩ := (mem_of table row.providerId old).mp held
  rw [put_closing table row old closing listed]
  unfold Table.of
  rw [List.filter_map]
  congr 1
  apply List.filter_congr
  intro other also
  simp only [Function.comp_apply]
  rw [replaced_eq sound row old other listed also]
  split
  next same => rw [same,provider]
  next => rfl

private theorem put_of_other {table : Table} (sound : Sound table) (openPeriods : OpenPeriods) (row : Partial)
    (decided : Decided openPeriods row) (current : UpToDate table openPeriods row) (providerId : String)
    (other : providerId ≠ row.providerId) : (put table row).of providerId = table.of providerId := by
  cases named : row.id with
  | none =>
    rw [of_put_opening table row named,if_neg (Ne.symm other),List.append_nil]
  | some id =>
    obtain ⟨old,found,rfl,_⟩ := decided.closes id named
    have held := (openPeriod_some table row.providerId old (current.1.trans found)).1
    rw [of_put_closing sound row old named held,← List.map_id (table.of providerId)]
    rw [List.map_map]
    apply List.map_congr_left
    intro kept member
    obtain ⟨listed,provider⟩ := (mem_of table providerId kept).mp member
    have apart : kept ≠ old := by
      rintro rfl
      exact other (provider.symm.trans ((mem_of table row.providerId kept).mp held).2)
    simp only [Function.comp_apply,id_eq]
    rw [replaced_eq sound row old kept ((mem_of table _ old).mp held).1 listed,if_neg apart]

/-- A period that begins after all others have ended. -/
theorem opened_kept (rows : List ProvidersProblematicPeriod) (row : ProvidersProblematicPeriod)
    (ended : ∀ old ∈ rows, isOpen old = false)
    (before : ∀ old ∈ rows, ∀ upper ∈ old.period.upper, upper < row.period.lower)
    (apart : rows.Pairwise (fun left right => left.period.Apart right.period)) :
    (rows ++ [row]).countP isOpen ≤ 1 ∧
      (rows ++ [row]).Pairwise (fun left right => left.period.Apart right.period) := by
  constructor
  · have none_open : rows.countP isOpen = 0 := List.countP_eq_zero.mpr (fun old member => by simp [ended old member])
    rw [List.countP_append,none_open,List.countP_singleton]
    split <;> omega
  · refine List.pairwise_append.mpr ⟨apart,List.pairwise_singleton _ _,fun old member new last time both => ?_⟩
    obtain rfl := List.mem_singleton.mp last
    cases bound : old.period.upper with
    | none =>
      have closed := ended old member
      rw [isOpen,bound] at closed
      cases closed
    | some upper =>
      have earlier := before old member upper bound
      have at_most := both.1.2 upper bound
      have at_least := both.2.1
      omega

/-- Periods that only lose moments stay apart, and none of them opens. -/
theorem shrunk_kept (rows : List ProvidersProblematicPeriod)
    (f : ProvidersProblematicPeriod → ProvidersProblematicPeriod)
    (shrinks : ∀ row ∈ rows, ∀ time, (f row).period.Holds time → row.period.Holds time)
    (closes : ∀ row ∈ rows, isOpen (f row) = true → isOpen row = true)
    (kept : rows.countP isOpen ≤ 1 ∧ rows.Pairwise (fun left right => left.period.Apart right.period)) :
    (rows.map f).countP isOpen ≤ 1 ∧
      (rows.map f).Pairwise (fun left right => left.period.Apart right.period) := by
  constructor
  · rw [List.countP_map]
    exact (List.countP_mono_left (fun row member opened => closes row member opened)).trans kept.1
  · rw [List.pairwise_map]
    refine kept.2.imp_of_mem (fun {left right} at_left at_right apart time both => ?_)
    exact apart time ⟨shrinks left at_left time both.1,shrinks right at_right time both.2⟩

private theorem put_opening_sound {table : Table} (sound : Sound table) (openPeriods : OpenPeriods) (row : Partial)
    (decided : Decided openPeriods row) (current : UpToDate table openPeriods row) (named : row.id = none) :
    Sound (put table row) := by
  obtain ⟨absent,_⟩ := decided.opens named
  have ended := openPeriod_none table row.providerId (current.1.trans absent)
  have opened := opened_kept (table.of row.providerId) ⟨table.nextId,row.providerId,row.period⟩ ended (current.2 named)
    (sound.kept row.providerId).2
  refine ⟨?_,?_,fun providerId => ?_⟩
  · rw [put_opening table row named,List.map_append]
    refine List.nodup_append.mpr ⟨sound.own,by simp,fun old member new last same => ?_⟩
    obtain ⟨held,inside,rfl⟩ := List.mem_map.mp member
    have below := sound.fresh held inside
    simp only [List.map_cons,List.map_nil,List.mem_singleton] at last
    omega
  · rw [put_opening table row named]
    intro held member
    rcases List.mem_append.mp member with old | new
    · exact Nat.lt_succ_of_lt (sound.fresh held old)
    · obtain rfl := List.mem_singleton.mp new
      exact Nat.lt_succ_self _
  · rw [of_put_opening table row named]
    by_cases here : row.providerId = providerId
    · subst here
      rw [if_pos rfl]
      exact opened
    · rw [if_neg here,List.append_nil]
      exact sound.kept providerId

private theorem put_closing_sound {table : Table} (sound : Sound table) (openPeriods : OpenPeriods) (row : Partial)
    (decided : Decided openPeriods row) (current : UpToDate table openPeriods row) (id : Nat)
    (named : row.id = some id) :
    Sound (put table row) := by
  obtain ⟨old,found,rfl,lower,upper⟩ := decided.closes id named
  obtain ⟨held,opened⟩ := openPeriod_some table row.providerId old (current.1.trans found)
  have listed := ((mem_of table row.providerId old).mp held).1
  refine ⟨?_,?_,fun providerId => ?_⟩
  · rw [put_closing table row old named listed,List.map_map]
    have same : ProvidersProblematicPeriod.id ∘ replaced row old.id = ProvidersProblematicPeriod.id :=
      funext (fun other => replaced_id row old.id other)
    rw [same]
    exact sound.own
  · rw [put_closing table row old named listed]
    intro held member
    obtain ⟨other,inside,rfl⟩ := List.mem_map.mp member
    rw [replaced_id]
    exact sound.fresh other inside
  · rw [of_put_closing sound row old named held]
    apply shrunk_kept _ _ _ _ (sound.kept providerId)
    · intro other member time holds
      rw [replaced_eq sound row old other listed ((mem_of table providerId other).mp member).1] at holds
      split at holds
      next same =>
        -- the period that was read had no end, so every later moment was in it
        subst same
        refine ⟨lower ▸ holds.1,fun bound at_bound => ?_⟩
        rw [isOpen,Option.mem_def.mp at_bound] at opened
        cases opened
      next => exact holds
    · intro other member opens
      rw [replaced_eq sound row old other listed ((mem_of table providerId other).mp member).1] at opens
      split at opens
      next same =>
        rw [isOpen,Option.isNone_iff_eq_none] at opens
        rw [opens] at upper
        cases upper
      next => exact opens

private theorem put_sound {table : Table} (sound : Sound table) (openPeriods : OpenPeriods) (row : Partial)
    (decided : Decided openPeriods row) (current : UpToDate table openPeriods row) : Sound (put table row) := by
  cases named : row.id with
  | none => exact put_opening_sound sound openPeriods row decided current named
  | some id => exact put_closing_sound sound openPeriods row decided current id named

private theorem upToDate_congr (left right : Table) (openPeriods : OpenPeriods) (row : Partial)
    (same : left.of row.providerId = right.of row.providerId) :
    UpToDate left openPeriods row ↔ UpToDate right openPeriods row := by
  unfold UpToDate
  rw [openPeriod_eq,openPeriod_eq,same]

private theorem puts_sound (rows : List Partial) (table : Table) (sound : Sound table) (openPeriods : OpenPeriods)
    (decided : ∀ row ∈ rows, Decided openPeriods row) (own : (rows.map Partial.providerId).Nodup)
    (current : ∀ row ∈ rows, UpToDate table openPeriods row) : Sound (rows.foldl put table) := by
  induction rows generalizing table with
  | nil => exact sound
  | cons row rest ih =>
    -- a row changes the periods of its own provider only, and no other row is of that provider
    obtain ⟨other,own⟩ := List.nodup_cons.mp own
    have here := decided row List.mem_cons_self
    have now := current row List.mem_cons_self
    apply ih (put table row) (put_sound sound openPeriods row here now)
    · exact fun later member => decided later (List.mem_cons_of_mem _ member)
    · exact own
    · intro later member
      have apart : later.providerId ≠ row.providerId := by
        intro same
        exact other (same ▸ List.mem_map_of_mem member)
      rw [upToDate_congr _ _ openPeriods later (put_of_other sound openPeriods row here now later.providerId apart)]
      exact current later (List.mem_cons_of_mem _ member)

structure Inv (s : State) : Prop where
  sound : Sound s.table
  saving : ∀ openPeriods rows, Stage.saving openPeriods rows ∈ s.checks → ∀ row ∈ rows, Decided openPeriods row

theorem Inv.move {s : State} (inv : Inv s) (i : Nat) (stage : Stage)
    (decided : ∀ openPeriods rows, stage = .saving openPeriods rows → ∀ row ∈ rows, Decided openPeriods row) :
    Inv (s.move i stage) where
  sound := inv.sound
  saving openPeriods rows member := by
    rcases List.mem_or_eq_of_mem_set member with old | new
    · exact inv.saving openPeriods rows old
    · exact decided openPeriods rows new.symm

theorem inv_step (s : State) (event : Event) (t : State) (inv : Inv s) (cond : NotOvertaken s event)
    (taken : step s event = some t) : Inv t := by
  cases event with
  | tick =>
    obtain rfl := Option.some.inj taken
    refine ⟨inv.sound,fun openPeriods rows member => ?_⟩
    rcases List.mem_append.mp member with old | new
    · exact inv.saving openPeriods rows old
    · cases List.mem_singleton.mp new
  | fetched i providers =>
    simp only [step] at taken
    split at taken
    next found =>
      obtain rfl := Option.some.inj taken
      apply inv.move
      intro openPeriods rows same
      split at same <;> cases same
    next => cases taken
  | quoted i latestQuotesByProviders =>
    simp only [step] at taken
    split at taken
    next providers found =>
      obtain rfl := Option.some.inj taken
      exact inv.move i _ (fun openPeriods rows same => by cases same)
    next => cases taken
  | selected i =>
    simp only [step] at taken
    split at taken
    next providers latestQuotesByProviders found =>
      obtain rfl := Option.some.inj taken
      exact inv.move i _ (fun openPeriods rows same => by cases same)
    next => cases taken
  | decided i now clock =>
    simp only [step] at taken
    split at taken
    next providers latestQuotesByProviders openPeriods found =>
      obtain rfl := Option.some.inj taken
      apply inv.move
      intro read rows same
      split at same
      next => cases same
      next =>
        cases same
        exact problematicPeriods_decided providers latestQuotesByProviders openPeriods now clock
    next => cases taken
  | saved i =>
    simp only [step] at taken
    split at taken
    next openPeriods rows found =>
      obtain ⟨table,saves,rfl⟩ := Option.map_eq_some_iff.mp taken
      unfold upsert at saves
      split at saves
      next =>
        obtain rfl := Option.some.inj saves
        have decided := inv.saving openPeriods rows (List.mem_of_getElem? found)
        obtain ⟨own,current⟩ := cond (openPeriods,rows) (by simp [found,Stage.toSave])
        have sound := puts_sound rows s.table inv.sound openPeriods decided own current
        have kept : Inv { s with table := rows.foldl put s.table } := ⟨sound,inv.saving⟩
        exact kept.move i .done (fun read later same => by cases same)
      next => cases saves
    next => cases taken
  | failed i =>
    simp only [step,Option.ite_none_right_eq_some] at taken
    obtain ⟨_,taken⟩ := taken
    obtain rfl := Option.some.inj taken
    exact inv.move i .done (fun openPeriods rows same => by cases same)

/-- In every run of checks of which none is overtaken, each provider has at most one open period, and its
periods do not overlap. -/
theorem periods_well_kept (table : Table) (sound : Sound table) (events : List Event)
    (in_time : Meets step NotOvertaken ⟨table,[]⟩ events) :
    Always step (fun s => WellKept s.table) ⟨table,[]⟩ events := by
  have start : Inv ⟨table,[]⟩ := ⟨sound,fun openPeriods rows member => by cases member⟩
  have always := always_of_meets Inv NotOvertaken inv_step ⟨table,[]⟩ events start in_time
  exact always.imp (fun s inv => inv.sound.kept)

private theorem empty_sound : Sound ⟨[],0⟩ where
  own := by simp
  fresh := by simp
  kept providerId := by simp [Table.of]

def staleProvider : TProvider := ⟨"p","StaleProvider",some 30⟩

def checkUntilSelected (i : Nat) (date : Option Int) : List Event :=
  [.fetched i [staleProvider],.quoted i (fun _ => date),.selected i]

def oneAfterTheOther : List Event :=
  [.tick] ++ checkUntilSelected 0 none ++ [.decided 0 1000 (fun _ => 1000),.saved 0,.tick] ++
    checkUntilSelected 1 (some 10500) ++ [.decided 1 11000 (fun _ => 11000),.saved 1]

theorem opened_and_closed : (run step ⟨⟨[],0⟩,[]⟩ oneAfterTheOther).isSome ∧
    Always step (fun s => WellKept s.table) ⟨⟨[],0⟩,[]⟩ oneAfterTheOther :=
  ⟨by decide +kernel,periods_well_kept ⟨[],0⟩ empty_sound oneAfterTheOther (by decide +kernel)⟩

/-- Two checks that overlap both find no open period, and both open one. -/
theorem opened_twice : ∃ s, run step ⟨⟨[],0⟩,[]⟩
      ([.tick,.tick] ++ checkUntilSelected 0 none ++ checkUntilSelected 1 none ++
        [.decided 0 1000 (fun _ => 1000),.decided 1 1001 (fun _ => 1001),.saved 0,.saved 1]) = some s ∧
    ¬ WellKept s.table := by
  refine ⟨_,rfl,fun kept => ?_⟩
  have once := (kept "p").1
  revert once
  decide

end BoarPack.ProviderMonitoring
