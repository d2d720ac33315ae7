import BoarPack.Library.Outbox

/-! A table of dated rows that loses its old rows now and then, beside all that was ever stored in it. Nothing
here names a particular system. -/
namespace Retention
open Transition Outbox

variable {R : Type}

/-- What is left of the rows that were stored where none was deleted that is dated after `cutoff`. -/
structure Covers (date : R → Int) (cutoff : Int) (stored table : List R) : Prop where
  kept : table.Sublist stored
  recent : table.filter (fun row => cutoff < date row) = stored.filter (fun row => cutoff < date row)

section Covers

variable {date : R → Int} {cutoff : Int} {stored table : List R}

theorem covers_all : Covers date cutoff stored stored := ⟨List.Sublist.refl stored,rfl⟩

theorem Covers.append (covers : Covers date cutoff stored table) (rows : List R) :
    Covers date cutoff (stored ++ rows) (table ++ rows) :=
  ⟨covers.kept.append (List.Sublist.refl rows),by rw [List.filter_append,List.filter_append,covers.recent]⟩

/-- Whoever asks for rows that are recent enough finds them all. -/
theorem Covers.filter (covers : Covers date cutoff stored table) (asked : R → Bool)
    (recent : ∀ row, asked row → cutoff < date row) :
    table.filter asked = stored.filter asked := by
  have both (rows : List R) : rows.filter asked = (rows.filter (fun row => cutoff < date row)).filter asked := by
    rw [List.filter_filter]
    apply List.filter_congr
    intro row _
    cases wanted : asked row with
    | false => rfl
    | true => simp [recent row wanted]
  rw [both table,covers.recent,← both stored]

theorem Covers.later (covers : Covers date cutoff stored table) {later : Int} (ordered : cutoff ≤ later) :
    Covers date later stored table :=
  ⟨covers.kept,covers.filter (fun row => later < date row) (fun _ after =>
    Int.lt_of_le_of_lt ordered (of_decide_eq_true after))⟩

theorem Covers.delete (covers : Covers date cutoff stored table) {deleted : Int} (ordered : deleted ≤ cutoff) :
    Covers date cutoff stored (table.filter (fun row => ¬ date row ≤ deleted)) := by
  refine ⟨List.filter_sublist.trans covers.kept,?_⟩
  rw [List.filter_filter,← covers.recent]
  apply List.filter_congr
  intro row _
  by_cases after : cutoff < date row
  · have young : ¬ date row ≤ deleted := Int.not_le.mpr (Int.lt_of_le_of_lt ordered after)
    simp [after,young]
  · simp [after]

theorem Covers.restrict (covers : Covers date cutoff stored table) (asked : R → Bool) :
    Covers date cutoff (stored.filter asked) (table.filter asked) := by
  refine ⟨covers.kept.filter asked,?_⟩
  rw [List.filter_comm,covers.recent,List.filter_comm]

theorem Covers.dates_subset (covers : Covers date cutoff stored table) {time : Int} (member : time ∈ table.map date) :
    time ∈ stored.map date :=
  (covers.kept.map date).subset member

theorem Covers.latest (covers : Covers date cutoff stored table) {time : Int}
    (last : (stored.map date).max? = some time) (recent : cutoff < time) : (table.map date).max? = some time := by
  obtain ⟨member,newest⟩ := List.max?_eq_some_iff.mp last
  obtain ⟨row,inside,rfl⟩ := List.mem_map.mp member
  have found : row ∈ table.filter (fun row => cutoff < date row) := by
    rw [covers.recent]
    exact List.mem_filter.mpr ⟨inside,decide_eq_true recent⟩
  have held := List.mem_map_of_mem (f := date) (List.mem_filter.mp found).1
  exact List.max?_eq_some_iff.mpr ⟨held,fun other also_held => newest other (covers.dates_subset also_held)⟩

theorem Covers.latest_le (covers : Covers date cutoff stored table) {time left : Int}
    (last : (stored.map date).max? = some time) (found : (table.map date).max? = some left) : left ≤ time :=
  (List.max?_eq_some_iff.mp last).2 left (covers.dates_subset (List.max?_eq_some_iff.mp found).1)

end Covers

/-- A system that writes rows, the table it writes them to, and the clock. -/
structure State (S R : Type) where
  writer : S
  stored : List R
  table : List R
  now : Int

/-- `date` is when the rows that the act writes are dated, which may be before the act is over. -/
inductive Event (A : Type)
  | acts (a : A) (date : Int)
  | deletes
  | passes (time : Nat)

section Step

variable {S A W : Type} (act : S → A → Option S) (writes : S → A → List W) (dated : Int → W → R) (date : R → Int)
  (cutoff : Int → Int)

def State.write (s : State S R) (t : S) (rows : List R) : State S R :=
  { s with writer := t, stored := s.stored ++ rows, table := s.table ++ rows }

def step (s : State S R) : Event A → Option (State S R)
  | .acts a written =>
    if written ≤ s.now then (act s.writer a).map (fun t => s.write t ((writes s.writer a).map (dated written)))
      else none
  | .deletes => some { s with table := s.table.filter (fun row => ¬ date row ≤ cutoff s.now) }
  | .passes time => some { s with now := s.now + time }

/-- What the acts of a run do is what `does` says of them. -/
def doing {M : Type} [Zero M] (does : S → A → M) (s : State S R) : Event A → M
  | .acts a _ => does s.writer a
  | .deletes => 0
  | .passes _ => 0

variable {act writes dated date cutoff} {bound : Int → Int}

/-- No deletion before `now` has touched a row that is dated after `bound now`. -/
theorem step_covers (mono : ∀ earlier later : Int, earlier ≤ later → bound earlier ≤ bound later)
    (bounded : ∀ now, cutoff now ≤ bound now) (s t : State S R) (event : Event A)
    (covers : Covers date (bound s.now) s.stored s.table) (taken : step act writes dated date cutoff s event = some t) :
    Covers date (bound t.now) t.stored t.table := by
  cases event with
  | acts a written =>
    simp only [step] at taken
    split at taken
    next =>
      obtain ⟨next,_,rfl⟩ := Option.map_eq_some_iff.mp taken
      exact covers.append _
    next => cases taken
  | deletes =>
    cases taken
    exact covers.delete (bounded s.now)
  | passes time =>
    cases taken
    exact covers.later (mono s.now _ (Int.le_add_of_nonneg_right (Int.natCast_nonneg time)))

/-- The writer holds the rows that were stored, undated. -/
theorem step_stored (undated : R → W) (undo : ∀ written row, undated (dated written row) = row) (held : S → List W)
    (grows : ∀ s a t, act s a = some t → held t = held s ++ writes s a) (s t : State S R) (event : Event A)
    (same : s.stored.map undated = held s.writer) (taken : step act writes dated date cutoff s event = some t) :
    t.stored.map undated = held t.writer := by
  cases event with
  | acts a written =>
    simp only [step] at taken
    split at taken
    next =>
      obtain ⟨next,acted,rfl⟩ := Option.map_eq_some_iff.mp taken
      have own : undated ∘ dated written = id := funext (undo written)
      simp only [State.write]
      rw [List.map_append,List.map_map,own,List.map_id,same,grows s.writer a next acted]
    next => cases taken
  | deletes =>
    cases taken
    exact same
  | passes time =>
    cases taken
    exact same

variable {M : Type} [AddCommMonoid M] {gives loses : S → A → M} {view : S → M → View M}

theorem step_balanced
    (keeps : ∀ s given lost a t, act s a = some t → Balanced lost (view s given) →
      Balanced (lost + loses s a) (view t (given + gives s a)))
    (s t : State S R) (given lost : M) (event : Event A) (balanced : Balanced lost (view s.writer given))
    (taken : step act writes dated date cutoff s event = some t) :
    Balanced (lost + doing loses s event) (view t.writer (given + doing gives s event)) := by
  cases event with
  | acts a written =>
    simp only [step] at taken
    split at taken
    next =>
      obtain ⟨next,acted,rfl⟩ := Option.map_eq_some_iff.mp taken
      exact keeps s.writer given lost a next acted balanced
    next => cases taken
  | deletes =>
    cases taken
    simpa [doing] using balanced
  | passes time =>
    cases taken
    simpa [doing] using balanced

/-- The table has all that is recent of what was stored, and what was given is accounted for with what was stored. -/
structure Accounts (date : R → Int) (bound : Int → Int) (undated : R → W) (held : S → List W) (view : S → M → View M)
    (s : State S R) (given lost : M) : Prop where
  covers : Covers date (bound s.now) s.stored s.table
  stored : s.stored.map undated = held s.writer
  balanced : Balanced lost (view s.writer given)

theorem run_accounts (mono : ∀ earlier later : Int, earlier ≤ later → bound earlier ≤ bound later)
    (bounded : ∀ now, cutoff now ≤ bound now) (undated : R → W)
    (undo : ∀ written row, undated (dated written row) = row) (held : S → List W)
    (grows : ∀ s a t, act s a = some t → held t = held s ++ writes s a)
    (keeps : ∀ s given lost a t, act s a = some t → Balanced lost (view s given) →
      Balanced (lost + loses s a) (view t (given + gives s a)))
    (start : State S R) (begun : Accounts date bound undated held view start 0 0) (events : List (Event A))
    (s : State S R) (given lost : M)
    (ran : run (recorded (step act writes dated date cutoff) (doing (fun s a => (gives s a,loses s a))))
      (start,0) events =
      some (s,given,lost)) :
    Accounts date bound undated held view s given lost := by
  refine run_invariant (fun t => Accounts date bound undated held view t.1 t.2.1 t.2.2) ?_ (start,0) (s,given,lost)
    events begun ran
  rintro before event after accounts taken
  obtain ⟨next,moved,rfl⟩ := Option.map_eq_some_iff.mp taken
  have both : doing (fun s a => (gives s a,loses s a)) before.1 event =
      (doing gives before.1 event,doing loses before.1 event) := by
    cases event <;> rfl
  refine ⟨step_covers mono bounded before.1 next event accounts.covers moved,
    step_stored undated undo held grows before.1 next event accounts.stored moved,?_⟩
  rw [both]
  exact step_balanced keeps before.1 next before.2.1 before.2.2 event accounts.balanced moved

end Step

end Retention
