import BoarPack.Library.Transition
import BoarPack.Tokens.Strategy
import BoarPack.Users.Service

/-! `UsersModule.onModuleInit`: the default admin, which is created where the count of the users is zero. The count
leaves soft-deleted rows out, the unique e-mail does not, and the insert is a step of its own. -/
namespace BoarPack.Users.Seeding
open Transition

def adminEmail : String := "test-admin@test.test"

inductive Boot
  | started
  | seeding
  | finished
  | rejected
  deriving DecidableEq, Repr

/-- `seeded` is history: whether there was no row at all, at each insert of the default admin. -/
structure State where
  table : Table := []
  boots : List Boot := []
  seeded : List Bool := []

/-- `swagger`: the variable is `true`. The ids of new rows are drawn by the database. -/
inductive Event
  | onModuleInit (swagger : Bool)
  | count (boot : Nat)
  | insert (boot : Nat) (id pass : String)
  | create (data : User)
  | rename (id email : String)
  | softDelete (id : String) (now : Nat)
  deriving DecidableEq, Repr

def count (table : Table) : Nat := table.countP (fun user => user.deletedAt.isNone)

def admin (id pass : String) : User := ⟨id,"Admin",adminEmail,.admin,some pass,[],none⟩

def rename (table : Table) (id email : String) : Option Table :=
  match findOne table id with
  | none => none
  | some found =>
    if table.any (fun row => row.id != found.id && row.email == email) then none
    else some (table.map (fun row => if row.id == found.id then { row with email := email } else row))

section

variable (platform : Platform)

def State.insert (s : State) (boot : Nat) (id pass : String) : State :=
  match create platform s.table (admin id pass) with
  | some table => { table := table, boots := s.boots.set boot .finished, seeded := s.seeded ++ [s.table.isEmpty] }
  | none => { s with boots := s.boots.set boot .rejected }

def step (s : State) : Event → Option State
  | .onModuleInit swagger => some { s with boots := s.boots ++ [if swagger then .finished else .started] }
  | .count boot =>
    if s.boots[boot]? = some .started then
      some { s with boots := s.boots.set boot (if count s.table = 0 then .seeding else .finished) }
    else none
  | .insert boot id pass =>
    if s.boots[boot]? = some .seeding ∧ id ∉ s.table.map User.id then some (s.insert platform boot id pass) else none
  | .create data =>
    if data.id ∉ s.table.map User.id then some { s with table := (create platform s.table data).getD s.table } else none
  | .rename id email => some { s with table := (rename s.table id email).getD s.table }
  | .softDelete id now => some { s with table := softRemove s.table id now }

end

/-- The default admin was created where there was no row, at most once, and no boot was stopped. -/
structure Seeded (s : State) : Prop where
  empty : ∀ entry ∈ s.seeded, entry = true
  once : s.seeded.length ≤ 1
  runs : Boot.rejected ∉ s.boots

def Pending (s : State) (boot : Nat) : Prop := s.boots[boot]? = some .seeding

def IntoEmpty (s : State) : Event → Prop
  | .insert .. => s.table = []
  | _ => True

/-- A count that finds nobody finds no row at all, while no other boot is about to insert; and while one is, no user is
created. -/
def Undisturbed (s : State) : Event → Prop
  | .count _ => count s.table = 0 → s.table = [] ∧ ∀ boot, ¬ Pending s boot
  | .create _ => ∀ boot, ¬ Pending s boot
  | _ => True

def Kept (s : State) : Prop := s.seeded ≠ [] → s.table ≠ []

/-- At most one boot is about to insert, and the table is empty for it. -/
structure Quiet (s : State) : Prop where
  alone : ∀ boot other, Pending s boot → Pending s other → boot = other
  empty : ∀ boot, Pending s boot → s.table = []

variable {platform : Platform} {s t : State}

private theorem create_nil (platform : Platform) (data : User) : ∃ row, create platform [] data = some [row] := ⟨_,rfl⟩

private theorem create_rows {table next : Table} {data : User} (created : create platform table data = some next) :
    next ≠ [] := by
  obtain ⟨rfl,_⟩ := insert_some _ _ _ created
  simp

private theorem create_getD_rows {table : Table} (rows : table ≠ []) (data : User) :
    (create platform table data).getD table ≠ [] := by
  cases created : create platform table data with
  | none => exact rows
  | some next => exact create_rows created

private theorem rename_nil_iff (table : Table) (id email : String) :
    (rename table id email).getD table = [] ↔ table = [] := by
  unfold rename
  split
  next => rfl
  next found _ =>
    split
    next => rfl
    next => simp

private theorem softRemove_nil_iff (table : Table) (id : String) (now : Nat) :
    softRemove table id now = [] ↔ table = [] := by
  simp [softRemove]

/-- What a step is, apart from a refusal: requests do not touch the boots, and leave rows in a table that has any. -/
inductive Moved (platform : Platform) (s : State) : Event → State → Prop
  | booted (swagger : Bool) :
    Moved platform s (.onModuleInit swagger) { s with boots := s.boots ++ [if swagger then .finished else .started] }
  | counted (boot : Nat) (started : s.boots[boot]? = some .started) :
    Moved platform s (.count boot) { s with
      boots := s.boots.set boot (if count s.table = 0 then .seeding else .finished) }
  | inserted (boot : Nat) (id pass : String) (pending : Pending s boot) (table : Table)
      (created : create platform s.table (admin id pass) = some table) :
    Moved platform s (.insert boot id pass)
      { table := table, boots := s.boots.set boot .finished, seeded := s.seeded ++ [s.table.isEmpty] }
  | rejected (boot : Nat) (id pass : String) (pending : Pending s boot)
      (refused : create platform s.table (admin id pass) = none) :
    Moved platform s (.insert boot id pass) { s with boots := s.boots.set boot .rejected }
  | created (data : User) : Moved platform s (.create data) { s with
    table := (create platform s.table data).getD s.table }
  | changed (event : Event) (harmless : IntoEmpty s event) (table : Table) (same : table = [] ↔ s.table = []) :
    Moved platform s event { s with table := table }

theorem step_moved {event : Event} (taken : step platform s event = some t) : Moved platform s event t := by
  cases event with
  | onModuleInit swagger =>
    obtain rfl := Option.some.inj taken
    exact .booted swagger
  | count boot =>
    simp only [step] at taken
    split at taken
    next started =>
      obtain rfl := Option.some.inj taken
      exact .counted boot started
    next => cases taken
  | insert boot id pass =>
    simp only [step] at taken
    split at taken
    next enabled =>
      obtain rfl := Option.some.inj taken
      unfold State.insert
      cases created : create platform s.table (admin id pass) with
      | some table => exact .inserted boot id pass enabled.1 table created
      | none => exact .rejected boot id pass enabled.1 created
    next => cases taken
  | create data =>
    simp only [step] at taken
    split at taken
    next =>
      obtain rfl := Option.some.inj taken
      exact .created data
    next => cases taken
  | rename id email =>
    obtain rfl := Option.some.inj taken
    exact .changed (.rename id email) trivial _ (rename_nil_iff s.table id email)
  | softDelete id now =>
    obtain rfl := Option.some.inj taken
    exact .changed (.softDelete id now) trivial _ (softRemove_nil_iff s.table id now)

theorem kept_step (kept : Kept s) {event : Event} (taken : step platform s event = some t) : Kept t := by
  cases step_moved taken with
  | booted => exact kept
  | counted => exact kept
  | inserted boot id pass pending table created => exact fun _ => create_rows created
  | rejected => exact kept
  | created data => exact fun seeded => create_getD_rows (kept seeded) data
  | changed _ _ table same => exact fun seeded => mt same.mp (kept seeded)

theorem Seeded.boots (seeded : Seeded s) (same : t.seeded = s.seeded)
    (new : ∀ boot ∈ t.boots, boot ∈ s.boots ∨ boot ≠ .rejected) : Seeded t where
  empty := same ▸ seeded.empty
  once := same ▸ seeded.once
  runs := by
    intro stopped
    rcases new .rejected stopped with old | other
    · exact seeded.runs old
    · exact other rfl

private theorem seeded_step (kept : Kept s) (seeded : Seeded s) {event : Event}
    (taken : step platform s event = some t) :
    IntoEmpty s event ↔ Seeded t := by
  cases step_moved taken with
  | booted swagger =>
    refine iff_of_true trivial (seeded.boots rfl ?_)
    intro boot member
    rcases List.mem_append.mp member with old | new
    · exact Or.inl old
    · rw [List.mem_singleton.mp new]
      right
      cases swagger <;> simp
  | counted boot started =>
    refine iff_of_true trivial (seeded.boots rfl ?_)
    intro other member
    rcases List.mem_or_eq_of_mem_set member with old | rfl
    · exact Or.inl old
    · right
      split <;> simp
  | inserted boot id pass pending table created =>
    constructor
    · intro empty
      have empty : s.table = [] := empty
      have first : s.seeded = [] := not_not.mp (mt kept (not_not.mpr empty))
      constructor
      · simp [first,empty]
      · simp [first]
      · intro stopped
        rcases List.mem_or_eq_of_mem_set stopped with old | new
        · exact seeded.runs old
        · cases new
    · intro after
      have none_there := after.empty s.table.isEmpty (List.mem_append_right _ List.mem_cons_self)
      exact List.isEmpty_iff.mp none_there
  | rejected boot id pass pending refused =>
    constructor
    · intro empty
      have empty : s.table = [] := empty
      obtain ⟨row,created⟩ := create_nil platform (admin id pass)
      rw [empty,created] at refused
      cases refused
    · intro after
      have inside : boot < s.boots.length := (List.getElem?_eq_some_iff.mp pending).1
      exact absurd (List.mem_set inside _) after.runs
  | created data => exact iff_of_true trivial (seeded.boots rfl (fun _ => Or.inl))
  | changed _ harmless => exact iff_of_true harmless (seeded.boots rfl (fun _ => Or.inl))

private theorem pending_set {boot other : Nat} {phase : Boot}
    (pending : (s.boots.set boot phase)[other]? = some .seeding) :
    boot = other ∧ phase = .seeding ∨ boot ≠ other ∧ Pending s other := by
  rw [List.getElem?_set] at pending
  split at pending
  next same =>
    split at pending
    next => exact Or.inl ⟨same,Option.some.inj pending⟩
    next => cases pending
  next apart => exact Or.inr ⟨apart,pending⟩

theorem Quiet.fewer (quiet : Quiet s) (rows : s.table = [] → t.table = [])
    (fewer : ∀ boot, Pending t boot → Pending s boot) :
    Quiet t where
  alone boot other first second := quiet.alone boot other (fewer boot first) (fewer other second)
  empty boot pending := rows (quiet.empty boot (fewer boot pending))

theorem Quiet.none_left (quiet : Quiet s) {boot : Nat} (pending : Pending s boot) {phase : Boot}
    (ended : phase ≠ .seeding) (boots : t.boots = s.boots.set boot phase) : Quiet t := by
  have none_pends : ∀ other, ¬ Pending t other := by
    intro other still
    rw [Pending,boots] at still
    rcases pending_set still with ⟨_,seeding⟩ | ⟨apart,before⟩
    · exact ended seeding
    · exact apart (quiet.alone boot other pending before)
  exact ⟨fun other _ first => absurd first (none_pends other),fun other first => absurd first (none_pends other)⟩

private theorem quiet_step (quiet : Quiet s) {event : Event} (undisturbed : Undisturbed s event)
    (taken : step platform s event = some t) : Quiet t := by
  cases step_moved taken with
  | booted swagger =>
    refine quiet.fewer id (fun boot pending => ?_)
    rw [Pending,List.getElem?_append] at pending
    split at pending
    next => exact pending
    next =>
      have last := List.mem_singleton.mp (List.mem_of_getElem? pending)
      cases swagger <;> cases last
  | counted boot started =>
    by_cases nobody : count s.table = 0
    · obtain ⟨empty,none_pends⟩ := undisturbed nobody
      rw [if_pos nobody]
      have only : ∀ other, Pending { s with boots := s.boots.set boot .seeding } other → boot = other := by
        intro other pending
        rcases pending_set pending with ⟨same,_⟩ | ⟨_,before⟩
        · exact same
        · exact absurd before (none_pends other)
      exact ⟨fun first second one two => (only first one).symm.trans (only second two),fun _ _ => empty⟩
    · rw [if_neg nobody]
      refine quiet.fewer id (fun other pending => ?_)
      rcases pending_set pending with ⟨_,never⟩ | ⟨_,before⟩
      · cases never
      · exact before
  | inserted boot id pass pending =>
    have ended : Boot.finished ≠ .seeding := by decide
    exact quiet.none_left pending ended rfl
  | rejected boot id pass pending =>
    have ended : Boot.rejected ≠ .seeding := by decide
    exact quiet.none_left pending ended rfl
  | created data =>
    exact ⟨fun boot _ pending => absurd pending (undisturbed boot),fun boot pending =>
      absurd pending (undisturbed boot)⟩
  | changed _ _ table same => exact quiet.fewer same.mpr (fun _ => id)

private theorem intoEmpty_of_quiet (quiet : Quiet s) {event : Event} (taken : step platform s event = some t) :
    IntoEmpty s event := by
  cases step_moved taken with
  | booted => trivial
  | counted => trivial
  | inserted boot id pass pending => exact quiet.empty boot pending
  | rejected boot id pass pending => exact quiet.empty boot pending
  | created => trivial
  | changed _ harmless => exact harmless

private theorem seeded_initial : Seeded {} where
  empty := List.forall_mem_nil _
  once := Nat.zero_le 1
  runs := List.not_mem_nil

/-- In a run in which a count that finds nobody finds no row at all, and in which neither another boot nor a creation
comes between such a count and its insert, the default admin is created in an empty table only, at most once, and no
boot is stopped. In every run this is so if and only if each insert of the default admin finds the table empty. -/
theorem admin_seeded_iff (platform : Platform) (events : List Event) :
    (Meets (step platform) Undisturbed {} events → Always (step platform) Seeded {} events) ∧
    (Always (step platform) Seeded {} events ↔ Meets (step platform) IntoEmpty {} events) := by
  constructor
  · intro undisturbed
    have safe : Always (step platform) (fun s => Seeded s ∧ Kept s ∧ Quiet s) {} events := by
      apply always_of_meets _ Undisturbed _ _ _ _ undisturbed
      · rintro s event t ⟨seeded,kept,quiet⟩ alone taken
        exact ⟨(seeded_step kept seeded taken).mp (intoEmpty_of_quiet quiet taken),kept_step kept taken,
          quiet_step quiet alone taken⟩
      · refine ⟨seeded_initial,fun never => absurd rfl never,?_,?_⟩
        · exact fun _ _ never => by cases never
        · exact fun _ never => by cases never
    exact safe.imp (fun _ all => all.1)
  · apply always_iff_meets Kept Seeded IntoEmpty
    · exact fun s event t kept taken => kept_step kept taken
    · exact fun s event t kept seeded taken => seeded_step kept seeded taken
    · exact fun never => absurd rfl never
    · exact seeded_initial

/-- The only user is deleted, and the next boot is stopped by the unique e-mail. -/
theorem deleted_admin_stops_boot : ¬ Always (step Tokens.plainPlatform) Seeded {}
    [.onModuleInit false,.count 0,.insert 0 "1" "hash",.softDelete "1" 5,.onModuleInit false,.count 1,
      .insert 1 "2" "hash"] := by
  intro always
  have stopped := (((((((always.2 _ rfl).2 _ rfl).2 _ rfl).2 _ rfl).2 _ rfl).2 _ rfl).2 _ rfl).head.runs
  exact stopped (by decide)

end BoarPack.Users.Seeding
