import BoarPack.Users.PermissionsDto
import BoarPack.Users.Service

/-! The switches of `PermissionsList`, in any number of open lists of one user. A switch sends the whole set that its
list shows, so what is stored depends on what the list had read. -/
namespace BoarPack.Users.PermissionsList
open Containers Transition PermissionsDto

/-- History: the version of the user that was read, and the switches of the same list since. -/
structure Origin where
  seen : Nat
  toggled : List String := []
  deriving DecidableEq

structure Shown where
  permissionsSet : Distinct String
  origin : Origin

structure Component where
  role : Roles
  canManageAll : Bool
  shown : Shown
  loading : Bool := false

inductive Phase
  | sent
  | saved
  | answered (seen : Nat)
  | failed
  deriving DecidableEq

/-- A call of `updateOneBaseUsersControllerUser`; `captured` is what its `catch` has in scope. -/
structure Call where
  list : Nat
  sent : Shown
  captured : Shown
  phase : Phase := .sent
  settled : Bool := false

/-- `origin` is history too, and empty where something else than a switch has stored the array. -/
structure Version where
  permissions : List String
  origin : Option Origin := none
  deriving DecidableEq

structure State where
  versions : List Version
  lists : List Component := []
  calls : List Call := []

inductive Event
  | mount (seen : Nat) (role : Roles) (canManageAll : Bool)
  | store (permissions : List String)
  | click (list : Nat) (permission : String)
  | save (call : Nat)
  | refuse (call : Nat)
  | find (call : Nat)
  | resolve (call : Nat)
  | reject (call : Nat)

def newSet (permissions : List String) : Distinct String := permissions.foldl Distinct.add .empty

def Shown.read (seen : Nat) (user : Version) : Shown where
  permissionsSet := newSet user.permissions
  origin := { seen := seen }

def Component.isGranted (list : Component) (permission : String) : Bool :=
  list.role = .admin ∨ permission ∈ list.shown.permissionsSet

def Component.disabledSwitch (list : Component) : Bool := list.role = .admin ∨ list.canManageAll = false

def Shown.toggle (shown : Shown) (permission : String) : Shown where
  permissionsSet := if permission ∈ shown.permissionsSet then shown.permissionsSet.delete permission
    else shown.permissionsSet.add permission
  origin := { shown.origin with toggled := shown.origin.toggled ++ [permission] }

def togglePermission (s : State) (i : Nat) (list : Component) (permission : String) : State :=
  let newPermissionsSet := list.shown.toggle permission
  { s with
    lists := s.lists.set i { list with shown := newPermissionsSet, loading := true }
    calls := s.calls ++ [{ list := i, sent := newPermissionsSet, captured := list.shown }] }

/-- A call settles: `setPermissionsSet` in its `then` or `catch`, and `setLoading(false)` in its `finally`. -/
def settle (s : State) (c : Nat) (call : Call) (shown : Shown) : State :=
  { s with
    lists := s.lists.modify call.list (fun list => { list with shown := shown, loading := false })
    calls := s.calls.set c { call with settled := true } }

def State.advance (s : State) (c : Nat) (call : Call) (phase : Phase) : State :=
  { s with calls := s.calls.set c { call with phase := phase } }

/-- The server stores the array of a call and then finds the user again to answer. What becomes of the answer is up to
the network, so a call may be rejected wherever the server is with it. -/
def step (values : Permissions) (s : State) : Event → Option State
  | .mount seen role canManageAll => (s.versions[seen]?).map (fun user =>
      { s with lists := s.lists ++ [{ role := role, canManageAll := canManageAll, shown := .read seen user }] })
  | .store permissions => some { s with versions := s.versions ++ [{ permissions := permissions }] }
  | .click i permission => (s.lists[i]?).bind (fun list =>
      if list.disabledSwitch then none else some (togglePermission s i list permission))
  | .save c => (s.calls[c]?).bind (fun call =>
      if call.phase = .sent then
        match UserUpdateDto.permissions values (some call.sent.permissionsSet.items) with
        | .ok (some permissions) => some { s.advance c call .saved with
            versions := s.versions ++ [{ permissions := permissions, origin := some call.sent.origin }] }
        | _ => some (s.advance c call .failed)
      else none)
  | .refuse c => (s.calls[c]?).bind (fun call =>
      if call.phase = .sent then some (s.advance c call .failed) else none)
  | .find c => (s.calls[c]?).bind (fun call =>
      if call.phase = .saved then some (s.advance c call (.answered (s.versions.length - 1))) else none)
  | .resolve c => (s.calls[c]?).bind (fun call =>
      match call.settled,call.phase with
      | false,.answered seen => (s.versions[seen]?).map (fun user => settle s c call (.read seen user))
      | _,_ => none)
  | .reject c => (s.calls[c]?).bind (fun call =>
      if call.settled then none else some (settle s c call call.captured))

def start (permissions : List String) : State where
  versions := [{ permissions := permissions }]

/-- The array is what was read, but for the permissions that have been switched an odd number of times since. -/
def Follows (versions : List Version) (permissions : List String) (origin : Origin) : Prop :=
  ∃ read, versions[origin.seen]? = some read ∧
    ∀ permission, permission ∈ permissions ↔ (permission ∈ read.permissions ↔ origin.toggled.count permission % 2 = 0)

def Shown.Sound (versions : List Version) (shown : Shown) : Prop :=
  Follows versions shown.permissionsSet.items shown.origin

structure Inv (s : State) : Prop where
  versions : ∀ n version, s.versions[n]? = some version → ∀ origin, version.origin = some origin →
    origin.seen < n ∧ Follows s.versions version.permissions origin
  lists : ∀ list ∈ s.lists, list.shown.Sound s.versions
  calls : ∀ call ∈ s.calls, call.sent.Sound s.versions ∧ call.captured.Sound s.versions

/-- No switch of a list is used while one of its calls is on the way. -/
def Waits (s : State) : Event → Prop
  | .click i _ => (s.lists[i]?).all (fun list => !list.loading) = true
  | _ => True

instance (s : State) : (event : Event) → Decidable (Waits s event)
  | .click _ _ => inferInstanceAs (Decidable (_ = true))
  | .mount _ _ _ | .store _ | .save _ | .refuse _ | .find _ | .resolve _ | .reject _ => isTrue trivial

/-- What a step does to the versions, the lists and the calls, whichever call it is about. -/
inductive Moved (s : State) : Event → State → Prop
  | mounted (seen : Nat) (role : Roles) (canManageAll : Bool) (user : Version) (found : s.versions[seen]? = some user) :
    Moved s (.mount seen role canManageAll)
      { s with lists := s.lists ++ [{ role := role, canManageAll := canManageAll, shown := .read seen user }] }
  | stored (permissions : List String) :
    Moved s (.store permissions) { s with versions := s.versions ++ [{ permissions := permissions }] }
  | clicked (i : Nat) (list : Component) (permission : String) (found : s.lists[i]? = some list) :
    Moved s (.click i permission) (togglePermission s i list permission)
  | saved (c : Nat) (call : Call) (found : s.calls[c]? = some call) :
    Moved s (.save c) { s.advance c call .saved with
      versions := s.versions ++ [{ permissions := call.sent.permissionsSet.items, origin := some call.sent.origin }] }
  | advanced (event : Event) (c : Nat) (call : Call) (phase : Phase) (found : s.calls[c]? = some call) :
    Moved s event (s.advance c call phase)
  | settled (event : Event) (c : Nat) (call : Call) (shown : Shown) (found : s.calls[c]? = some call)
      (answer : shown = call.captured ∨ ∃ seen user, s.versions[seen]? = some user ∧ shown = .read seen user) :
    Moved s event (settle s c call shown)

theorem step_moved {values : Permissions} {s t : State} {event : Event} (taken : step values s event = some t) :
    Moved s event t := by
  cases event with
  | mount seen role canManageAll =>
    obtain ⟨user,found,rfl⟩ := Option.map_eq_some_iff.mp taken
    exact .mounted seen role canManageAll user found
  | store permissions =>
    obtain rfl := Option.some.inj taken
    exact .stored permissions
  | click i permission =>
    obtain ⟨list,found,taken⟩ := Option.bind_eq_some_iff.mp taken
    split at taken
    next => cases taken
    next =>
      obtain rfl := Option.some.inj taken
      exact .clicked i list permission found
  | save c =>
    obtain ⟨call,found,taken⟩ := Option.bind_eq_some_iff.mp taken
    split at taken
    next =>
      by_cases empty : "" ∈ call.sent.permissionsSet.items
      · rw [UserUpdateDto.permissions,validatePermissions_error values _ empty] at taken
        obtain rfl := Option.some.inj taken
        exact .advanced _ c call .failed found
      · rw [UserUpdateDto.permissions,validatePermissions_ok values _ empty] at taken
        obtain rfl := Option.some.inj taken
        exact .saved c call found
    next => cases taken
  | refuse c =>
    obtain ⟨call,found,taken⟩ := Option.bind_eq_some_iff.mp taken
    split at taken
    next =>
      obtain rfl := Option.some.inj taken
      exact .advanced _ c call .failed found
    next => cases taken
  | find c =>
    obtain ⟨call,found,taken⟩ := Option.bind_eq_some_iff.mp taken
    split at taken
    next =>
      obtain rfl := Option.some.inj taken
      exact .advanced _ c call _ found
    next => cases taken
  | resolve c =>
    obtain ⟨call,found,taken⟩ := Option.bind_eq_some_iff.mp taken
    split at taken
    next seen _ _ =>
      obtain ⟨user,at_seen,rfl⟩ := Option.map_eq_some_iff.mp taken
      exact .settled _ c call _ found (Or.inr ⟨seen,user,at_seen,rfl⟩)
    next => cases taken
  | reject c =>
    obtain ⟨call,found,taken⟩ := Option.bind_eq_some_iff.mp taken
    split at taken
    next => cases taken
    next =>
      obtain rfl := Option.some.inj taken
      exact .settled _ c call _ found (Or.inl rfl)

private theorem mem_newSet (permissions : List String) (permission : String) :
    permission ∈ newSet permissions ↔ permission ∈ permissions := by
  unfold newSet
  induction permissions using List.reverseRecOn with
  | nil => simp
  | append_singleton permissions last ih =>
    rw [List.foldl_append,List.foldl_cons,List.foldl_nil,Distinct.mem_add,ih,List.mem_append,List.mem_singleton]

theorem Follows.grow {versions : List Version} {permissions : List String} {origin : Origin}
    (follows : Follows versions permissions origin) (more : List Version) :
      Follows (versions ++ more) permissions origin := by
  obtain ⟨read,found,same⟩ := follows
  refine ⟨read,?_,same⟩
  rw [List.getElem?_append_left (List.getElem?_eq_some_iff.mp found).1]
  exact found

private theorem sound_read {versions : List Version} {seen : Nat} {user : Version}
    (found : versions[seen]? = some user) :
    (Shown.read seen user).Sound versions := by
  refine ⟨user,found,fun permission => ?_⟩
  rw [Distinct.mem_items,Shown.read,mem_newSet]
  simp

private theorem sound_toggle {versions : List Version} {shown : Shown} (sound : shown.Sound versions)
    (permission : String) :
    (shown.toggle permission).Sound versions := by
  obtain ⟨read,found,same⟩ := sound
  refine ⟨read,found,fun other => ?_⟩
  have before := same other
  rw [Distinct.mem_items] at before ⊢
  by_cases here : other = permission
  · subst here
    have count : (shown.toggle other).origin.toggled.count other = shown.origin.toggled.count other + 1 := by
      simp [Shown.toggle]
    have flipped : other ∈ (shown.toggle other).permissionsSet ↔ other ∉ shown.permissionsSet := by
      unfold Shown.toggle
      split
      next inside => simp [inside]
      next outside => simp [outside]
    rw [flipped,before,count,Nat.add_mod]
    have parity := Nat.mod_two_eq_zero_or_one (shown.origin.toggled.count other)
    rcases parity with even | odd
    · simp [even]
    · simp [odd]
  · have count : (shown.toggle permission).origin.toggled.count other = shown.origin.toggled.count other := by
      simp [Shown.toggle,Ne.symm here]
    have kept : other ∈ (shown.toggle permission).permissionsSet ↔ other ∈ shown.permissionsSet := by
      unfold Shown.toggle
      split <;> simp [here]
    rw [kept,before,count]

theorem Follows.seen_lt {versions : List Version} {permissions : List String} {origin : Origin}
    (follows : Follows versions permissions origin) : origin.seen < versions.length := by
  obtain ⟨read,found,_⟩ := follows
  exact (List.getElem?_eq_some_iff.mp found).1

private theorem inv_start (permissions : List String) : Inv (start permissions) where
  versions := by
    intro n version found origin made
    have inside := List.mem_of_getElem? found
    obtain rfl := List.mem_singleton.mp inside
    cases made
  lists := fun _ never => by cases never
  calls := fun _ never => by cases never

private theorem inv_version {s : State} (inv : Inv s) (version : Version)
    (follows : ∀ origin, version.origin = some origin → Follows s.versions version.permissions origin) :
    Inv { s with versions := s.versions ++ [version] } where
  versions := by
    intro n other found origin made
    change (s.versions ++ [version])[n]? = some other at found
    rcases Nat.lt_or_ge n s.versions.length with old | new
    · rw [List.getElem?_append_left old] at found
      obtain ⟨earlier,same⟩ := inv.versions n other found origin made
      exact ⟨earlier,same.grow [version]⟩
    · rw [List.getElem?_append_right new] at found
      obtain rfl := List.mem_singleton.mp (List.mem_of_getElem? found)
      have same := follows origin made
      exact ⟨Nat.lt_of_lt_of_le same.seen_lt new,same.grow [other]⟩
  lists := fun list inside => (inv.lists list inside).grow [version]
  calls := fun call inside => ⟨(inv.calls call inside).1.grow [version],(inv.calls call inside).2.grow [version]⟩

theorem inv_advance {s : State} (inv : Inv s) (c : Nat) (call : Call) (phase : Phase)
    (found : s.calls[c]? = some call) :
    Inv (s.advance c call phase) where
  versions := inv.versions
  lists := inv.lists
  calls := by
    intro other inside
    rcases List.mem_or_eq_of_mem_set inside with old | rfl
    · exact inv.calls other old
    · exact inv.calls call (List.mem_of_getElem? found)

private theorem inv_settle {s : State} (inv : Inv s) (c : Nat) (call : Call) (shown : Shown)
    (found : s.calls[c]? = some call) (sound : shown.Sound s.versions) : Inv (settle s c call shown) where
  versions := inv.versions
  lists := by
    intro list inside
    obtain ⟨i,at_i⟩ := List.getElem?_of_mem inside
    simp only [settle,List.getElem?_modify] at at_i
    obtain ⟨old,was,rfl⟩ := Option.map_eq_some_iff.mp at_i
    split
    next => exact sound
    next => exact inv.lists old (List.mem_of_getElem? was)
  calls := by
    intro other inside
    rcases List.mem_or_eq_of_mem_set inside with old | rfl
    · exact inv.calls other old
    · exact inv.calls call (List.mem_of_getElem? found)

theorem inv_step (values : Permissions) (s : State) (event : Event) (t : State) (inv : Inv s)
    (taken : step values s event = some t) : Inv t := by
  cases step_moved taken with
  | mounted seen role canManageAll user found =>
    refine ⟨inv.versions,fun list inside => ?_,inv.calls⟩
    rcases List.mem_append.mp inside with old | new
    · exact inv.lists list old
    · obtain rfl := List.mem_singleton.mp new
      exact sound_read found
  | stored permissions => exact inv_version inv _ (fun _ made => by cases made)
  | clicked i list permission found =>
    have before := inv.lists list (List.mem_of_getElem? found)
    have sound := sound_toggle before permission
    refine ⟨inv.versions,fun other inside => ?_,fun call inside => ?_⟩
    · rcases List.mem_or_eq_of_mem_set inside with old | rfl
      · exact inv.lists other old
      · exact sound
    · rcases List.mem_append.mp inside with old | new
      · exact inv.calls call old
      · obtain rfl := List.mem_singleton.mp new
        exact ⟨sound,before⟩
  | saved c call found =>
    apply inv_version (inv_advance inv c call .saved found)
    intro origin made
    obtain rfl := Option.some.inj made
    exact (inv.calls call (List.mem_of_getElem? found)).1
  | advanced _ c call phase found => exact inv_advance inv c call phase found
  | settled _ c call shown found answer =>
    apply inv_settle inv c call shown found
    rcases answer with rfl | ⟨seen,user,at_seen,rfl⟩
    · exact (inv.calls call (List.mem_of_getElem? found)).2
    · exact sound_read at_seen

/-- What may undo, for one permission, what version `i` said: another writer, a list whose set goes back to a read of
less than `i`, or a switch of that permission since that read. -/
def Version.Undoes (version : Version) (i : Nat) (permission : String) : Prop :=
  ∀ origin, version.origin = some origin → origin.seen < i ∨ origin.toggled.count permission % 2 = 1

private theorem undone_between {s : State} (inv : Inv s) (permission : String) (i : Nat) (older : Version)
    (at_i : s.versions[i]? = some older) (n : Nat) (newer : Version) (at_n : s.versions[n]? = some newer)
    (later : i ≤ n) (differs : ¬ (permission ∈ older.permissions ↔ permission ∈ newer.permissions)) :
    ∃ m version, i < m ∧ m ≤ n ∧ s.versions[m]? = some version ∧ version.Undoes i permission := by
  induction n using Nat.strongRecOn generalizing newer with
  | ind n ih =>
    have apart : i ≠ n := by
      intro same
      subst same
      rw [at_i] at at_n
      obtain rfl := Option.some.inj at_n
      exact differs Iff.rfl
    by_cases undoes : newer.Undoes i permission
    · exact ⟨n,newer,by omega,Nat.le_refl n,at_n,undoes⟩
    -- what the list had read is between the two, and says the same as the newer one
    · simp only [Version.Undoes,not_forall,not_or] at undoes
      obtain ⟨origin,made,recent,untouched⟩ := undoes
      obtain ⟨earlier,read,found,same⟩ := inv.versions n newer at_n origin made
      have kept : permission ∈ newer.permissions ↔ permission ∈ read.permissions := by
        rw [same permission]
        simp [Nat.mod_two_ne_one.mp untouched]
      rw [kept] at differs
      obtain ⟨m,version,after,before,at_m,undoes⟩ := ih origin.seen earlier read found (by omega) differs
      exact ⟨m,version,after,by omega,at_m,undoes⟩

/-- However the lists and the network interleave: what one version says of a permission a later one still says, unless a
version in between was stored by another writer, by a list whose set goes back to an older read, or by a switch of that
permission. -/
theorem undone_by (values : Permissions) (permissions : List String) (events : List Event) (t : State)
    (ran : run (step values) (start permissions) events = some t) (permission : String) (i n : Nat) (later : i ≤ n)
    (older newer : Version) (at_i : t.versions[i]? = some older) (at_n : t.versions[n]? = some newer)
    (differs : ¬ (permission ∈ older.permissions ↔ permission ∈ newer.permissions)) :
    ∃ m version, i < m ∧ m ≤ n ∧ t.versions[m]? = some version ∧ version.Undoes i permission := by
  have inv := run_invariant Inv (inv_step values) (start permissions) t events (inv_start permissions) ran
  exact undone_between inv permission i older at_i n newer at_n later differs

theorem overwritten_by_stale : ∃ t m version, run (step .empty) (start []) [.mount 0 .user true,.mount 0 .user true,
      .click 0 "docs.read",.save 0,.find 0,.resolve 0,.click 1 "trading.view",.save 1] = some t ∧
    1 < m ∧ m ≤ 2 ∧ t.versions[m]? = some version ∧ version.Undoes 1 "docs.read" := by
  obtain ⟨m,version,undone⟩ := undone_by .empty []
    [.mount 0 .user true,.mount 0 .user true,.click 0 "docs.read",.save 0,
    .find 0,.resolve 0,.click 1 "trading.view",.save 1] _ rfl "docs.read" 1 2 (by decide) _ _ rfl rfl (by decide)
  exact ⟨_,m,version,rfl,undone⟩

/-- Where no list is used while it is loading: only a loading list is ahead of what it read, and by one switch. -/
structure Calm (s : State) : Prop where
  versions : ∀ version ∈ s.versions, ∀ origin, version.origin = some origin → ∃ switched, origin.toggled = [switched]
  lists : ∀ list ∈ s.lists, list.loading = false → list.shown.origin.toggled = []
  calls : ∀ call ∈ s.calls, call.captured.origin.toggled = [] ∧ ∃ switched, call.sent.origin.toggled = [switched]

private theorem calm_start (permissions : List String) : Calm (start permissions) where
  versions := by
    intro version inside origin made
    obtain rfl := List.mem_singleton.mp inside
    cases made
  lists := fun _ never => by cases never
  calls := fun _ never => by cases never

private theorem calm_version {s : State} (calm : Calm s) (version : Version)
    (one : ∀ origin, version.origin = some origin → ∃ switched, origin.toggled = [switched]) :
    Calm { s with versions := s.versions ++ [version] } where
  versions := by
    intro other inside
    rcases List.mem_append.mp inside with old | new
    · exact calm.versions other old
    · obtain rfl := List.mem_singleton.mp new
      exact one
  lists := calm.lists
  calls := calm.calls

private theorem calm_call {s : State} (calm : Calm s) (c : Nat) (call new : Call) (found : s.calls[c]? = some call)
    (captured : new.captured = call.captured) (sent : new.sent = call.sent) : ∀ other ∈ s.calls.set c new,
      other.captured.origin.toggled = [] ∧ ∃ switched, other.sent.origin.toggled = [switched] := by
  intro other inside
  rcases List.mem_or_eq_of_mem_set inside with old | rfl
  · exact calm.calls other old
  · rw [captured,sent]
    exact calm.calls call (List.mem_of_getElem? found)

theorem calm_step (values : Permissions) (s : State) (event : Event) (t : State) (calm : Calm s) (waits : Waits s event)
    (taken : step values s event = some t) : Calm t := by
  cases step_moved taken with
  | mounted seen role canManageAll user found =>
    refine ⟨calm.versions,fun list inside idle => ?_,calm.calls⟩
    rcases List.mem_append.mp inside with old | new
    · exact calm.lists list old idle
    · obtain rfl := List.mem_singleton.mp new
      rfl
  | stored permissions => exact calm_version calm _ (fun _ made => by cases made)
  | clicked i list permission found =>
    have idle : list.loading = false := by simpa [Waits,found] using waits
    have fresh := calm.lists list (List.mem_of_getElem? found) idle
    refine ⟨calm.versions,fun other inside rests => ?_,fun call inside => ?_⟩
    · rcases List.mem_or_eq_of_mem_set inside with old | rfl
      · exact calm.lists other old rests
      · cases rests
    · rcases List.mem_append.mp inside with old | new
      · exact calm.calls call old
      · obtain rfl := List.mem_singleton.mp new
        exact ⟨fresh,permission,by simp [Shown.toggle,fresh]⟩
  | saved c call found =>
    have advanced : Calm (s.advance c call .saved) := ⟨calm.versions,calm.lists,calm_call calm c call _ found rfl rfl⟩
    apply calm_version advanced
    intro origin made
    obtain rfl := Option.some.inj made
    exact (calm.calls call (List.mem_of_getElem? found)).2
  | advanced _ c call phase found => exact ⟨calm.versions,calm.lists,calm_call calm c call _ found rfl rfl⟩
  | settled _ c call shown found answer =>
    refine ⟨calm.versions,fun list inside idle => ?_,calm_call calm c call _ found rfl rfl⟩
    have fresh : shown.origin.toggled = [] := by
      rcases answer with rfl | ⟨seen,user,_,rfl⟩
      · exact (calm.calls call (List.mem_of_getElem? found)).1
      · rfl
    obtain ⟨i,at_i⟩ := List.getElem?_of_mem inside
    simp only [settle,List.getElem?_modify] at at_i
    obtain ⟨old,was,rfl⟩ := Option.map_eq_some_iff.mp at_i
    split at idle
    next here => simpa [here] using fresh
    next apart => simpa [apart] using calm.lists old (List.mem_of_getElem? was) idle

/-- Where no list is used while it is loading, a list at rest grants what some version stored, and what a switch
stores is what its list had read, but for one permission. -/
theorem one_switch_each (values : Permissions) (permissions : List String) (events : List Event) (t : State)
    (waits : Meets (step values) Waits (start permissions) events)
    (ran : run (step values) (start permissions) events = some t) :
    (∀ list ∈ t.lists, list.loading = false → ∃ read, t.versions[list.shown.origin.seen]? = some read ∧
      ∀ permission, list.isGranted permission = true ↔ list.role = .admin ∨ permission ∈ read.permissions) ∧
    (∀ (n : Nat) (version : Version) (origin : Origin), t.versions[n]? = some version → version.origin = some origin →
      ∃ read switched, origin.seen < n ∧ t.versions[origin.seen]? = some read ∧
        ∀ permission, (permission ∈ version.permissions ↔ permission ∈ read.permissions) ↔ permission ≠ switched) := by
  have inv := run_invariant Inv (inv_step values) (start permissions) t events (inv_start permissions) ran
  have calm := run_invariant_meeting Calm Waits (calm_step values) (start permissions) t events (calm_start permissions)
    waits ran
  constructor
  · intro list inside idle
    obtain ⟨read,found,same⟩ := inv.lists list inside
    refine ⟨read,found,fun permission => ?_⟩
    have held := same permission
    rw [calm.lists list inside idle,Distinct.mem_items] at held
    simpa [Component.isGranted] using or_congr_right (held.trans (by simp))
  · intro n version origin at_n made
    obtain ⟨earlier,read,found,same⟩ := inv.versions n version at_n origin made
    obtain ⟨switched,one⟩ := calm.versions version (List.mem_of_getElem? at_n) origin made
    refine ⟨read,switched,earlier,found,fun permission => ?_⟩
    rw [same permission,one]
    by_cases here : permission = switched
    · simp [here]
    · simp [here,Ne.symm here]

theorem one_switch_stored : ∃ t, run (step .empty) (start []) [.mount 0 .user true,.click 0 "docs.read",.save 0,.find 0,
      .resolve 0] = some t ∧
    ∀ list ∈ t.lists, list.loading = false → ∃ read, t.versions[list.shown.origin.seen]? = some read ∧
      ∀ permission, list.isGranted permission = true ↔ list.role = .admin ∨ permission ∈ read.permissions := by
  have stored := one_switch_each .empty [] [.mount 0 .user true,.click 0 "docs.read",.save 0,.find 0,.resolve 0] _
    (by decide) rfl
  exact ⟨_,rfl,stored.1⟩

end BoarPack.Users.PermissionsList
