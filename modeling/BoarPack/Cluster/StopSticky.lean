import BoarPack.Cluster.Events

/-! A worker that was stopped is meant to stay down until it is started again. All that
tells the exit handler so is the SIGKILL it sees, which a stop delivers to the process
it finds in the table: a restart that was under way, or a process already dying of
something else, goes on to fork. -/
namespace BoarPack.Cluster
open Containers

def Entry.killed (entry : Entry) : Bool :=
  match entry.death with
  | none => false
  | some death => death.signal = some STOP_WORKER

def Starts (workerId : String) : Action → Prop
  | .setWorkerState other true => other = workerId
  | .runCluster => True
  | _ => False

instance (workerId : String) : (action : Action) → Decidable (Starts workerId action)
  | .setWorkerState other true => inferInstanceAs (Decidable (other = workerId))
  | .runCluster => isTrue trivial
  | .setWorkerState _ false => isFalse id
  | .getWorkersSettings .. => isFalse id
  | .getSettings .. => isFalse id
  | .addCluster => isFalse id
  | .die .. => isFalse id
  | .exit _ => isFalse id
  | .fire _ => isFalse id

def StopsAll : List Entry → Prop
  | [] => True
  | first :: others => (first.death = none ∨ first.killed) ∧ ∀ entry ∈ others, entry.killed

instance : (entries : List Entry) → Decidable (StopsAll entries)
  | [] => isTrue trivial
  | first :: _ => inferInstanceAs (Decidable ((first.death = none ∨ first.killed) ∧ _))

/-- Nothing is under way that forks the worker, and the process that a stop finds is
alive, or was killed, and is the only one. -/
structure Quiet (s : State) (workerId : String) : Prop where
  tasks : ∀ task ∈ s.tasks, task.caller ≠ .runCluster ∧ task.caller ≠ .startWorker workerId
  timers : workerId ∉ s.timers
  processes : StopsAll (s.workers.filter (fun entry => entry.worker = some workerId))

structure Silent (s : State) (workerId : String) : Prop where
  tasks : ∀ task ∈ s.tasks, task.caller ≠ .runCluster ∧ task.caller ≠ .startWorker workerId
  timers : workerId ∉ s.timers
  processes : ∀ entry ∈ s.workers, entry.worker = some workerId → entry.killed

variable {config : TClusterConfig} {runningCluster : ClusterInterface} {s t : State} {workerId : String}

private theorem stopsAll_iff (workerId : String) (workers : List Entry) :
    StopsAll (workers.filter (fun entry => entry.worker = some workerId)) ↔
      ∀ entry ∈ stopWorker workerId workers, entry.worker = some workerId → entry.killed := by
  induction workers with
  | nil => simp [StopsAll,stopWorker]
  | cons entry rest ih =>
    by_cases named : entry.worker = some workerId
    · rw [List.filter_cons_of_pos (by simpa using named),stopWorker,if_pos named]
      cases death : entry.death with
      | none =>
        have kept : ({ entry with death := some ⟨none,some STOP_WORKER⟩ } : Entry).worker = some workerId := named
        simp [StopsAll,death,kept,Entry.killed]
      | some _ => simp [StopsAll,death,named]
    · rw [List.filter_cons_of_neg (by simpa using named),stopWorker,if_neg named,ih]
      simp [named]

private theorem silent_stop (inv : Inv s) (workerId : String) :
    Silent (setWorkerState s workerId false) workerId ↔ Quiet s workerId := by
  rw [setWorkerState_stop]
  split
  next =>
    constructor
    · intro silent
      exact ⟨silent.tasks,silent.timers,(stopsAll_iff workerId s.workers).mpr silent.processes⟩
    · intro quiet
      exact ⟨quiet.tasks,quiet.timers,(stopsAll_iff workerId s.workers).mp quiet.processes⟩
  next unknown =>
    obtain ⟨workers,tasks,timers⟩ := inv.idle (Bool.eq_false_iff.mpr unknown)
    constructor
    · intro silent
      exact ⟨silent.tasks,silent.timers,by simp [workers,StopsAll]⟩
    · intro quiet
      exact ⟨quiet.tasks,quiet.timers,by simp [workers]⟩

private theorem mem_stopWorker (other : String) (workers : List Entry) (entry : Entry)
    (listed : entry ∈ stopWorker other workers) : entry ∈ workers ∨ entry.killed := by
  induction workers with
  | nil => cases listed
  | cons head rest ih =>
    unfold stopWorker at listed
    split at listed
    next =>
      split at listed
      next =>
        rcases List.mem_cons.mp listed with rfl | old
        · exact Or.inr rfl
        · exact Or.inl (List.mem_cons_of_mem _ old)
      next => exact Or.inl listed
    next =>
      rcases List.mem_cons.mp listed with rfl | later
      · exact Or.inl List.mem_cons_self
      · exact (ih later).imp_left (List.mem_cons_of_mem _)

private theorem runWorker_forksOf (clusterSettings : ClusterSettings) (settings : WorkerSettings)
    (plain : settings.KeepsWorker)
    (known : s.registered = true) :
    (runWorker config runningCluster clusterSettings s settings).forksOf workerId =
      s.forksOf workerId + if settings.workerId = workerId then 1 else 0 := by
  have named := worker_forked config runningCluster clusterSettings settings plain
  unfold Entry.worker at named
  simp [runWorker,known,State.forksOf,List.countP_append,List.countP_cons,named]

private theorem silent_runWorker (silent : Silent s workerId) (clusterSettings : ClusterSettings)
    (settings : WorkerSettings) (plain : settings.KeepsWorker)
    (other : settings.workerId ≠ workerId) :
    Silent (runWorker config runningCluster clusterSettings s settings) workerId ∧
      (runWorker config runningCluster clusterSettings s settings).forksOf workerId = s.forksOf workerId := by
  by_cases known : s.registered = true
  · refine ⟨?_,by rw [runWorker_forksOf clusterSettings settings plain known,if_neg other]; rfl⟩
    simp only [runWorker,known,if_true]
    refine ⟨silent.tasks,silent.timers,?_⟩
    intro entry listed named
    rcases List.mem_append.mp listed with old | new
    · exact silent.processes entry old named
    · rw [List.mem_singleton.mp new,worker_forked config runningCluster clusterSettings settings plain] at named
      exact absurd (Option.some.inj named) other
  · simp only [runWorker,known]
    exact ⟨silent,rfl⟩

private theorem silent_startWorker (silent : Silent s workerId) (other : String) (differs : other ≠ workerId) :
    Silent (s.startWorker other) workerId := by
  refine ⟨?_,silent.timers,silent.processes⟩
  intro task listed
  rcases List.mem_append.mp listed with old | new
  · exact silent.tasks task old
  · rw [List.mem_singleton.mp new]
    exact ⟨by simp,by simpa using differs⟩

private theorem silent_exited (inv : Inv s) (silent : Silent s workerId) (k : Nat) (entry : Entry) (death : Death)
    (found : s.workers[k]? = some entry) (dead : entry.death = some death) :
    Silent (exited s (s.workers.eraseIdx k) entry death) workerId := by
  have listed := List.mem_of_getElem? found
  have rest : Silent { s with workers := s.workers.eraseIdx k } workerId :=
    ⟨silent.tasks,silent.timers,fun other member => silent.processes other (List.mem_of_mem_eraseIdx member)⟩
  unfold exited
  split
  next => exact rest
  next survives =>
    -- a process of the stopped worker would have died of SIGKILL
    have other : entry.workerSettings.workerId ≠ workerId := by
      intro same
      have killed := silent.processes entry listed (by rw [inv.named entry listed,same])
      simp only [Entry.killed,dead,decide_eq_true_eq] at killed
      exact survives killed
    split
    next => exact silent_startWorker rest _ other
    next =>
      refine ⟨rest.tasks,?_,rest.processes⟩
      intro planned
      rcases List.mem_append.mp planned with old | new
      · exact silent.timers old
      · exact other (List.mem_singleton.mp new).symm

private theorem silent_setWorkerState (silent : Silent s workerId) (other : String) (state : Bool)
    (started : ¬ Starts workerId (.setWorkerState other state)) :
    Silent (setWorkerState s other state) workerId := by
  cases state with
  | true =>
    unfold setWorkerState
    split
    next => exact silent
    next =>
      split
      next => exact silent_startWorker silent other started
      next => exact silent
  | false =>
    rw [setWorkerState_stop]
    split
    next =>
      refine ⟨silent.tasks,silent.timers,?_⟩
      intro entry listed named
      rcases mem_stopWorker other s.workers entry listed with old | killed
      · exact silent.processes entry old named
      · exact killed
    next => exact silent

theorem setWorkerState_forks (s : State) (other : String) (state : Bool) :
    (setWorkerState s other state).forks = s.forks := by
  unfold setWorkerState
  split
  next => rfl
  next => split <;> split <;> rfl

theorem exited_forks (s : State) (rest : List Entry) (entry : Entry) (death : Death) :
    (exited s rest entry death).forks = s.forks := by
  unfold exited
  split
  next => rfl
  next => split <;> rfl

private theorem silent_ended (silent : Silent s workerId) (i : Nat) :
    Silent { s with tasks := s.tasks.eraseIdx i } workerId :=
  ⟨fun task listed => silent.tasks task (List.mem_of_mem_eraseIdx listed),silent.timers,silent.processes⟩

private theorem silent_step {action : Action} (inv : Inv s) (silent : Silent s workerId) (plain : Plain action)
    (started : ¬ Starts workerId action) (taken : step config runningCluster s action = some t) :
    Silent t workerId ∧ t.forksOf workerId = s.forksOf workerId := by
  cases step_taken taken with
  | addCluster => exact ⟨⟨silent.tasks,silent.timers,silent.processes⟩,rfl⟩
  | runCluster known => exact absurd trivial started
  | commanded other state =>
    refine ⟨silent_setWorkerState silent other state started,?_⟩
    rw [State.forksOf,setWorkerState_forks]
    rfl
  | settingsRejected i caller found => exact ⟨silent_ended silent i,rfl⟩
  | settingsRead i caller settings found =>
    refine ⟨⟨?_,silent.timers,silent.processes⟩,rfl⟩
    intro task listed
    rcases List.mem_or_eq_of_mem_set listed with old | rfl
    · exact silent.tasks task old
    · exact silent.tasks ⟨caller,none⟩ (List.mem_of_getElem? found)
  | listRejected i caller settings found => exact ⟨silent_ended silent i,rfl⟩
  | listRead i caller settings list found =>
    obtain ⟨notAll,notThis⟩ := silent.tasks _ (List.mem_of_getElem? found)
    cases caller with
    | runCluster => exact absurd rfl notAll
    | startWorker other =>
      simp only [proceed]
      split
      next => exact ⟨silent_ended silent i,rfl⟩
      next chosen_settings chosen =>
        have named : chosen_settings.workerId = other := by simpa using List.find?_some chosen
        have differs : chosen_settings.workerId ≠ workerId := fun same => notThis (by rw [← named,same])
        exact silent_runWorker (silent_ended silent i) settings chosen_settings
          (plain chosen_settings (List.mem_of_find?_eq_some chosen)) differs
  | died k entry death found alive =>
    refine ⟨⟨silent.tasks,silent.timers,?_⟩,rfl⟩
    intro other listed named
    rcases List.mem_or_eq_of_mem_set listed with old | rfl
    · exact silent.processes other old named
    · have killed := silent.processes entry (List.mem_of_getElem? found) named
      simp [Entry.killed,alive] at killed
  | exited k entry death found dead =>
    refine ⟨silent_exited inv silent k entry death found dead,?_⟩
    rw [State.forksOf,exited_forks]
    rfl
  | fired k other found =>
    have rest : Silent { s with timers := s.timers.eraseIdx k } workerId :=
      ⟨silent.tasks,fun planned => silent.timers (List.mem_of_mem_eraseIdx planned),silent.processes⟩
    refine ⟨silent_startWorker rest other ?_,rfl⟩
    rintro rfl
    exact silent.timers (List.mem_of_getElem? found)

def Leaves (workerId : String) (action : Action) : Prop := Plain action ∧ ¬ Starts workerId action

private theorem silent_run (inv : Inv s) (silent : Silent s workerId) (actions : List Action)
    (leaves : ∀ action ∈ actions, Leaves workerId action)
    (ran : Transition.run (step config runningCluster) s actions = some t) :
    t.forksOf workerId = s.forksOf workerId := by
  have kept := Transition.run_invariant_meeting
    (fun now => Inv now ∧ Silent now workerId ∧ now.forksOf workerId = s.forksOf workerId) _
    (fun now action next both allowed taken => by
      obtain ⟨inv,silent,same⟩ := both
      obtain ⟨still,unchanged⟩ := silent_step inv silent allowed.1 allowed.2 taken
      exact ⟨inv_step inv allowed.1 taken,still,unchanged.trans same⟩)
    s t actions ⟨inv,silent,rfl⟩ (Transition.meets_of_labels leaves) ran
  exact kept.2.2

def Wakes (config : TClusterConfig) (runningCluster : ClusterInterface) (s : State) (workerId : String) : Prop :=
  ∃ actions t, (∀ action ∈ actions, Leaves workerId action) ∧
    Transition.run (step config runningCluster) s actions = some t ∧ s.forksOf workerId < t.forksOf workerId

theorem Wakes.before (action : Action) (leaves : Leaves workerId action)
    (taken : step config runningCluster s action = some t) (same : t.forks = s.forks)
    (wakes : Wakes config runningCluster t workerId) : Wakes config runningCluster s workerId := by
  obtain ⟨actions,last,all,ran,more⟩ := wakes
  refine ⟨action :: actions,last,?_,(Transition.run_cons s last action actions).mpr ⟨t,taken,ran⟩,?_⟩
  · intro other member
    rcases List.mem_cons.mp member with rfl | later
    · exact leaves
    · exact all other later
  · simpa only [State.forksOf,same] using more

def settingsOf (workerId : String) : WorkerSettings := ⟨workerId,none,none,none,none⟩

private theorem settingsOf_keepsWorker (workerId : String) : (settingsOf workerId).KeepsWorker := by
  intro entry listed
  cases listed

private theorem wakes_reading (known : s.registered = true) (i : Nat) (caller : Caller) (settings : ClusterSettings)
    (found : s.tasks[i]? = some ⟨caller,some settings⟩)
    (forks : caller = .runCluster ∨ caller = .startWorker workerId) :
    Wakes config runningCluster s workerId := by
  let read : Action := .getWorkersSettings i (some [settingsOf workerId])
  let ended : State := { s with tasks := s.tasks.eraseIdx i }
  have plain : Plain read := by
    intro settings listed
    rw [List.mem_singleton.mp listed]
    exact settingsOf_keepsWorker workerId
  have proceeds : proceed config runningCluster settings ended [settingsOf workerId] caller =
      runWorker config runningCluster settings ended (settingsOf workerId) := by
    rcases forks with rfl | rfl
    · rfl
    · simp [proceed,settingsOf]
  have taken : step config runningCluster s read =
      some (runWorker config runningCluster settings ended (settingsOf workerId)) := by
    simp only [read,step,found]
    exact congrArg some proceeds
  refine ⟨[read],_,?_,(Transition.run_cons s _ read []).mpr ⟨_,taken,rfl⟩,?_⟩
  · intro action member
    rw [List.mem_singleton.mp member]
    exact ⟨plain,not_false⟩
  · rw [runWorker_forksOf (s := ended) settings (settingsOf workerId) (settingsOf_keepsWorker workerId) known]
    simp [ended,settingsOf,State.forksOf]

private theorem wakes_task (known : s.registered = true) (i : Nat) (task : Task) (found : s.tasks[i]? = some task)
    (forks : task.caller = .runCluster ∨ task.caller = .startWorker workerId) :
    Wakes config runningCluster s workerId := by
  obtain ⟨caller,settings⟩ := task
  cases settings with
  | some settings => exact wakes_reading known i caller settings found forks
  | none =>
    let settings : ClusterSettings := ⟨"","",none⟩
    have bound : i < s.tasks.length := (List.getElem?_eq_some_iff.mp found).1
    have taken : step config runningCluster s (.getSettings i (some settings)) =
        some { s with tasks := s.tasks.set i ⟨caller,some settings⟩ } := by simp only [step,found]
    apply Wakes.before (.getSettings i (some settings)) ⟨trivial,not_false⟩ taken rfl
    exact wakes_reading known i caller settings (List.getElem?_set_self bound) forks

private theorem wakes_starting (known : s.registered = true) :
    Wakes config runningCluster (s.startWorker workerId) workerId :=
  wakes_task known s.tasks.length ⟨.startWorker workerId,none⟩ (by simp [State.startWorker]) (Or.inr rfl)

private theorem wakes_timer (known : s.registered = true) (k : Nat) (found : s.timers[k]? = some workerId) :
    Wakes config runningCluster s workerId := by
  have taken : step config runningCluster s (.fire k) =
      some ({ s with timers := s.timers.eraseIdx k }.startWorker workerId) := by simp only [step,found]
  apply Wakes.before (.fire k) ⟨trivial,not_false⟩ taken rfl
  exact wakes_starting (s := { s with timers := s.timers.eraseIdx k }) known

private theorem wakes_dead (inv : Inv s) (k : Nat) (entry : Entry) (death : Death) (found : s.workers[k]? = some entry)
    (named : entry.worker = some workerId) (dead : entry.death = some death)
    (survives : death.signal ≠ some STOP_WORKER) : Wakes config runningCluster s workerId := by
  have listed := List.mem_of_getElem? found
  have known := inv.registered (Or.inl (List.ne_nil_of_mem listed))
  have same : entry.workerSettings.workerId = workerId :=
    Option.some.inj ((inv.named entry listed).symm.trans named)
  have taken : step config runningCluster s (.exit k) = some (exited s (s.workers.eraseIdx k) entry death) := by
    simp only [step,found,dead]
  apply Wakes.before (.exit k) ⟨trivial,not_false⟩ taken (exited_forks s _ entry death)
  unfold exited
  rw [if_neg survives,same]
  split
  next => exact wakes_starting (s := { s with workers := s.workers.eraseIdx k }) known
  next => exact wakes_timer known s.timers.length (by simp)

private theorem wakes_process (inv : Inv s) (k : Nat) (entry : Entry) (found : s.workers[k]? = some entry)
    (named : entry.worker = some workerId) (survives : entry.killed = false) :
    Wakes config runningCluster s workerId := by
  cases dead : entry.death with
  | some death =>
    simp only [Entry.killed,dead,decide_eq_false_iff_not] at survives
    exact wakes_dead inv k entry death found named dead survives
  | none =>
    let death : Death := ⟨some 1,none⟩
    have bound : k < s.workers.length := (List.getElem?_eq_some_iff.mp found).1
    have taken : step config runningCluster s (.die k death) =
        some { s with workers := s.workers.set k { entry with death := some death } } := by
      simp only [step,found,dead,if_true]
    apply Wakes.before (.die k death) ⟨trivial,not_false⟩ taken rfl
    have plain : Plain (.die k death) := trivial
    have listed := inv_step inv plain taken
    exact wakes_dead listed k { entry with death := some death } death
      (List.getElem?_set_self bound) named rfl (by simp [death])

private theorem wakes_of_not_silent (config : TClusterConfig) (runningCluster : ClusterInterface) (inv : Inv s)
    (loud : ¬ Silent s workerId) : Wakes config runningCluster s workerId := by
  by_contra asleep
  apply loud
  refine ⟨?_,?_,?_⟩
  · intro task listed
    have known := inv.registered (Or.inr (Or.inl (List.ne_nil_of_mem listed)))
    obtain ⟨i,found⟩ := List.mem_iff_getElem?.mp listed
    exact ⟨fun all => asleep (wakes_task known i task found (Or.inl all)),
      fun this => asleep (wakes_task known i task found (Or.inr this))⟩
  · intro planned
    have known := inv.registered (Or.inr (Or.inr (List.ne_nil_of_mem planned)))
    obtain ⟨k,found⟩ := List.mem_iff_getElem?.mp planned
    exact asleep (wakes_timer known k found)
  · intro entry listed named
    obtain ⟨k,found⟩ := List.mem_iff_getElem?.mp listed
    by_contra survives
    exact asleep (wakes_process inv k entry found named (Bool.eq_false_iff.mpr survives))

private theorem stop_sticky_iff (config : TClusterConfig) (runningCluster : ClusterInterface) (inv : Inv s) :
    (∀ later t, (∀ action ∈ later, Leaves workerId action) →
      Transition.run (step config runningCluster) s (.setWorkerState workerId false :: later) = some t →
      t.forksOf workerId = s.forksOf workerId) ↔ Quiet s workerId := by
  have stopped := stop_inv inv workerId
  have forks : (setWorkerState s workerId false).forksOf workerId = s.forksOf workerId := by
    rw [State.forksOf,setWorkerState_forks]
    rfl
  rw [← silent_stop inv workerId]
  constructor
  · intro sticks
    by_contra loud
    obtain ⟨later,t,leaves,ran,more⟩ := wakes_of_not_silent config runningCluster stopped loud
    have same := sticks later t leaves ((Transition.run_cons s t _ later).mpr ⟨_,rfl,ran⟩)
    omega
  · intro silent later t leaves ran
    obtain ⟨next,taken,ran⟩ := (Transition.run_cons s t _ later).mp ran
    cases taken
    rw [← forks]
    exact silent_run stopped silent later leaves ran

private theorem inv_service {clusters : Nat → ClusterInterface} {actions : List (Nat × Action)} {s : Nat → State}
    (plain : ∀ label ∈ actions, Plain label.2)
    (ran : Transition.run (service config clusters) (fun _ => State.initial) actions = some s) (cluster : Nat) :
    Inv (s cluster) := by
  have alone := Transition.run_labelsOf (fun _ => State.initial) s actions ran cluster
  have plainly : ∀ action ∈ Transition.labelsOf cluster actions, Plain action := fun action member =>
    plain (cluster,action) ((Transition.mem_labelsOf cluster actions action).mp member)
  exact Transition.run_invariant_meeting Inv (fun _ action => Plain action)
    (fun _ _ _ inv plain taken => inv_step inv plain taken) State.initial (s cluster) _ inv_initial
    (Transition.meets_of_labels plainly) alone

/-- After a stop no process of the worker is forked until it is asked for again, whatever
the clusters, the operator and the timers do, iff the stop met the worker quiet. -/
theorem stop_is_sticky (config : TClusterConfig) (clusters : Nat → ClusterInterface)
    (actions : List (Nat × Action)) (s : Nat → State) (plain : ∀ label ∈ actions, Plain label.2)
    (ran : Transition.run (service config clusters) (fun _ => State.initial) actions = some s)
    (cluster : Nat) (workerId : String) :
    (∀ later t, (∀ label ∈ later, Plain label.2 ∧ ¬ (label.1 = cluster ∧ Starts workerId label.2)) →
      Transition.run (service config clusters) s ((cluster,.setWorkerState workerId false) :: later) = some t →
      (t cluster).forksOf workerId = (s cluster).forksOf workerId) ↔ Quiet (s cluster) workerId := by
  rw [← stop_sticky_iff config (clusters cluster) (inv_service plain ran cluster)]
  constructor
  · intro sticks later t leaves alone
    have together : Transition.run (service config clusters) s _ = _ :=
      Transition.run_indexed (fun cluster => step config (clusters cluster)) s cluster t _ alone
    have same := sticks (later.map (fun action => (cluster,action))) _ ?_ together
    · rwa [Function.update_self] at same
    · intro label member
      obtain ⟨action,inside,rfl⟩ := List.mem_map.mp member
      obtain ⟨names,started⟩ := leaves action inside
      exact ⟨names,fun asked => started asked.2⟩
  · intro sticks later t leaves together
    have alone := Transition.run_labelsOf s t _ together cluster
    have first : Transition.labelsOf cluster ((cluster,Action.setWorkerState workerId false) :: later) =
        .setWorkerState workerId false :: Transition.labelsOf cluster later := by
      simp [Transition.labelsOf]
    rw [first] at alone
    refine sticks _ (t cluster) (fun action member => ?_) alone
    have inside := (Transition.mem_labelsOf cluster later action).mp member
    obtain ⟨names,started⟩ := leaves _ inside
    exact ⟨names,fun asked => started ⟨rfl,asked⟩⟩

theorem stop_of_running_worker_sticks : ∃ s,
    Transition.run (service ⟨3000⟩ (fun _ => .withoutHook)) (fun _ => State.initial) (onFirst started) = some s ∧
    (s 0).running "w1" = 1 ∧
    ∀ later t, (∀ label ∈ later, Plain label.2 ∧ ¬ (label.1 = 0 ∧ Starts "w1" label.2)) →
      Transition.run (service ⟨3000⟩ (fun _ => .withoutHook)) s ((0,.setWorkerState "w1" false) :: later) = some t →
      (t 0).forksOf "w1" = (s 0).forksOf "w1" :=
  ⟨_,rfl,rfl,(stop_is_sticky ⟨3000⟩ (fun _ => .withoutHook) (onFirst started) _ (by decide) rfl 0 "w1").mpr
    ⟨by decide,by decide,by decide⟩⟩

theorem stopped_worker_restarts : ∃ s t,
    Transition.run (service ⟨3000⟩ (fun _ => .withoutHook)) (fun _ => State.initial)
      (onFirst startedAndDied) = some s ∧
    Transition.run (service ⟨3000⟩ (fun _ => .withoutHook)) s
      (onFirst (.setWorkerState "w1" false :: .fire 0 :: reads 0)) = some t ∧
    (s 0).forksOf "w1" = 1 ∧ (t 0).forksOf "w1" = 2 :=
  ⟨_,_,rfl,rfl,rfl,rfl⟩

end BoarPack.Cluster
