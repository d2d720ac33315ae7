import BoarPack.Cluster.Service

/-! What each event of a cluster does to the processes of a worker, to its pending
starts and to the processes ever forked for it. -/
namespace BoarPack.Cluster
open Containers

/-- The step function read backwards, one constructor for each event. -/
inductive Taken (config : TClusterConfig) (runningCluster : ClusterInterface) (s : State) :
    Action → State → Prop
  | addCluster : Taken config runningCluster s .addCluster { s with registered := true }
  | runCluster (known : s.registered) :
      Taken config runningCluster s .runCluster { s with tasks := s.tasks ++ [⟨.runCluster,none⟩] }
  | commanded (workerId : String) (state : Bool) :
      Taken config runningCluster s (.setWorkerState workerId state) (setWorkerState s workerId state)
  | settingsRejected (i : Nat) (caller : Caller) (found : s.tasks[i]? = some ⟨caller,none⟩) :
      Taken config runningCluster s (.getSettings i none) { s with tasks := s.tasks.eraseIdx i }
  | settingsRead (i : Nat) (caller : Caller) (settings : ClusterSettings)
      (found : s.tasks[i]? = some ⟨caller,none⟩) :
      Taken config runningCluster s (.getSettings i (some settings))
        { s with tasks := s.tasks.set i ⟨caller,some settings⟩ }
  | listRejected (i : Nat) (caller : Caller) (settings : ClusterSettings)
      (found : s.tasks[i]? = some ⟨caller,some settings⟩) :
      Taken config runningCluster s (.getWorkersSettings i none) { s with tasks := s.tasks.eraseIdx i }
  | listRead (i : Nat) (caller : Caller) (settings : ClusterSettings) (list : List WorkerSettings)
      (found : s.tasks[i]? = some ⟨caller,some settings⟩) :
      Taken config runningCluster s (.getWorkersSettings i (some list))
        (proceed config runningCluster settings { s with tasks := s.tasks.eraseIdx i } list caller)
  | died (k : Nat) (entry : Entry) (death : Death) (found : s.workers[k]? = some entry)
      (alive : entry.death = none) :
      Taken config runningCluster s (.die k death)
        { s with workers := s.workers.set k { entry with death := some death } }
  | exited (k : Nat) (entry : Entry) (death : Death) (found : s.workers[k]? = some entry)
      (dead : entry.death = some death) :
      Taken config runningCluster s (.exit k) (exited s (s.workers.eraseIdx k) entry death)
  | fired (k : Nat) (workerId : String) (found : s.timers[k]? = some workerId) :
      Taken config runningCluster s (.fire k) ({ s with timers := s.timers.eraseIdx k }.startWorker workerId)

variable {config : TClusterConfig} {runningCluster : ClusterInterface} {s t : State}

theorem step_taken {action : Action} (taken : step config runningCluster s action = some t) :
    Taken config runningCluster s action t := by
  cases action with
  | addCluster => cases taken; exact .addCluster
  | runCluster =>
    simp only [step] at taken
    split at taken
    next known => cases taken; exact .runCluster known
    next => cases taken
  | setWorkerState workerId state => cases taken; exact .commanded workerId state
  | getSettings i reply =>
    simp only [step] at taken
    split at taken
    next caller found =>
      cases reply with
      | none => cases taken; exact .settingsRejected i caller found
      | some settings => cases taken; exact .settingsRead i caller settings found
    next => cases taken
  | getWorkersSettings i reply =>
    simp only [step] at taken
    split at taken
    next caller settings found =>
      cases reply with
      | none => cases taken; exact .listRejected i caller settings found
      | some list => cases taken; exact .listRead i caller settings list found
    next => cases taken
  | die k death =>
    simp only [step] at taken
    split at taken
    next entry found =>
      split at taken
      next alive => cases taken; exact .died k entry death found alive
      next => cases taken
    next => cases taken
  | exit k =>
    simp only [step] at taken
    split at taken
    next entry found =>
      split at taken
      next death dead => cases taken; exact .exited k entry death found dead
      next => cases taken
    next => cases taken
  | fire k =>
    simp only [step] at taken
    split at taken
    next workerId found => cases taken; exact .fired k workerId found
    next => cases taken

theorem worker_forked (config : TClusterConfig) (runningCluster : ClusterInterface) (clusterSettings : ClusterSettings)
    (settings : WorkerSettings)
    (plain : settings.KeepsWorker) :
    (forked config runningCluster clusterSettings settings).worker = some settings.workerId := by
  have spread := get_assign [("APP_ROLE",clusterSettings.appRole),("WORKER",settings.workerId),
    ("WORKER_NAME",workerName settings)] (settings.extraEnv.getD []) "WORKER" settings.workerId
    (by simp [Containers.get]) plain
  simp only [Entry.worker,forked,runningCluster.keepsWorker,workerVars]
  split
  next => exact spread
  next port _ =>
    rw [get_set_other _ "PORT" "WORKER" port (by decide)]
    exact spread

theorem running_startWorker (s : State) (other workerId : String) :
    (s.startWorker other).running workerId = s.running workerId := rfl

theorem starting_startWorker (s : State) (other workerId : String) :
    (s.startWorker other).starting workerId = s.starting workerId + if other = workerId then 1 else 0 := by
  simp only [State.starting,State.startWorker,List.countP_append,List.countP_cons,List.countP_nil,
    Caller.startWorker.injEq,decide_eq_true_eq]
  omega

theorem starting_ended (s : State) (i : Nat) (task : Task) (workerId : String) (found : s.tasks[i]? = some task) :
    ({ s with tasks := s.tasks.eraseIdx i } : State).starting workerId +
      (if task.caller = .startWorker workerId then 1 else 0) = s.starting workerId := by
  have erased := countP_eraseIdx (fun task => decide (task.caller = .startWorker workerId)) s.tasks i task found
  simp only [State.starting,decide_eq_true_eq] at erased ⊢
  omega

theorem starting_set (s : State) (i : Nat) (task answered : Task) (workerId : String)
    (found : s.tasks[i]? = some task) (same : answered.caller = task.caller) :
    ({ s with tasks := s.tasks.set i answered } : State).starting workerId = s.starting workerId := by
  have counted := countP_set_same (fun task => decide (task.caller = .startWorker workerId)) s.tasks i
    task answered found (by rw [same])
  simp only [State.starting,counted]

theorem runWorker_starting (config : TClusterConfig) (runningCluster : ClusterInterface)
    (clusterSettings : ClusterSettings) (s : State) (settings : WorkerSettings) (workerId : String) :
    (runWorker config runningCluster clusterSettings s settings).starting workerId = s.starting workerId := by
  unfold runWorker
  split <;> rfl

theorem runWorker_running (config : TClusterConfig) (runningCluster : ClusterInterface)
    (clusterSettings : ClusterSettings) (s : State) (settings : WorkerSettings) (workerId : String)
    (plain : settings.KeepsWorker) :
    (runWorker config runningCluster clusterSettings s settings).running workerId ≤
      s.running workerId + if settings.workerId = workerId then 1 else 0 := by
  have named := worker_forked config runningCluster clusterSettings settings plain
  unfold runWorker
  split
  next => simp [State.running,named]
  next => exact Nat.le_add_right _ _

theorem runWorkers_starting (config : TClusterConfig) (runningCluster : ClusterInterface)
    (clusterSettings : ClusterSettings) (s : State) (list : List WorkerSettings) (workerId : String) :
    (list.foldl (runWorker config runningCluster clusterSettings) s).starting workerId = s.starting workerId := by
  induction list generalizing s with
  | nil => rfl
  | cons settings rest ih => rw [List.foldl_cons,ih,runWorker_starting]

theorem runWorkers_running (config : TClusterConfig) (runningCluster : ClusterInterface)
    (clusterSettings : ClusterSettings) (s : State) (list : List WorkerSettings) (workerId : String)
    (plain : ∀ settings ∈ list, settings.KeepsWorker) :
    (list.foldl (runWorker config runningCluster clusterSettings) s).running workerId ≤
      s.running workerId + list.countP (fun settings => settings.workerId = workerId) := by
  induction list generalizing s with
  | nil => exact Nat.le_refl _
  | cons settings rest ih =>
    have first := runWorker_running config runningCluster clusterSettings s settings workerId
      (plain settings List.mem_cons_self)
    have others := ih (runWorker config runningCluster clusterSettings s settings)
      (fun other member => plain other (List.mem_cons_of_mem _ member))
    simp only [List.foldl_cons,List.countP_cons,decide_eq_true_eq]
    omega

private theorem stopWorker_worker (workerId : String) (workers : List Entry) :
    (stopWorker workerId workers).map (fun entry => (entry.worker,entry.workerSettings)) =
      workers.map (fun entry => (entry.worker,entry.workerSettings)) := by
  induction workers with
  | nil => rfl
  | cons entry rest ih =>
    unfold stopWorker
    split
    next => split <;> rfl
    next => simp only [List.map_cons,ih]

private theorem stopWorker_absent (workerId : String) (workers : List Entry)
    (absent : ∀ entry ∈ workers, entry.worker ≠ some workerId) : stopWorker workerId workers = workers := by
  induction workers with
  | nil => rfl
  | cons entry rest ih =>
    rw [stopWorker,if_neg (absent entry List.mem_cons_self),
      ih (fun other member => absent other (List.mem_cons_of_mem _ member))]

theorem setWorkerState_stop (s : State) (workerId : String) :
    setWorkerState s workerId false =
      if s.registered then { s with workers := stopWorker workerId s.workers } else s := by
  unfold setWorkerState
  by_cases known : s.registered
  · rw [if_neg (not_not.mpr known),if_pos known]
    split
    next absent =>
      have same := stopWorker_absent workerId s.workers (by simpa using absent)
      simp [same]
    next => simp
  · rw [if_pos known,if_neg known]

theorem stop_running (s : State) (other workerId : String) :
    (setWorkerState s other false).running workerId = s.running workerId := by
  rw [setWorkerState_stop]
  split
  next =>
    have same := congrArg (List.countP (fun pair => decide (pair.1 = some workerId)))
      (stopWorker_worker other s.workers)
    rw [List.countP_map,List.countP_map] at same
    exact same
  next => rfl

theorem stop_starting (s : State) (other workerId : String) :
    (setWorkerState s other false).starting workerId = s.starting workerId := by
  rw [setWorkerState_stop]
  split <;> rfl

theorem exited_running (s : State) (k : Nat) (entry : Entry) (death : Death) (workerId : String)
    (found : s.workers[k]? = some entry) :
    (exited s (s.workers.eraseIdx k) entry death).running workerId +
      (if entry.worker = some workerId then 1 else 0) = s.running workerId := by
  have taken := countP_eraseIdx (fun entry => decide (entry.worker = some workerId)) s.workers k entry found
  simp only [decide_eq_true_eq] at taken
  unfold exited
  split
  next => exact taken
  next => split <;> exact taken

theorem exited_starting (s : State) (rest : List Entry) (entry : Entry) (death : Death) (workerId : String) :
    (exited s rest entry death).starting workerId ≤
      s.starting workerId + if entry.workerSettings.workerId = workerId then 1 else 0 := by
  unfold exited
  split
  next => exact Nat.le_add_right _ _
  next =>
    split
    next => exact Nat.le_of_eq (starting_startWorker { s with workers := rest } _ workerId)
    next =>
      simp only [State.starting,List.countP_append,List.countP_cons,List.countP_nil,decide_eq_true_eq]
      omega

/-- Every process is listed under the id of its settings, and nothing happens in a
cluster before it is registered. -/
structure Inv (s : State) : Prop where
  named : ∀ entry ∈ s.workers, entry.worker = some entry.workerSettings.workerId
  idle : s.registered = false → s.workers = [] ∧ s.tasks = [] ∧ s.timers = []

theorem inv_initial : Inv State.initial :=
  ⟨fun _ listed => absurd listed List.not_mem_nil,fun _ => ⟨rfl,rfl,rfl⟩⟩

theorem Inv.registered (inv : Inv s) (busy : s.workers ≠ [] ∨ s.tasks ≠ [] ∨ s.timers ≠ []) :
    s.registered = true := by
  by_contra unknown
  obtain ⟨workers,tasks,timers⟩ := inv.idle (Bool.eq_false_iff.mpr unknown)
  simp [workers,tasks,timers] at busy

theorem Inv.runWorker (inv : Inv s) (clusterSettings : ClusterSettings) (settings : WorkerSettings)
    (plain : settings.KeepsWorker) :
    Inv (runWorker config runningCluster clusterSettings s settings) := by
  unfold Cluster.runWorker
  split
  next known =>
    refine ⟨?_,fun unknown => absurd known (Bool.eq_false_iff.mp unknown)⟩
    intro entry listed
    obtain old | new := List.mem_append.mp listed
    · exact inv.named entry old
    · rw [List.mem_singleton.mp new]
      exact worker_forked config runningCluster clusterSettings settings plain
  next => exact inv

theorem Inv.runWorkers (inv : Inv s) (clusterSettings : ClusterSettings) (list : List WorkerSettings)
    (plain : ∀ settings ∈ list, settings.KeepsWorker) :
    Inv (list.foldl (Cluster.runWorker config runningCluster clusterSettings) s) := by
  induction list generalizing s with
  | nil => exact inv
  | cons settings rest ih =>
    apply ih
    · exact inv.runWorker clusterSettings settings (plain settings List.mem_cons_self)
    · exact fun other member => plain other (List.mem_cons_of_mem _ member)

theorem Inv.change (named : ∀ entry ∈ t.workers, entry.worker = some entry.workerSettings.workerId)
    (known : t.registered = true) : Inv t :=
  ⟨named,fun unknown => absurd known (Bool.eq_false_iff.mp unknown)⟩

theorem stop_inv (inv : Inv s) (workerId : String) : Inv (setWorkerState s workerId false) := by
  rw [setWorkerState_stop]
  split
  next known =>
    refine Inv.change (fun entry listed => ?_) known
    have pair := List.mem_map_of_mem (f := fun entry => (entry.worker,entry.workerSettings)) listed
    rw [stopWorker_worker] at pair
    obtain ⟨before,member,same⟩ := List.mem_map.mp pair
    obtain ⟨worker,settings⟩ := Prod.mk.inj same
    rw [← worker,← settings]
    exact inv.named before member
  next => exact inv

private theorem setWorkerState_inv (inv : Inv s) (workerId : String) (state : Bool) :
    Inv (setWorkerState s workerId state) := by
  cases state with
  | false => exact stop_inv inv workerId
  | true =>
    unfold setWorkerState
    split
    next => exact inv
    next known =>
      split
      next => exact Inv.change inv.named (not_not.mp known)
      next => exact inv

private theorem exited_inv (inv : Inv s) (k : Nat) (entry : Entry) (death : Death) (known : s.registered = true) :
    Inv (exited s (s.workers.eraseIdx k) entry death) := by
  have named : ∀ entry ∈ s.workers.eraseIdx k, entry.worker = some entry.workerSettings.workerId :=
    fun entry listed => inv.named entry (List.mem_of_mem_eraseIdx listed)
  unfold exited
  split
  next => exact Inv.change named known
  next => split <;> exact Inv.change named known

private theorem proceed_inv (inv : Inv s) (clusterSettings : ClusterSettings) (list : List WorkerSettings)
    (caller : Caller) (plain : ∀ settings ∈ list, settings.KeepsWorker) :
    Inv (proceed config runningCluster clusterSettings s list caller) := by
  cases caller with
  | runCluster => exact inv.runWorkers clusterSettings list plain
  | startWorker workerId =>
    simp only [proceed]
    split
    next => exact inv
    next settings found =>
      exact inv.runWorker clusterSettings settings (plain settings (List.mem_of_find?_eq_some found))

theorem inv_step {action : Action} (inv : Inv s) (plain : Plain action)
    (taken : step config runningCluster s action = some t) : Inv t := by
  have busy {A : Type} {pool : List A} {i : Nat} {x : A} (found : pool[i]? = some x) : pool ≠ [] := by
    rintro rfl
    cases found
  cases step_taken taken with
  | addCluster => exact Inv.change inv.named rfl
  | runCluster known => exact Inv.change inv.named known
  | commanded workerId state => exact setWorkerState_inv inv workerId state
  | settingsRejected i caller found =>
    exact Inv.change inv.named (inv.registered (Or.inr (Or.inl (busy found))))
  | settingsRead i caller settings found =>
    exact Inv.change inv.named (inv.registered (Or.inr (Or.inl (busy found))))
  | listRejected i caller settings found =>
    exact Inv.change inv.named (inv.registered (Or.inr (Or.inl (busy found))))
  | listRead i caller settings list found =>
    have erased := Inv.change (t := { s with tasks := s.tasks.eraseIdx i }) inv.named
      (inv.registered (Or.inr (Or.inl (busy found))))
    exact proceed_inv erased settings list caller plain
  | died k entry death found alive =>
    refine Inv.change (fun other listed => ?_) (inv.registered (Or.inl (busy found)))
    obtain old | rfl := List.mem_or_eq_of_mem_set listed
    · exact inv.named other old
    · exact inv.named entry (List.mem_of_getElem? found)
  | exited k entry death found dead =>
    exact exited_inv inv k entry death (inv.registered (Or.inl (busy found)))
  | fired k workerId found =>
    exact Inv.change inv.named (inv.registered (Or.inr (Or.inr (busy found))))

def firstWorker : WorkerSettings := ⟨"w1",none,some 1,none,none⟩

def firstCluster : ClusterSettings := ⟨"c1","test-role",some 500⟩

def reads (i : Nat) : List Action := [.getSettings i (some firstCluster),.getWorkersSettings i (some [firstWorker])]

def started : List Action := [.addCluster,.runCluster] ++ reads 0

def startedAndDied : List Action := started ++ [.die 0 ⟨some 1,none⟩,.exit 0]

def onFirst (actions : List Action) : List (Nat × Action) := actions.map (fun action => (0,action))

end BoarPack.Cluster
