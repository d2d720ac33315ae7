import BoarPack.Library.Containers
import BoarPack.Library.Transition

/-! `ClusterService`: the table of forked processes of each registered cluster, the
commands that start, update and stop a worker, and the exit handler. A task is a call
suspended in one of its two settings reads; a timer is a pending `setTimeout` of the
exit handler. -/
namespace BoarPack.Cluster
open Containers

abbrev Vars := List (String × String)

structure WorkerSettings where
  workerId : String
  workerName : Option String
  portIncrement : Option Int
  port : Option Int
  extraEnv : Option Vars
  deriving DecidableEq, Repr

structure ClusterSettings where
  clusterId : String
  appRole : String
  restartDelay : Option Nat
  deriving DecidableEq, Repr

/-- The hook is given the variables and may write to them, but the name under which
the service keeps the process is not its to change. -/
structure ClusterInterface where
  onWorkerRun : WorkerSettings → Vars → Vars
  keepsWorker : ∀ settings vars, get (onWorkerRun settings vars) "WORKER" = get vars "WORKER"

def ClusterInterface.withoutHook : ClusterInterface := ⟨fun _ vars => vars,fun _ _ => rfl⟩

structure TClusterConfig where
  port : Int

def STOP_WORKER : String := "SIGKILL"

structure Death where
  code : Option Nat
  signal : Option String
  deriving DecidableEq, Repr

/-- A process of the table; `workerSettings` and `restartDelay` are what its exit
handler has captured. Between its death and the `exit` event it is still listed. -/
structure Entry where
  workerVars : Vars
  workerSettings : WorkerSettings
  restartDelay : Option Nat
  death : Option Death
  deriving DecidableEq, Repr

def Entry.worker (entry : Entry) : Option String := get entry.workerVars "WORKER"

inductive Caller
  | startWorker (workerId : String)
  | runCluster
  deriving DecidableEq, Repr

/-- `clusterSettings` is absent until `getSettings` has answered. -/
structure Task where
  caller : Caller
  clusterSettings : Option ClusterSettings
  deriving DecidableEq, Repr

/-- One cluster; `forks` lists the variables of every process forked so far. -/
structure State where
  registered : Bool
  workers : List Entry
  tasks : List Task
  timers : List String
  forks : List Vars
  deriving DecidableEq, Repr

def State.initial : State := ⟨false,[],[],[],[]⟩

def State.startWorker (s : State) (workerId : String) : State :=
  { s with tasks := s.tasks ++ [⟨.startWorker workerId,none⟩] }

def workerName (settings : WorkerSettings) : String :=
  match settings.workerName with
  | none => settings.workerId
  | some name => if name = "" then settings.workerId else name

/-- A port of 0 is falsy. -/
def portVar (config : TClusterConfig) (settings : WorkerSettings) : Option String :=
  match settings.port, settings.portIncrement with
  | none, none => none
  | none, some increment => some (toString (config.port + increment))
  | some port, none => if port = 0 then none else some (toString port)
  | some port, some increment =>
    if port = 0 then some (toString (config.port + increment)) else some (toString port)

def workerVars (config : TClusterConfig) (clusterSettings : ClusterSettings)
    (settings : WorkerSettings) : Vars :=
  let vars := assign [("APP_ROLE",clusterSettings.appRole),("WORKER",settings.workerId),
    ("WORKER_NAME",workerName settings)] (settings.extraEnv.getD [])
  match portVar config settings with
  | none => vars
  | some port => set vars "PORT" port

def forked (config : TClusterConfig) (runningCluster : ClusterInterface)
    (clusterSettings : ClusterSettings) (settings : WorkerSettings) : Entry where
  workerVars := runningCluster.onWorkerRun settings (workerVars config clusterSettings settings)
  workerSettings := settings
  restartDelay := clusterSettings.restartDelay
  death := none

def runWorker (config : TClusterConfig) (runningCluster : ClusterInterface)
    (clusterSettings : ClusterSettings) (s : State) (settings : WorkerSettings) : State :=
  let entry := forked config runningCluster clusterSettings settings
  if s.registered then
    { s with workers := s.workers ++ [entry], forks := s.forks ++ [entry.workerVars] }
  else s

/-- `worker.kill(STOP_WORKER)` on the first process listed under the id. The signal
changes nothing for a process that is dead already. -/
def stopWorker (workerId : String) : List Entry → List Entry
  | [] => []
  | entry :: rest =>
    if entry.worker = some workerId then
      match entry.death with
      | none => { entry with death := some ⟨none,some STOP_WORKER⟩ } :: rest
      | some _ => entry :: rest
    else entry :: stopWorker workerId rest

/-- An update sends SIGTERM; the process dies of it, or otherwise, in its own time. -/
def setWorkerState (s : State) (workerId : String) (state : Bool) : State :=
  -- NotFoundException
  if ¬ s.registered then s
  else match s.workers.find? (fun entry => entry.worker = some workerId) with
    | none => if state then s.startWorker workerId else s
    | some _ => if state then s else { s with workers := stopWorker workerId s.workers }

def exited (s : State) (rest : List Entry) (entry : Entry) (death : Death) : State :=
  if death.signal = some STOP_WORKER then { s with workers := rest }
  else match entry.restartDelay with
    | none => { s with workers := rest }.startWorker entry.workerSettings.workerId
    | some _ => { s with workers := rest, timers := s.timers ++ [entry.workerSettings.workerId] }

def proceed (config : TClusterConfig) (runningCluster : ClusterInterface)
    (clusterSettings : ClusterSettings) (s : State) (list : List WorkerSettings) : Caller → State
  | .startWorker workerId =>
    match list.find? (fun settings => settings.workerId = workerId) with
    -- NotFoundException
    | none => s
    | some settings => runWorker config runningCluster clusterSettings s settings
  | .runCluster => list.foldl (runWorker config runningCluster clusterSettings) s

/-- The events of one cluster. A settings read that rejects ends its task. -/
inductive Action
  | addCluster
  | runCluster
  | setWorkerState (workerId : String) (state : Bool)
  | getSettings (i : Nat) (reply : Option ClusterSettings)
  | getWorkersSettings (i : Nat) (reply : Option (List WorkerSettings))
  | die (k : Nat) (death : Death)
  | exit (k : Nat)
  | fire (k : Nat)
  deriving DecidableEq, Repr

def step (config : TClusterConfig) (runningCluster : ClusterInterface) (s : State) : Action → Option State
  | .addCluster => some { s with registered := true }
  | .runCluster =>
    if s.registered then some { s with tasks := s.tasks ++ [⟨.runCluster,none⟩] } else none
  | .setWorkerState workerId state => some (setWorkerState s workerId state)
  | .getSettings i reply =>
    match s.tasks[i]? with
    | some ⟨caller,none⟩ => match reply with
      | none => some { s with tasks := s.tasks.eraseIdx i }
      | some settings => some { s with tasks := s.tasks.set i ⟨caller,some settings⟩ }
    | _ => none
  | .getWorkersSettings i reply =>
    match s.tasks[i]? with
    | some ⟨caller,some clusterSettings⟩ =>
      let ended := { s with tasks := s.tasks.eraseIdx i }
      match reply with
      | none => some ended
      | some list => some (proceed config runningCluster clusterSettings ended list caller)
    | _ => none
  | .die k death =>
    match s.workers[k]? with
    | some entry =>
      if entry.death = none then
        some { s with workers := s.workers.set k { entry with death := some death } }
      else none
    | none => none
  | .exit k =>
    match s.workers[k]? with
    | some entry => match entry.death with
      | some death => some (exited s (s.workers.eraseIdx k) entry death)
      | none => none
    | none => none
  | .fire k =>
    match s.timers[k]? with
    | some workerId => some ({ s with timers := s.timers.eraseIdx k }.startWorker workerId)
    | none => none

/-- All clusters of the service; `runClusters` is one `runCluster` for each. -/
def service (config : TClusterConfig) (clusters : Nat → ClusterInterface) :
    (Nat → State) → Nat × Action → Option (Nat → State) :=
  Transition.indexed (fun cluster => step config (clusters cluster))

/-- `extraEnv` is spread over the variables and could give the worker another name. -/
def WorkerSettings.KeepsWorker (settings : WorkerSettings) : Prop :=
  ∀ entry ∈ settings.extraEnv.getD [], entry.1 = "WORKER" → entry.2 = settings.workerId

instance (settings : WorkerSettings) : Decidable settings.KeepsWorker :=
  inferInstanceAs (Decidable (∀ entry ∈ settings.extraEnv.getD [], _))

def Plain : Action → Prop
  | .getWorkersSettings _ (some list) => ∀ settings ∈ list, settings.KeepsWorker
  | _ => True

instance : (action : Action) → Decidable (Plain action)
  | .getWorkersSettings _ (some list) => inferInstanceAs (Decidable (∀ settings ∈ list, _))
  | .getWorkersSettings _ none => isTrue trivial
  | .setWorkerState .. => isTrue trivial
  | .getSettings .. => isTrue trivial
  | .addCluster => isTrue trivial
  | .runCluster => isTrue trivial
  | .die .. => isTrue trivial
  | .exit _ => isTrue trivial
  | .fire _ => isTrue trivial

def State.running (s : State) (workerId : String) : Nat :=
  s.workers.countP (fun entry => entry.worker = some workerId)

/-- Calls of `startWorker` for the id that wait for a read or a timer. -/
def State.starting (s : State) (workerId : String) : Nat :=
  s.tasks.countP (fun task => task.caller = .startWorker workerId) +
    s.timers.countP (fun timer => timer = workerId)

def State.forksOf (s : State) (workerId : String) : Nat :=
  s.forks.countP (fun vars => get vars "WORKER" = some workerId)

end BoarPack.Cluster
