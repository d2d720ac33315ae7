import BoarPack.Cluster.Events

/-! A worker is meant to have one process at a time. What the table, the pending calls
and the timers hold for a worker together is at most one as long as a start is only
asked for while none is under way; `setWorkerState` looks in the table alone, and a
worker between two processes is not there. -/
namespace BoarPack.Cluster
open Containers

def Distinct : Action → Prop
  | .getWorkersSettings _ (some list) => (list.map WorkerSettings.workerId).Nodup
  | _ => True

instance : (action : Action) → Decidable (Distinct action)
  | .getWorkersSettings _ (some list) => inferInstanceAs (Decidable (list.map WorkerSettings.workerId).Nodup)
  | .getWorkersSettings _ none => isTrue trivial
  | .setWorkerState .. => isTrue trivial
  | .getSettings .. => isTrue trivial
  | .addCluster => isTrue trivial
  | .runCluster => isTrue trivial
  | .die .. => isTrue trivial
  | .exit _ => isTrue trivial
  | .fire _ => isTrue trivial

/-- No worker is asked to start while it is starting, and `runCluster` finds every
worker of its list neither started nor starting. -/
def StartsAlone (s : State) : Action → Prop
  | .setWorkerState workerId true => s.running workerId = 0 → s.starting workerId = 0
  | .getWorkersSettings i (some list) => ∀ task ∈ s.tasks[i]?, task.caller = .runCluster →
      ∀ settings ∈ list, s.running settings.workerId = 0 ∧ s.starting settings.workerId = 0
  | _ => True

instance (s : State) : (action : Action) → Decidable (StartsAlone s action)
  | .setWorkerState workerId true => inferInstanceAs (Decidable (_ → s.starting workerId = 0))
  | .setWorkerState _ false => isTrue trivial
  | .getWorkersSettings i (some _) => inferInstanceAs (Decidable (∀ task ∈ s.tasks[i]?, _))
  | .getWorkersSettings _ none => isTrue trivial
  | .getSettings .. => isTrue trivial
  | .addCluster => isTrue trivial
  | .runCluster => isTrue trivial
  | .die .. => isTrue trivial
  | .exit _ => isTrue trivial
  | .fire _ => isTrue trivial

def AtMostOne (s : State) : Prop := ∀ workerId, s.running workerId + s.starting workerId ≤ 1

variable {config : TClusterConfig} {runningCluster : ClusterInterface} {s t : State}

private theorem atMostOne_initial : AtMostOne State.initial := fun _ => Nat.zero_le 1

private theorem atMostOne_start (single : AtMostOne s) (workerId : String)
    (alone : s.running workerId = 0 → s.starting workerId = 0) :
    AtMostOne (setWorkerState s workerId true) := by
  intro other
  unfold setWorkerState
  split
  next => exact single other
  next =>
    split
    next absent =>
      have free : s.running workerId = 0 := by
        simpa [State.running,List.countP_eq_zero] using absent
      have idle := alone free
      have bound := single other
      simp only [if_true,running_startWorker,starting_startWorker]
      by_cases same : workerId = other
      · subst same
        simp [free,idle]
      · rw [if_neg same]
        exact bound
    next => exact single other

private theorem atMostOne_fork (single : AtMostOne s) (clusterSettings : ClusterSettings) (list : List WorkerSettings)
    (i : Nat) (caller : Caller) (found : s.tasks[i]? = some ⟨caller,some clusterSettings⟩)
    (plain : Plain (.getWorkersSettings i (some list))) (distinct : Distinct (.getWorkersSettings i (some list)))
    (alone : StartsAlone s (.getWorkersSettings i (some list))) :
    AtMostOne (proceed config runningCluster clusterSettings { s with tasks := s.tasks.eraseIdx i } list caller) := by
  intro other
  have bound := single other
  have place := starting_ended s i ⟨caller,some clusterSettings⟩ other found
  have same : ({ s with tasks := s.tasks.eraseIdx i } : State).running other = s.running other := rfl
  cases caller with
  | startWorker workerId =>
    simp only [proceed]
    split
    next =>
      rw [same]
      omega
    next settings chosen =>
      have member := List.mem_of_find?_eq_some chosen
      have named : settings.workerId = workerId := by simpa using List.find?_some chosen
      have grown := runWorker_running config runningCluster clusterSettings
        { s with tasks := s.tasks.eraseIdx i } settings other (plain settings member)
      rw [runWorker_starting]
      simp only [Caller.startWorker.injEq] at place
      rw [named] at grown
      omega
  | runCluster =>
    simp only [proceed]
    have grown := runWorkers_running config runningCluster clusterSettings
      { s with tasks := s.tasks.eraseIdx i } list other plain
    rw [runWorkers_starting]
    simp only [reduceCtorEq,if_false] at place
    by_cases listed : ∃ settings ∈ list, settings.workerId = other
    · obtain ⟨settings,member,rfl⟩ := listed
      have free := alone ⟨.runCluster,some clusterSettings⟩ found rfl settings member
      have once := countP_key_le_one WorkerSettings.workerId list distinct settings.workerId
      omega
    · have none_listed : list.countP (fun settings => settings.workerId = other) = 0 := by
        rw [List.countP_eq_zero]
        intro settings member same
        exact listed ⟨settings,member,of_decide_eq_true same⟩
      omega

private theorem atMostOne_ended (single : AtMostOne s) (i : Nat) (task : Task) (found : s.tasks[i]? = some task) :
    AtMostOne { s with tasks := s.tasks.eraseIdx i } := by
  intro other
  have bound := single other
  have ended := starting_ended s i task other found
  have same : ({ s with tasks := s.tasks.eraseIdx i } : State).running other = s.running other := rfl
  omega

private theorem atMostOne_step {action : Action} (inv : Inv s) (single : AtMostOne s) (plain : Plain action)
    (distinct : Distinct action) (alone : StartsAlone s action)
    (taken : step config runningCluster s action = some t) : AtMostOne t := by
  cases step_taken taken with
  | addCluster => exact single
  | runCluster known =>
    intro other
    have bound := single other
    simpa [State.running,State.starting] using bound
  | commanded workerId state =>
    cases state with
    | false =>
      intro other
      rw [stop_running,stop_starting]
      exact single other
    | true => exact atMostOne_start single workerId alone
  | settingsRejected i caller found => exact atMostOne_ended single i ⟨caller,none⟩ found
  | settingsRead i caller settings found =>
    intro other
    rw [starting_set s i ⟨caller,none⟩ ⟨caller,some settings⟩ other found rfl]
    exact single other
  | listRejected i caller settings found => exact atMostOne_ended single i ⟨caller,some settings⟩ found
  | listRead i caller settings list found =>
    exact atMostOne_fork single settings list i caller found plain distinct alone
  | died k entry death found alive =>
    intro other
    have same := countP_set_same (fun entry => decide (entry.worker = some other)) s.workers k entry
      { entry with death := some death } found rfl
    have bound := single other
    simp only [State.running,State.starting,same] at bound ⊢
    exact bound
  | exited k entry death found dead =>
    intro other
    have bound := single other
    have gone := exited_running s k entry death other found
    have planned := exited_starting s (s.workers.eraseIdx k) entry death other
    simp only [inv.named entry (List.mem_of_getElem? found),Option.some.injEq] at gone
    omega
  | fired k workerId found =>
    intro other
    have bound := single other
    have erased := countP_eraseIdx (fun timer => decide (timer = other)) s.timers k workerId found
    simp only [decide_eq_true_eq] at erased
    rw [running_startWorker,starting_startWorker]
    simp only [State.running,State.starting] at bound ⊢
    omega

/-- Clusters whose lists keep their workers apart have at most one process per worker
throughout every run in which no start overtakes another. -/
theorem at_most_one_process (config : TClusterConfig) (clusters : Nat → ClusterInterface)
    (actions : List (Nat × Action)) (distinct : ∀ label ∈ actions, Distinct label.2)
    (plain : ∀ label ∈ actions, Plain label.2)
    (alone : Transition.Meets (service config clusters) (fun s label => StartsAlone (s label.1) label.2)
      (fun _ => State.initial) actions) :
    Transition.Always (service config clusters) (fun s => ∀ cluster workerId, (s cluster).running workerId ≤ 1)
      (fun _ => State.initial) actions := by
  have conditions := alone.and_labels (fun label member => And.intro (distinct label member) (plain label member))
  have kept := Transition.always_of_meets (fun s => ∀ cluster, Inv (s cluster) ∧ AtMostOne (s cluster)) _
    (fun s label t all allowed taken => by
      apply Transition.indexed_keeps (fun s => Inv s ∧ AtMostOne s) s t label all ?_ taken
      intro next moved
      obtain ⟨inv,single⟩ := all label.1
      obtain ⟨starts,apart,names⟩ := allowed
      exact ⟨inv_step inv names moved,atMostOne_step inv single names apart starts moved⟩)
    (fun _ => State.initial) actions (fun _ => ⟨inv_initial,atMostOne_initial⟩) conditions
  refine kept.imp (fun s both cluster workerId => ?_)
  exact Nat.le_of_add_right_le ((both cluster).2 workerId)

theorem restarted_worker_is_one :
    Transition.Always (service ⟨3000⟩ (fun _ => .withoutHook))
      (fun s => ∀ cluster workerId, (s cluster).running workerId ≤ 1) (fun _ => State.initial)
      (onFirst (startedAndDied ++ [.fire 0] ++ reads 0 ++ [.setWorkerState "w1" true])) :=
  at_most_one_process ⟨3000⟩ (fun _ => .withoutHook) _ (by decide) (by decide) (by decide)

theorem restart_overtaken :
    let actions := onFirst (startedAndDied ++ [.setWorkerState "w1" true,.fire 0] ++ reads 0 ++ reads 0)
    (∀ label ∈ actions, Distinct label.2) ∧ ∃ s,
      Transition.run (service ⟨3000⟩ (fun _ => .withoutHook)) (fun _ => State.initial) actions = some s ∧
      (s 0).running "w1" = 2 :=
  ⟨by decide,_,rfl,rfl⟩

end BoarPack.Cluster
