import BoarPack.Common
import BoarPack.Cluster.StopSticky
import Mathlib.Data.List.TakeWhile

/-! `ClusterConfigService`: what a process reads of its environment, and what the workers read of theirs, which is the
one of the primary process with the variables that `ClusterService` forks them with. -/
namespace BoarPack.Cluster
open Containers Transition

namespace ClusterConfigService

/-- `TClusterConfig`, its port `none` where it is not a number. -/
structure Config where
  port : Option Int
  worker : Option String
  disableCluster : Bool
  deriving DecidableEq, Repr

def MIN_PORT : Int := 1

def MAX_PORT : Int := 65535

def digits (text : List Char) : Option Nat :=
  match text.takeWhile Char.isDigit with
  | [] => none
  | given => some (Nat.ofDigitChars 10 given 0)

/-- `Number.parseInt(text, 10)`. -/
def parseInt (text : String) : Option Int :=
  match text.toList.dropWhile whitespace with
  | '-' :: rest => (digits rest).map (fun n => -(n : Int))
  | '+' :: rest => (digits rest).map Int.ofNat
  | rest => (digits rest).map Int.ofNat

def notSet : String := "PORT env variable is not set"

def invalid (rawPort : String) : String :=
  "PORT env variable is not a valid port number: \"" ++ rawPort ++ "\" (expected an integer between " ++
    toString MIN_PORT ++ " and " ++ toString MAX_PORT ++ ")"

def noWorker : String := "WORKER env variable is not set"

def config (isWorker : Bool) (env : Vars) : Except String Config :=
  let rawPort := (get env "PORT").map trim
  let port := parseInt (rawPort.getD "")
  let worker := get env "WORKER"
  let disableCluster := get env "DISABLE_CLUSTER" == some "true"
  if disableCluster then .ok ⟨port,worker,disableCluster⟩
  else match rawPort with
    | none => .error notSet
    | some rawPort =>
      if rawPort = "" then .error notSet
      -- `/^\d+$/`, and the two comparisons, of which neither holds of NaN
      else if !rawPort.toList.all Char.isDigit || port.any (· < MIN_PORT) ||
        port.any (MAX_PORT < ·) then .error (invalid rawPort)
      else if isWorker && (worker.getD "" == "") then .error noWorker
      else .ok ⟨port,worker,disableCluster⟩

end ClusterConfigService

open ClusterConfigService

/-- `cluster.fork(vars)` adds to the environment of the primary process. -/
def forkedEnv (env vars : Vars) : Vars := assign env vars

/-- The port that a worker is to listen on. -/
def portOf (base : Int) (settings : WorkerSettings) : Int :=
  match settings.port.filter (· != 0), settings.portIncrement with
  | some port, _ => port
  | none, some increment => base + increment
  | none, none => base

/-- What comes of a worker. -/
def configured (base : Int) (settings : WorkerSettings) : Except String Config :=
  let port := portOf base settings
  if MIN_PORT ≤ port ∧ port ≤ MAX_PORT then
    if settings.workerId = "" then .error noWorker else .ok ⟨some port,some settings.workerId,false⟩
  else .error (invalid (toString port))

private theorem isDigit_plain {c : Char} (digit : c.isDigit = true) : whitespace c = false ∧ c ≠ '-' ∧ c ≠ '+' := by
  refine ⟨?_,?_,?_⟩
  · have bounds : 48 ≤ c.toNat ∧ c.toNat ≤ 57 := by
      simp only [Char.isDigit,Bool.and_eq_true,decide_eq_true_eq] at digit
      exact ⟨digit.1,digit.2⟩
    simp only [whitespace,Bool.or_eq_false_iff,Bool.and_eq_false_iff,decide_eq_false_iff_not,List.contains_eq_mem,
      List.mem_cons,List.not_mem_nil,or_false]
    omega
  · rintro rfl
    exact Bool.noConfusion digit
  · rintro rfl
    exact Bool.noConfusion digit

private theorem parseInt_digits {text : String} (some_digit : text ≠ "") (plain : text.toList.all Char.isDigit = true) :
    parseInt text = some ((Nat.ofDigitChars 10 text.toList 0 : Nat) : Int) := by
  have digit := List.all_eq_true.mp plain
  have whole : digits text.toList = some (Nat.ofDigitChars 10 text.toList 0) := by
    rw [digits,List.takeWhile_eq_self_iff.mpr digit]
    split
    next empty => exact absurd (String.toList_eq_nil_iff.mp empty) some_digit
    next => rfl
  cases chars : text.toList with
  | nil => exact absurd (String.toList_eq_nil_iff.mp chars) some_digit
  | cons c rest =>
    have first := isDigit_plain (digit c (chars ▸ List.mem_cons_self))
    rw [chars] at whole
    rw [parseInt,chars,List.dropWhile_cons,first.1,if_neg Bool.false_ne_true]
    split
    next same => exact absurd (List.cons.inj same).1 first.2.1
    next same => exact absurd (List.cons.inj same).1 first.2.2
    next => rw [whole]; rfl

private theorem trim_digits {text : String} (plain : text.toList.all Char.isDigit = true) : trim text = text :=
  trim_clean (fun c inside => (isDigit_plain (List.all_eq_true.mp plain c inside)).1)

private theorem toString_nat (n : Nat) : (toString (n : Int)).toList = Nat.toDigits 10 n := by
  rw [Int.toString_eq_repr,Int.repr_eq_if,if_pos (Int.natCast_nonneg n),Int.toNat_natCast,Nat.toList_repr]

private theorem toString_digits (n : Nat) : (toString (n : Int)).toList.all Char.isDigit = true := by
  rw [toString_nat,List.all_eq_true]
  exact fun c inside => Nat.isDigit_of_mem_toDigits (by decide) (by decide) inside

private theorem toString_filled (n : Nat) : toString (n : Int) ≠ "" := by
  intro empty
  have none_left := congrArg String.toList empty
  rw [toString_nat] at none_left
  exact Nat.toDigits_ne_nil none_left

private theorem toString_negative {port : Int} (below : port < 0) : (toString port).toList.all Char.isDigit = false ∧
    trim (toString port) = toString port := by
  have shape : (toString port).toList = '-' :: Nat.toDigits 10 (-port).toNat := by
    rw [Int.toString_eq_repr,Int.repr_eq_if,if_neg (by omega),String.toList_append,Nat.toList_repr]
    rfl
  constructor
  · rw [shape]
    rfl
  · apply trim_clean
    rw [shape]
    intro c inside
    rcases List.mem_cons.mp inside with rfl | digit
    · rfl
    · exact (isDigit_plain (Nat.isDigit_of_mem_toDigits (by decide) (by decide) digit)).1

/-- Of a text that is a number and more than white space. -/
theorem config_digits (isWorker : Bool) {env : Vars} (clustered : get env "DISABLE_CLUSTER" ≠ some "true")
    {text : String}
    (given : (get env "PORT").map trim = some text) (some_digit : text ≠ "")
    (plain : text.toList.all Char.isDigit = true) :
    config isWorker env =
      if MIN_PORT ≤ (Nat.ofDigitChars 10 text.toList 0 : Int) ∧
        (Nat.ofDigitChars 10 text.toList 0 : Int) ≤ MAX_PORT then
        if isWorker && ((get env "WORKER").getD "" == "") then .error noWorker
        else .ok ⟨some (Nat.ofDigitChars 10 text.toList 0 : Nat),get env "WORKER",false⟩
      else .error (invalid text) := by
  have off : (get env "DISABLE_CLUSTER" == some "true") = false := beq_eq_false_iff_ne.mpr clustered
  simp only [config,given,off,Option.getD_some,parseInt_digits some_digit plain,plain,if_neg some_digit,Option.any_some,
    Bool.not_true,Bool.false_or,Bool.false_eq_true,if_false]
  by_cases low : (Nat.ofDigitChars 10 text.toList 0 : Int) < MIN_PORT
  · simp [low,Int.not_le.mpr low]
  · by_cases high : MAX_PORT < (Nat.ofDigitChars 10 text.toList 0 : Int)
    · simp [high,Int.not_le.mpr high]
    · simp [low,high,Int.not_lt.mp low,Int.not_lt.mp high]

private theorem config_ok {isWorker : Bool} {env : Vars} {c : Config} (accepted : config isWorker env = .ok c)
    (enabled : c.disableCluster = false) :
      get env "DISABLE_CLUSTER" ≠ some "true" ∧ ∃ text, (get env "PORT").map trim = some text ∧
      text ≠ "" ∧ text.toList.all Char.isDigit = true := by
  have clustered : get env "DISABLE_CLUSTER" ≠ some "true" := by
    intro disabled
    simp only [config,disabled,beq_self_eq_true,if_true] at accepted
    cases accepted
    cases enabled
  have off : (get env "DISABLE_CLUSTER" == some "true") = false := beq_eq_false_iff_ne.mpr clustered
  refine ⟨clustered,?_⟩
  cases given : (get env "PORT").map trim with
  | none => simp [config,given,off] at accepted
  | some text =>
    refine ⟨text,rfl,?_,?_⟩
    · rintro rfl
      simp [config,given,off] at accepted
    · by_contra other
      simp only [config,given,off,Bool.eq_false_iff.mpr other,Bool.not_false,Bool.true_or,if_true,Bool.false_eq_true,
        if_false] at accepted
      split at accepted <;> cases accepted

private theorem portVar_cases (base : Int) (settings : WorkerSettings) :
    (portVar ⟨base⟩ settings = none ∧ portOf base settings = base) ∨
      portVar ⟨base⟩ settings = some (toString (portOf base settings)) := by
  unfold portVar portOf
  cases settings.port with
  | none => cases settings.portIncrement <;> simp
  | some port => by_cases zero : port = 0 <;> cases settings.portIncrement <;> simp [Option.filter_some,zero]

/-- What a worker is configured with, from what it was forked with. -/
theorem config_forkedEnv {env : Vars} {c : Config} (primary : config false env = .ok c)
    (enabled : c.disableCluster = false)
    {base : Int} (port : c.port = some base) {vars : Vars} (distinct : (vars.map Prod.fst).Nodup)
    (settings : WorkerSettings)
    (worker : get vars "WORKER" = some settings.workerId) (ports : get vars "PORT" = portVar ⟨base⟩ settings)
    (inherits : get vars "DISABLE_CLUSTER" = none) : config true (forkedEnv env vars) = configured base settings := by
  obtain ⟨clustered,text,given,some_digit,plain⟩ := config_ok primary enabled
  have read (key : String) : get (forkedEnv env vars) key = (get vars key).or (get env key) :=
    get_assign_nodup env vars distinct key
  have still : get (forkedEnv env vars) "DISABLE_CLUSTER" ≠ some "true" := by
    rw [read,inherits,Option.none_or]
    exact clustered
  have named : get (forkedEnv env vars) "WORKER" = some settings.workerId := by
    rw [read,worker,Option.some_or]
  have falsy : (true && (some settings.workerId).getD "" == "") = decide (settings.workerId = "") := by
    rw [Bool.true_and,Option.getD_some]
    rfl
  obtain ⟨base_value,range⟩ : (Nat.ofDigitChars 10 text.toList 0 : Int) = base ∧ MIN_PORT ≤ base ∧ base ≤ MAX_PORT := by
    rw [config_digits false clustered given some_digit plain] at primary
    split at primary
    next range =>
      cases primary
      have value := Option.some.inj port
      exact ⟨value,value ▸ range⟩
    next => cases primary
  rcases portVar_cases base settings with ⟨absent,same⟩ | shown
  · have kept : (get (forkedEnv env vars) "PORT").map trim = some text := by
      rw [read,ports,absent,Option.none_or]
      exact given
    rw [config_digits true still kept some_digit plain,named,falsy,base_value,configured,same]
    simp [range]
  · have sent : (get (forkedEnv env vars) "PORT").map trim = some (trim (toString (portOf base settings))) := by
      rw [read,ports,shown,Option.some_or]
      rfl
    unfold configured
    rcases Int.lt_or_le (portOf base settings) 0 with below | above
    · obtain ⟨signed,trimmed⟩ := toString_negative below
      have off : (get (forkedEnv env vars) "DISABLE_CLUSTER" == some "true") = false := beq_eq_false_iff_ne.mpr still
      have out : ¬ (MIN_PORT ≤ portOf base settings ∧ portOf base settings ≤ MAX_PORT) := fun within =>
        absurd (Int.le_trans within.1 (Int.le_of_lt below)) (by decide)
      have shows : toString (portOf base settings) ≠ "" := by
        intro empty
        rw [empty] at signed
        exact Bool.noConfusion signed
      rw [trimmed] at sent
      simp only [config,sent,off,signed,shows,out,Bool.not_false,Bool.true_or,if_true,if_false,Bool.false_eq_true]
    · obtain ⟨n,value⟩ := Int.eq_ofNat_of_zero_le above
      rw [value] at sent ⊢
      rw [trim_digits (toString_digits n)] at sent
      rw [config_digits true still sent (toString_filled n) (toString_digits n),named,falsy,toString_nat,
        Nat.ofDigitChars_ten_toDigits]
      simp

/-- The variables that decide what a worker is configured with are not among its own. -/
def WorkerSettings.LeavesConfig (settings : WorkerSettings) : Prop :=
  ∀ entry ∈ settings.extraEnv.getD [], entry.1 ∉ ["PORT","WORKER","DISABLE_CLUSTER"]

instance (settings : WorkerSettings) : Decidable settings.LeavesConfig :=
  inferInstanceAs (Decidable (∀ entry ∈ settings.extraEnv.getD [], _))

/-- Nor does the hook write them, or any other one twice. -/
def ClusterInterface.LeavesConfig (runningCluster : ClusterInterface) : Prop :=
  ∀ settings vars, (vars.map Prod.fst).Nodup → ((runningCluster.onWorkerRun settings vars).map Prod.fst).Nodup ∧
    ∀ key ∈ ["PORT","DISABLE_CLUSTER"], get (runningCluster.onWorkerRun settings vars) key = get vars key

private theorem workerVars_read (config : TClusterConfig) (clusterSettings : ClusterSettings)
    (settings : WorkerSettings)
    (leaves : settings.LeavesConfig) : ((workerVars config clusterSettings settings).map Prod.fst).Nodup ∧
      get (workerVars config clusterSettings settings) "WORKER" = some settings.workerId ∧
      get (workerVars config clusterSettings settings) "PORT" = portVar config settings ∧
      get (workerVars config clusterSettings settings) "DISABLE_CLUSTER" = none := by
  have own : ∀ key ∈ ["PORT","WORKER","DISABLE_CLUSTER"], key ∉ (settings.extraEnv.getD []).map Prod.fst := by
    intro key decides inside
    obtain ⟨entry,member,rfl⟩ := List.mem_map.mp inside
    exact leaves entry member decides
  have spread := fun key decides =>
    get_assign_absent [("APP_ROLE",clusterSettings.appRole),("WORKER",settings.workerId),
    ("WORKER_NAME",workerName settings)] (settings.extraEnv.getD []) key (own key decides)
  have distinct := @nodup_assign String String _ [("APP_ROLE",clusterSettings.appRole),("WORKER",settings.workerId),
    ("WORKER_NAME",workerName settings)] (by simp) (settings.extraEnv.getD [])
  have worker := spread "WORKER" (by simp)
  have port := spread "PORT" (by simp)
  have disable := spread "DISABLE_CLUSTER" (by simp)
  simp only [Containers.get,List.find?_cons] at worker port disable
  unfold workerVars
  cases portVar config settings with
  | none => exact ⟨distinct,worker,port,disable⟩
  | some text =>
    refine ⟨nodup_set distinct _ _,?_,get_set_self _ _ _,?_⟩
    · rw [get_set_other _ _ _ _ (by decide)]
      exact worker
    · rw [get_set_other _ _ _ _ (by decide)]
      exact disable

private theorem runWorkers_forks (config : TClusterConfig) (runningCluster : ClusterInterface)
    (clusterSettings : ClusterSettings)
    (list : List WorkerSettings) (s : State) :
      ∀ vars ∈ (list.foldl (runWorker config runningCluster clusterSettings) s).forks,
      vars ∈ s.forks ∨ ∃ settings ∈ list,
        vars = (forked config runningCluster clusterSettings settings).workerVars := by
  induction list generalizing s with
  | nil => exact fun _ => Or.inl
  | cons settings rest ih =>
    intro vars member
    rcases ih _ vars member with earlier | ⟨other,listed,rfl⟩
    · unfold runWorker at earlier
      split at earlier
      next =>
        exact (List.mem_append.mp earlier).imp_right (fun new =>
          ⟨settings,List.mem_cons_self,List.mem_singleton.mp new⟩)
      next => exact Or.inl earlier
    · exact Or.inr ⟨other,List.mem_cons_of_mem _ listed,rfl⟩

/-- A process has been forked with the settings of an answer. -/
def Answered (config : TClusterConfig) (runningCluster : ClusterInterface) (actions : List Action) (s : State) : Prop :=
  ∀ vars ∈ s.forks, ∃ i list settings clusterSettings, .getWorkersSettings i (some list) ∈ actions ∧ settings ∈ list ∧
    vars = (forked config runningCluster clusterSettings settings).workerVars

private theorem answered_step {config : TClusterConfig} {runningCluster : ClusterInterface} {actions : List Action}
    {s t : State} {action : Action} (answered : Answered config runningCluster actions s) (listed : action ∈ actions)
    (taken : step config runningCluster s action = some t) : Answered config runningCluster actions t := by
  have kept {u : State} (same : u.forks = s.forks) : Answered config runningCluster actions u := by
    intro vars member
    exact answered vars (same ▸ member)
  cases step_taken taken with
  | addCluster => exact kept rfl
  | runCluster => exact kept rfl
  | commanded workerId state => exact kept (setWorkerState_forks s workerId state)
  | settingsRejected => exact kept rfl
  | settingsRead => exact kept rfl
  | listRejected => exact kept rfl
  | died => exact kept rfl
  | exited k entry death => exact kept (exited_forks s _ entry death)
  | fired => exact kept rfl
  | listRead i caller clusterSettings list found =>
    cases caller with
    | runCluster =>
      intro vars member
      rcases runWorkers_forks config runningCluster clusterSettings list _ vars member with
        earlier | ⟨settings,inside,rfl⟩
      · exact answered vars earlier
      · exact ⟨i,list,settings,clusterSettings,listed,inside,rfl⟩
    | startWorker workerId =>
      simp only [proceed]
      split
      next => exact kept rfl
      next settings chosen =>
        intro vars member
        rcases runWorkers_forks config runningCluster clusterSettings [settings] _ vars member with
          earlier | ⟨other,inside,rfl⟩
        · exact answered vars earlier
        · rw [List.mem_singleton.mp inside]
          exact ⟨i,list,settings,clusterSettings,listed,List.mem_of_find?_eq_some chosen,rfl⟩

/-- Every process that is ever forked, at first or again, configures itself as its settings and the port of the
primary process say: it comes up exactly where its own port is one and its id is not empty. -/
theorem forked_configured {env : Vars} {c : Config} (primary : ClusterConfigService.config false env = .ok c)
    (enabled : c.disableCluster = false) {base : Int} (port : c.port = some base) (clusters : Nat → ClusterInterface)
    (hooks : ∀ cluster, (clusters cluster).LeavesConfig) (actions : List (Nat × Action)) (s : Nat → State)
    (leaves : ∀ cluster i list, (cluster,.getWorkersSettings i (some list)) ∈ actions →
      ∀ settings ∈ list, settings.LeavesConfig)
    (ran : run (service ⟨base⟩ clusters) (fun _ => State.initial) actions = some s) (cluster : Nat) :
    ∀ vars ∈ (s cluster).forks, ∃ i list settings, (cluster,.getWorkersSettings i (some list)) ∈ actions ∧
      settings ∈ list ∧
      ClusterConfigService.config true (forkedEnv env vars) = configured base settings := by
  have alone : run (step ⟨base⟩ (clusters cluster)) State.initial (labelsOf cluster actions) = some (s cluster) :=
    run_labelsOf _ s actions ran cluster
  have answered : Answered ⟨base⟩ (clusters cluster) (labelsOf cluster actions) (s cluster) := by
    refine run_invariant_meeting _ (fun _ action => action ∈ labelsOf cluster actions)
      (fun _ _ _ held listed taken => answered_step held listed taken) _ _ _ ?_ (meets_of_labels (fun _ => id)) alone
    intro vars member
    cases member
  intro vars member
  obtain ⟨i,list,settings,clusterSettings,listed,inside,rfl⟩ := answered vars member
  have asked := (mem_labelsOf cluster actions _).mp listed
  obtain ⟨distinct,worker,ports,inherits⟩ :=
    workerVars_read ⟨base⟩ clusterSettings settings (leaves cluster i list asked settings inside)
  obtain ⟨unique,keys⟩ := hooks cluster settings _ distinct
  refine ⟨i,list,settings,asked,inside,config_forkedEnv primary enabled port unique settings ?_ ?_ ?_⟩
  · exact ((clusters cluster).keepsWorker settings _).trans worker
  · exact (keys "PORT" (by simp)).trans ports
  · exact (keys "DISABLE_CLUSTER" (by simp)).trans inherits

def primaryEnv : Vars := [("PORT"," 3000 ")]

theorem firstWorker_configured :
    ∃ s, run (service ⟨3000⟩ (fun _ => .withoutHook)) (fun _ => State.initial) (onFirst startedAndDied) = some s ∧
    ∀ vars ∈ (s 0).forks, ∃ i list settings, (0,.getWorkersSettings i (some list)) ∈ onFirst startedAndDied ∧
      settings ∈ list ∧
      ClusterConfigService.config true (forkedEnv primaryEnv vars) = configured 3000 settings := by
  refine ⟨_,rfl,@forked_configured primaryEnv ⟨some 3000,none,false⟩ rfl rfl 3000 rfl (fun _ => .withoutHook) ?_
    (onFirst startedAndDied) _ ?_ rfl 0⟩
  · exact fun _ settings vars distinct => ⟨distinct,fun _ _ => rfl⟩
  · intro cluster i list asked settings member
    have given : settings = firstWorker := by
      simp [onFirst,startedAndDied,started,reads] at asked
      obtain ⟨_,_,rfl⟩ := asked
      simpa using member
    subst given
    decide

end BoarPack.Cluster
