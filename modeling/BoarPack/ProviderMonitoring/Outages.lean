import BoarPack.ProviderMonitoring.Alerts
import BoarPack.Library.Transition

/-! Checks under a setting that changes. The journal is kept by the checks that run with the setting at
`yes` only. -/
namespace BoarPack.ProviderMonitoring.Outages
open Containers Transition PastTime

structure Check where
  setting : String
  run : Run

/-- A check, and the messages it sent. -/
abbrev Past : Type := List (Check × List (String × Message))

structure State where
  notificationsJournal : NotificationsJournal
  past : Past

def start : State := ⟨[],[]⟩

def send (journal : NotificationsJournal) (check : Check) : NotificationsJournal × List (String × Message) :=
  sendNotifications check.setting check.run.providers check.run.latestQuotesByProviders check.run.now journal

def step (s : State) (check : Check) : Option State :=
  let sent := send s.notificationsJournal check
  some ⟨sent.1,s.past ++ [(check,sent.2)]⟩

def Warned (providerId : String) (sent : List (String × Message)) : Prop :=
  ∃ message ∈ sent, message.1 = providerId ∧ message.2.signal = .raise

instance (providerId : String) (sent : List (String × Message)) : Decidable (Warned providerId sent) :=
  inferInstanceAs (Decidable (∃ message ∈ sent, _))

def FoundHealthy (providerId : String) (check : Check) : Prop :=
  ∃ provider ∈ check.run.providers, provider.id = providerId ∧ problematic check.run provider = false

/-- Some check found the provider healthy, and neither it nor a later one warned about it. -/
def HealthySinceWarning (providerId : String) : Past → Prop :=
  Since (fun entry => FoundHealthy providerId entry.1 ∧ ¬ Warned providerId entry.2)
    (fun entry => ¬ Warned providerId entry.2)

/-- Whichever check comes next, with the setting at `yes`, it warns about each provider that it finds
problematic and that was healthy since the last warning. -/
def AlertsAtOnce (s : State) : Prop :=
  ∀ check : Check, check.setting = "yes" → ∀ provider ∈ check.run.providers, problematic check.run provider = true →
    HealthySinceWarning provider.id s.past → Warned provider.id (send s.notificationsJournal check).2

/-- A check that does not keep the journal finds no provider healthy that has an entry in it. -/
def NothingToReset (s : State) (check : Check) : Prop :=
  check.setting ≠ "yes" → ∀ provider ∈ check.run.providers, problematic check.run provider = false →
    get s.notificationsJournal provider.id = none

private theorem healthySinceWarning_append (providerId : String) (past : Past)
    (entry : Check × List (String × Message)) :
    HealthySinceWarning providerId (past ++ [entry]) ↔
      ¬ Warned providerId entry.2 ∧ (FoundHealthy providerId entry.1 ∨ HealthySinceWarning providerId past) := by
  unfold HealthySinceWarning
  rw [since_append,and_or_left,and_comm]

section Notify

variable (run : Run) (providerId : String)

def notified (journal : NotificationsJournal) (providers : List TProvider) :
    NotificationsJournal × List (String × Message) :=
  notifyEach run.latestQuotesByProviders run.now journal providers

private theorem notified_cons (journal : NotificationsJournal) (provider : TProvider) (rest : List TProvider) :
    notified run journal (provider :: rest) =
      ((notified run (notify run.latestQuotesByProviders run.now journal provider).1 rest).1,
        ((notify run.latestQuotesByProviders run.now journal provider).2.map
          (fun message => (provider.id,message))).toList ++
          (notified run (notify run.latestQuotesByProviders run.now journal provider).1 rest).2) := rfl

private theorem warned_append (first second : List (String × Message)) :
    Warned providerId (first ++ second) ↔ Warned providerId first ∨ Warned providerId second := by
  unfold Warned
  simp only [List.mem_append,or_and_right,exists_or]

/-- Without an entry, a provider is warned about where it is problematic, and it gets no entry otherwise. -/
theorem notify_absent (journal : NotificationsJournal) (provider : TProvider)
    (absent : get journal provider.id = none) :
    if problematic run provider then
      Warned provider.id ((notify run.latestQuotesByProviders run.now journal provider).2.map
        (fun message => (provider.id,message))).toList
    else get (notify run.latestQuotesByProviders run.now journal provider).1 provider.id = none := by
  unfold problematic
  split
  next bad => simp [notify,bad,absent,Warned,Message.signal]
  next good => simp [notify,good,absent]

/-- A provider that is found healthy has no entry afterwards. -/
theorem notify_healthy (journal : NotificationsJournal) (provider : TProvider)
    (good : problematic run provider = false) :
    get (notify run.latestQuotesByProviders run.now journal provider).1 provider.id = none := by
  have forgotten := congrArg Prod.fst (notify_self run journal provider)
  rw [good] at forgotten
  unfold remembered at forgotten
  exact Option.map_eq_none_iff.mp forgotten

private theorem notified_absent (journal : NotificationsJournal) (providers : List TProvider)
    (absent : get journal providerId = none) (silent : ¬ Warned providerId (notified run journal providers).2) :
    get (notified run journal providers).1 providerId = none ∧
      ∀ provider ∈ providers, provider.id = providerId → problematic run provider = false := by
  induction providers generalizing journal with
  | nil => exact ⟨absent,fun _ member => nomatch member⟩
  | cons provider rest ih =>
    rw [notified_cons,warned_append,not_or] at silent
    have here : get (notify run.latestQuotesByProviders run.now journal provider).1 providerId = none ∧
        (provider.id = providerId → problematic run provider = false) := by
      by_cases same : provider.id = providerId
      · subst same
        have decided := notify_absent run journal provider absent
        cases bad : problematic run provider with
        | true =>
          rw [bad] at decided
          exact absurd decided silent.1
        | false =>
          rw [bad] at decided
          exact ⟨decided,fun _ => rfl⟩
      · exact ⟨(notify_other run journal provider providerId (Ne.symm same)).trans absent,fun named =>
          absurd named same⟩
    obtain ⟨kept,healthy⟩ := ih _ here.1 silent.2
    refine ⟨kept,fun other member named => ?_⟩
    rcases List.mem_cons.mp member with rfl | later
    · exact here.2 named
    · exact healthy other later named

private theorem notified_healthy (journal : NotificationsJournal) (providers : List TProvider)
    (found : ∃ provider ∈ providers, provider.id = providerId ∧ problematic run provider = false)
    (silent : ¬ Warned providerId (notified run journal providers).2) :
      get (notified run journal providers).1 providerId = none := by
  induction providers generalizing journal with
  | nil =>
    obtain ⟨_,member,_⟩ := found
    cases member
  | cons provider rest ih =>
    rw [notified_cons,warned_append,not_or] at silent
    obtain ⟨healthy,member,named,good⟩ := found
    rcases List.mem_cons.mp member with rfl | later
    · subst named
      exact (notified_absent run _ _ rest (notify_healthy run journal healthy good) silent.2).1
    · exact ih _ ⟨healthy,later,named,good⟩ silent.2

end Notify

private theorem send_yes (journal : NotificationsJournal) (check : Check) (yes : check.setting = "yes") :
    send journal check = notified check.run journal check.run.providers := by
  simp [send,sendNotifications,yes,notified]

private theorem send_other (journal : NotificationsJournal) (check : Check) (other : check.setting ≠ "yes") :
    send journal check = (journal,[]) := by
  simp [send,sendNotifications,other]

/-- An entry mutes the warning at the moment it was made. -/
theorem skipped_at_once (previous : Notified) : skipped previous previous.lastNotification = true := by
  obtain ⟨attempts,last⟩ := previous
  have none_passed : seconds last last = 0 := by simp [seconds]
  unfold skipped
  rw [none_passed]
  rcases attempts with _ | _ | _ | _ | more <;> simp [exponentialBackoff]

/-- What it takes to alert at once: no entry is left for a provider that was healthy since its warning. -/
theorem alertsAtOnce_iff (s : State) :
    AlertsAtOnce s ↔ ∀ providerId, HealthySinceWarning providerId s.past →
      get s.notificationsJournal providerId = none := by
  constructor
  · intro alerts providerId since
    cases held : get s.notificationsJournal providerId with
    | none => rfl
    | some previous =>
      have warned := alerts ⟨"yes",⟨previous.lastNotification,[⟨providerId,"",none⟩],fun _ => none⟩⟩ rfl
        ⟨providerId,"",none⟩ List.mem_cons_self rfl since
      simp [send,sendNotifications,notifyEach,notify,staleness,isProblematic,held,skipped_at_once,Warned] at warned
  · intro reset check yes provider member bad since
    by_contra silent
    rw [send_yes _ check yes] at silent
    have good := (notified_absent check.run provider.id _ _ (reset provider.id since) silent).2 provider member rfl
    rw [bad] at good
    cases good

private theorem step_alerts (s t : State) (check : Check) (alerts : AlertsAtOnce s) (taken : step s check = some t) :
    NothingToReset s check ↔ AlertsAtOnce t := by
  obtain rfl := Option.some.inj taken
  rw [alertsAtOnce_iff] at alerts ⊢
  simp only [healthySinceWarning_append]
  by_cases yes : check.setting = "yes"
  · rw [send_yes _ check yes]
    refine iff_of_true (fun other => absurd yes other) (fun providerId since => ?_)
    obtain ⟨silent,healthy | before⟩ := since
    · exact notified_healthy check.run providerId s.notificationsJournal _ healthy silent
    · exact (notified_absent check.run providerId s.notificationsJournal _ (alerts providerId before) silent).1
  · rw [send_other _ check yes]
    constructor
    · intro kept providerId since
      obtain ⟨_,⟨provider,member,rfl,good⟩ | before⟩ := since
      · exact kept yes provider member good
      · exact alerts providerId before
    · intro reset _ provider member good
      refine reset provider.id ⟨?_,Or.inl ⟨provider,member,rfl,good⟩⟩
      simp [Warned]

theorem outages_alert_iff (checks : List Check) :
    Always step AlertsAtOnce start checks ↔ Meets step NothingToReset start checks := by
  refine always_iff_meets (fun _ => True) AlertsAtOnce NothingToReset (fun _ _ _ _ _ => trivial)
    (fun s check t _ alerts taken => step_alerts s t check alerts taken) start checks trivial ?_
  rw [alertsAtOnce_iff]
  exact fun _ _ => rfl

def outage (now : Int) : Check := ⟨"yes",now,[quietProvider],fun _ => none⟩

def recovery : Check := ⟨"no",60000,[quietProvider],fun _ => some 60000⟩

/-- Warned at 0 s, active again while the notifications are off, silent at 120 s: the warning is muted. -/
theorem new_outage_muted : ¬ ∀ checks, Always step AlertsAtOnce start checks := by
  intro always
  have alerts := (always [outage 0,recovery]).2 _ rfl
  have muted := alerts.2 _ rfl (outage 120000) rfl quietProvider List.mem_cons_self (by decide +kernel)
    ⟨_,_,[],rfl,⟨⟨quietProvider,List.mem_cons_self,
      rfl,by decide +kernel⟩,by simp [recovery,send,sendNotifications,Warned]⟩,
      fun _ member => nomatch member⟩
  revert muted
  decide +kernel

end BoarPack.ProviderMonitoring.Outages
