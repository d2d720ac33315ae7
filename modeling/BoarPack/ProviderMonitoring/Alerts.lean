import BoarPack.ProviderMonitoring.Service
import BoarPack.Library.Backoff

/-! The notifications of a provider over any number of checks are those of an alarm with backoff. -/
namespace BoarPack.ProviderMonitoring
open Containers Backoff
open Binary64 (double double_int double_mono)

/-- What a call of `sendNotifications` is given, and the clock it reads. -/
structure Run where
  now : Int
  providers : List TProvider
  latestQuotesByProviders : LatestQuotes

abbrev History : Type := List (Run × List (String × Message))

def Run.send (run : Run) (journal : NotificationsJournal) : NotificationsJournal × List (String × Message) :=
  sendNotifications "yes" run.providers run.latestQuotesByProviders run.now journal

def sendAll (journal : NotificationsJournal) : List Run → NotificationsJournal × History
  | [] => (journal,[])
  | run :: rest =>
    let sent := run.send journal
    let later := sendAll sent.1 rest
    (later.1,(run,sent.2) :: later.2)

def Message.signal : Message → Signal
  | hasNoQuotes _ _ => .raise
  | isActiveAgain _ => .clear

def problematic (run : Run) (provider : TProvider) : Bool :=
  isProblematic (staleness run.latestQuotesByProviders run.now provider) provider.threshold

def messagesOf (providerId : String) (sent : List (String × Message)) : List Message :=
  (sent.filter (fun message => message.1 = providerId)).map Prod.snd

/-- What a run finds about the provider, and the message it sends about it. -/
def observation (providerId : String) (entry : Run × List (String × Message)) : Option (Observation Int) :=
  (entry.1.providers.find? (fun provider => provider.id = providerId)).map (fun provider =>
    ⟨entry.1.now,problematic entry.1 provider,(messagesOf providerId entry.2).head?.map Message.signal⟩)

def observations (providerId : String) (history : History) : List (Observation Int) :=
  history.filterMap (observation providerId)

def Notified.alarm (notified : Notified) : Alarm Int := ⟨notified.attempts,notified.lastNotification⟩

def remembered (journal : NotificationsJournal) (providerId : String) : Option (Alarm Int) :=
  (get journal providerId).map Notified.alarm

/-- The seconds that have passed, as they are before any rounding. -/
def elapsed (now date : Int) : Rat := (now - date : Int) / 1000

/-- The delays are whole seconds, and a millisecond less is less as a double. -/
theorem exponentialBackoff_whole : ∀ delay ∈ exponentialBackoff,
    ∃ whole : Nat, delay = whole ∧ whole < 3600 ∧ double ((whole * 1000 - 1 : Int) / 1000) < whole := by
  intro delay member
  simp only [exponentialBackoff,List.mem_cons,List.not_mem_nil,or_false] at member
  rcases member with rfl | rfl | rfl | rfl
  · exact ⟨299,by norm_num,by decide,by decide +kernel⟩
  · exact ⟨599,by norm_num,by decide,by decide +kernel⟩
  · exact ⟨1799,by norm_num,by decide,by decide +kernel⟩
  · exact ⟨3599,by norm_num,by decide,by decide +kernel⟩

/-- The rounding of a double takes no age across a delay. -/
theorem seconds_lt_iff (now date : Int) (delay : Rat) (member : delay ∈ exponentialBackoff) :
    seconds now date < delay ↔ elapsed now date < delay := by
  obtain ⟨whole,rfl,bound,least⟩ := exponentialBackoff_whole delay member
  have exactly : double ((whole * 1000 : Int) : Rat) = ((whole * 1000 : Int) : Rat) := double_int _ (by omega)
  have early : double ((whole * 1000 - 1 : Int) : Rat) = ((whole * 1000 - 1 : Int) : Rat) := double_int _ (by omega)
  have whole_double : double (whole : Rat) = whole := double_int whole (by omega)
  unfold seconds elapsed
  rcases lt_or_ge (now - date) (whole * 1000 : Int) with before | after
  · have close : ((now - date : Int) : Rat) ≤ ((whole * 1000 - 1 : Int) : Rat) := Int.cast_le.mpr (by omega)
    refine iff_of_true (lt_of_le_of_lt (double_mono ?_) least) ?_
    · rw [← early]
      exact div_le_div_of_nonneg_right (double_mono close) (by norm_num)
    · have strict : ((now - date : Int) : Rat) < whole * 1000 := by exact_mod_cast before
      rw [div_lt_iff₀ (by norm_num)]
      exact strict
  · have far : ((whole * 1000 : Int) : Rat) ≤ ((now - date : Int) : Rat) := by exact_mod_cast after
    refine iff_of_false (not_lt.mpr ?_) (not_lt.mpr ?_)
    · rw [← whole_double]
      refine double_mono ?_
      rw [le_div_iff₀ (by norm_num)]
      have rounded := double_mono far
      rw [exactly] at rounded
      simpa using rounded
    · rw [le_div_iff₀ (by norm_num)]
      simpa using far

private theorem skipped_iff (previous : Notified) (now : Int) :
    skipped previous now = match exponentialBackoff[previous.attempts]? with
      | none => true
      | some delay => decide (elapsed now previous.lastNotification < delay) := by
  unfold skipped
  cases delayed : exponentialBackoff[previous.attempts]? with
  | none =>
    have beyond := List.getElem?_eq_none_iff.mp delayed
    simp [beyond]
  | some delay =>
    obtain ⟨room,_⟩ := List.getElem?_eq_some_iff.mp delayed
    have least : ¬ previous.attempts ≥ exponentialBackoff.length := Nat.not_le.mpr room
    have same := seconds_lt_iff now previous.lastNotification delay (List.mem_of_getElem? delayed)
    rw [List.getD_eq_getElem?_getD,delayed]
    simp [least,same]

/-- A provider is notified about as the alarm reacts. -/
theorem notify_self (run : Run) (journal : NotificationsJournal) (provider : TProvider) :
    (remembered (notify run.latestQuotesByProviders run.now journal provider).1 provider.id,
      (notify run.latestQuotesByProviders run.now journal provider).2.map Message.signal) =
        react exponentialBackoff elapsed (remembered journal provider.id) run.now (problematic run provider) := by
  cases bad : problematic run provider with
  | false =>
    unfold problematic at bad
    cases previous : get journal provider.id with
    | none => simp [notify,react,bad,remembered,previous]
    | some notified =>
      have forgotten := get_filter journal (fun key => !decide (key = provider.id)) provider.id
      simp only [decide_true,Bool.not_true] at forgotten
      simp [notify,react,bad,forgotten,remembered,previous,Message.signal]
  | true =>
    unfold problematic at bad
    cases previous : get journal provider.id with
    | none => simp [notify,react,bad,remembered,previous,Notified.alarm,Message.signal]
    | some notified =>
      cases delayed : exponentialBackoff[notified.attempts]? with
      | none => simp [notify,react,bad,skipped_iff,remembered,previous,delayed,Notified.alarm]
      | some delay =>
        by_cases early : elapsed run.now notified.lastNotification < delay
        · simp [notify,react,bad,skipped_iff,remembered,previous,delayed,early,Notified.alarm]
        · simp [notify,react,bad,skipped_iff,remembered,previous,delayed,early,Notified.alarm,Message.signal]

theorem notify_other (run : Run) (journal : NotificationsJournal) (provider : TProvider) (providerId : String)
    (other : providerId ≠ provider.id) :
    get (notify run.latestQuotesByProviders run.now journal provider).1 providerId = get journal providerId := by
  have kept := get_filter journal (fun key => decide (key ≠ provider.id)) providerId
  simp only [notify]
  split
  next =>
    split
    next => rfl
    next => exact get_set_other journal provider.id providerId _ other
  next =>
    split
    next =>
      rw [kept]
      simp [other]
    next => rfl

private theorem notifyEach_other (run : Run) (providerId : String) (providers : List TProvider)
    (journal : NotificationsJournal) (absent : providerId ∉ providers.map TProvider.id) :
    get (notifyEach run.latestQuotesByProviders run.now journal providers).1 providerId = get journal providerId ∧
      messagesOf providerId (notifyEach run.latestQuotesByProviders run.now journal providers).2 = [] := by
  induction providers generalizing journal with
  | nil => exact ⟨rfl,rfl⟩
  | cons provider rest ih =>
    obtain ⟨other,later⟩ := not_or.mp (fun here => absent (List.mem_cons.mpr here))
    obtain ⟨kept,quiet⟩ := ih (notify run.latestQuotesByProviders run.now journal provider).1 later
    refine ⟨kept.trans (notify_other run journal provider providerId other),?_⟩
    have apart : ¬ provider.id = providerId := fun same => other same.symm
    cases sent : (notify run.latestQuotesByProviders run.now journal provider).2 with
    | none => simpa [notifyEach,messagesOf,sent] using quiet
    | some message => simpa [notifyEach,messagesOf,sent,apart] using quiet

private theorem notifyEach_self (run : Run) (provider : TProvider) (providers : List TProvider)
    (journal : NotificationsJournal) (distinct : (providers.map TProvider.id).Nodup) (member : provider ∈ providers) :
    (remembered (notifyEach run.latestQuotesByProviders run.now journal providers).1 provider.id,
      (messagesOf provider.id (notifyEach run.latestQuotesByProviders run.now journal providers).2).head?.map
        Message.signal) =
        react exponentialBackoff elapsed (remembered journal provider.id) run.now (problematic run provider) := by
  induction providers generalizing journal with
  | nil => cases member
  | cons first rest ih =>
    obtain ⟨absent,distinct⟩ := List.nodup_cons.mp distinct
    rcases List.mem_cons.mp member with rfl | later
    · obtain ⟨kept,quiet⟩ := notifyEach_other run provider.id rest
        (notify run.latestQuotesByProviders run.now journal provider).1 absent
      rw [← notify_self]
      unfold remembered
      simp only [notifyEach]
      rw [kept]
      cases sent : (notify run.latestQuotesByProviders run.now journal provider).2 with
      | none =>
        simp only [Option.map_none,Option.toList_none,List.nil_append]
        rw [quiet]
        rfl
      | some message => simp [messagesOf]
    · have other : provider.id ≠ first.id := fun same => absent (same ▸ List.mem_map_of_mem later)
      have before : remembered (notify run.latestQuotesByProviders run.now journal first).1 provider.id =
          remembered journal provider.id :=
        congrArg (Option.map Notified.alarm) (notify_other run journal first provider.id other)
      rw [← before,← ih (notify run.latestQuotesByProviders run.now journal first).1 distinct later]
      have apart : ¬ first.id = provider.id := fun same => other same.symm
      cases sent : (notify run.latestQuotesByProviders run.now journal first).2 with
      | none => simp [notifyEach,messagesOf,sent]
      | some message => simp [notifyEach,messagesOf,sent,apart]

/-- At most one message about a provider, in the order of the providers. -/
theorem notifyEach_sent (latestQuotesByProviders : LatestQuotes) (now : Int) (providers : List TProvider)
    (journal : NotificationsJournal) :
    ((notifyEach latestQuotesByProviders now journal providers).2.map Prod.fst).Sublist
      (providers.map TProvider.id) := by
  induction providers generalizing journal with
  | nil => exact List.Sublist.slnil
  | cons provider rest ih =>
    have later := ih (notify latestQuotesByProviders now journal provider).1
    cases sent : (notify latestQuotesByProviders now journal provider).2 with
    | none => simpa [notifyEach,sent] using later.cons provider.id
    | some message => simpa [notifyEach,sent] using later

private theorem send_scheduled (run : Run) (journal : NotificationsJournal) (providerId : String)
    (trace : List (Observation Int)) (distinct : (run.providers.map TProvider.id).Nodup)
    (remembers : Remembers exponentialBackoff (remembered journal providerId) trace)
    (scheduled : Scheduled exponentialBackoff elapsed trace) :
    Scheduled exponentialBackoff elapsed (trace ++ (observation providerId (run,(run.send journal).2)).toList) ∧
      Remembers exponentialBackoff (remembered (run.send journal).1 providerId)
        (trace ++ (observation providerId (run,(run.send journal).2)).toList) := by
  have sends : run.send journal = notifyEach run.latestQuotesByProviders run.now journal run.providers := rfl
  unfold observation
  cases found : run.providers.find? (fun provider => provider.id = providerId) with
  | none =>
    have absent : providerId ∉ run.providers.map TProvider.id := by
      rintro member
      obtain ⟨provider,inside,same⟩ := List.mem_map.mp member
      exact List.find?_eq_none.mp found provider inside (decide_eq_true same)
    obtain ⟨kept,_⟩ := notifyEach_other run providerId run.providers journal absent
    have same : remembered (run.send journal).1 providerId = remembered journal providerId := by
      rw [sends]
      exact congrArg (Option.map Notified.alarm) kept
    rw [same,Option.map_none,Option.toList_none,List.append_nil]
    exact ⟨scheduled,remembers⟩
  | some provider =>
    have named : provider.id = providerId := by simpa using List.find?_some found
    subst named
    have reacted := notifyEach_self run provider run.providers journal distinct (List.mem_of_find?_eq_some found)
    rw [← sends] at reacted
    have after : remembered (run.send journal).1 provider.id = _ := congrArg Prod.fst reacted
    have signal : (messagesOf provider.id (run.send journal).2).head?.map Message.signal = _ :=
      congrArg Prod.snd reacted
    rw [after,Option.map_some,Option.toList_some,signal]
    exact react_scheduled exponentialBackoff elapsed (remembered journal provider.id) trace run.now
      (problematic run provider) remembers scheduled

private theorem sendAll_scheduled (runs : List Run) (journal : NotificationsJournal) (providerId : String)
    (trace : List (Observation Int)) (distinct : ∀ run ∈ runs, (run.providers.map TProvider.id).Nodup)
    (remembers : Remembers exponentialBackoff (remembered journal providerId) trace)
    (scheduled : Scheduled exponentialBackoff elapsed trace) :
    Scheduled exponentialBackoff elapsed (trace ++ observations providerId (sendAll journal runs).2) ∧
      Remembers exponentialBackoff (remembered (sendAll journal runs).1 providerId)
        (trace ++ observations providerId (sendAll journal runs).2) := by
  induction runs generalizing journal trace with
  | nil =>
    rw [sendAll,observations,List.filterMap_nil,List.append_nil]
    exact ⟨scheduled,remembers⟩
  | cons run rest ih =>
    obtain ⟨scheduled,remembers⟩ :=
      send_scheduled run journal providerId trace (distinct run List.mem_cons_self) remembers scheduled
    have later := ih (run.send journal).1 _ (fun other member => distinct other (List.mem_cons_of_mem _ member))
      remembers scheduled
    have split : observations providerId (sendAll journal (run :: rest)).2 =
        (observation providerId (run,(run.send journal).2)).toList ++
          observations providerId (sendAll (run.send journal).1 rest).2 := by
      simp only [sendAll,observations,List.filterMap_cons]
      cases observation providerId (run,(run.send journal).2) <;> rfl
    rw [split,← List.append_assoc]
    exact later

private theorem sendAll_sent (runs : List Run) (journal : NotificationsJournal) (entry : Run × List (String × Message))
    (member : entry ∈ (sendAll journal runs).2) :
      (entry.2.map Prod.fst).Sublist (entry.1.providers.map TProvider.id) := by
  induction runs generalizing journal with
  | nil => cases member
  | cons run rest ih =>
    rcases List.mem_cons.mp member with rfl | later
    · exact notifyEach_sent run.latestQuotesByProviders run.now run.providers journal
    · exact ih (run.send journal).1 later

/-- A run says at most one thing about a provider it lists; over the runs that list it, its warnings and
recoveries are those of an alarm with the delays of `exponentialBackoff`, whatever the clock reads; and the
attempts stay among 0 to 4. -/
theorem alert_schedule (runs : List Run) (distinct : ∀ run ∈ runs, (run.providers.map TProvider.id).Nodup)
    (providerId : String) :
    (∀ entry ∈ (sendAll [] runs).2, (entry.2.map Prod.fst).Sublist (entry.1.providers.map TProvider.id)) ∧
      Scheduled exponentialBackoff elapsed (observations providerId (sendAll [] runs).2) ∧
      ∀ notified, get (sendAll [] runs).1 providerId = some notified → notified.attempts ≤ 4 := by
  have holds := sendAll_scheduled runs [] providerId [] distinct (remembers_empty exponentialBackoff)
    (scheduled_empty exponentialBackoff elapsed)
  rw [List.nil_append] at holds
  obtain ⟨scheduled,remembers⟩ := holds
  refine ⟨sendAll_sent runs [],scheduled,fun notified held => ?_⟩
  have alarm : remembered (sendAll [] runs).1 providerId = some notified.alarm := by
    unfold remembered
    rw [held]
    rfl
  exact (remembers.alarm notified.alarm alarm).2.2

def quietProvider : TProvider := ⟨"lp","LP",some 60⟩

def quietRuns : List Run := [⟨0,[quietProvider],fun _ => none⟩,⟨300000,[quietProvider],fun _ => none⟩,
  ⟨400000,[quietProvider],fun _ => some 400000⟩]

theorem warned_twice_recovered : observations "lp" (sendAll [] quietRuns).2 =
      [⟨0,true,some .raise⟩,⟨300000,true,some .raise⟩,⟨400000,false,some .clear⟩] ∧
    Scheduled exponentialBackoff elapsed (observations "lp" (sendAll [] quietRuns).2) :=
  ⟨by decide +kernel,(alert_schedule quietRuns (by decide) "lp").2.1⟩

end BoarPack.ProviderMonitoring
