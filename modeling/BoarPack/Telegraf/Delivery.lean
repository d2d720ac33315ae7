import BoarPack.Library.Transition
import BoarPack.Telegraf.Service

/-! `TelegrafService.sendMessage`: calls that read the settings once or twice, while settings are written between. -/
namespace BoarPack.Telegraf
open Containers Settings Settings.Events Transition

def isNotificationDisabled (table : Table) (type : Notifications) : Bool :=
  match getSettings table [type.key] with
  | [] => false
  | setting :: _ => setting.2 = no

/-- Where a call is: what it awaits next. -/
inductive Phase
  | getTelegramSettings
  | isNotificationDisabled (type : Notifications) (config : TelegramSettingsDto)
  | deliver
  | returned
  deriving DecidableEq, Repr

/-- History: `seen`, the tables that were in force since the call, up to its return, and `attempts`, the token and the
chat id of each `deliver` of its message. -/
structure Sending where
  message : String
  type : Option Notifications
  phase : Phase := .getTelegramSettings
  seen : List Table
  attempts : List (String × String) := []

structure State where
  table : Table
  sendings : List Sending := []

/-- `settled`: the delivery of a call came to its end, or failed, which is only logged. -/
inductive Action
  | write (request : Request)
  | sendMessage (message : String) (type : Option Notifications)
  | proceed (i : Nat)
  | settled (i : Nat) (succeeds : Bool)

def Sending.delivering (sending : Sending) (config : TelegramSettingsDto) : Sending :=
  { sending with phase := .deliver, attempts := sending.attempts ++ [(config.botToken,config.chatId)] }

def Sending.proceed (table : Table) (sending : Sending) : Option Sending :=
  match sending.phase with
  | .getTelegramSettings =>
    let config := getTelegramSettings table
    if config.enabled = false then some { sending with phase := .returned }
    else if config.botToken = "" ∨ config.chatId = "" then some { sending with phase := .returned }
    else match sending.type with
      | some type => some { sending with phase := .isNotificationDisabled type config }
      | none => some (sending.delivering config)
  | .isNotificationDisabled type config =>
    if isNotificationDisabled table type then some { sending with phase := .returned }
      else some (sending.delivering config)
  | .deliver | .returned => none

def Sending.sees (table : Table) (sending : Sending) : Sending :=
  if sending.phase = .returned then sending else { sending with seen := sending.seen ++ [table] }

def step (s : State) : Action → Option State
  | .write request =>
    let table := serve s.table request
    some { table, sendings := s.sendings.map (Sending.sees table) }
  | .sendMessage message type => some { s with sendings := s.sendings ++ [{ message, type, seen := [s.table] }] }
  | .proceed i => do
    let sending ← s.sendings[i]?
    let next ← sending.proceed s.table
    return { s with sendings := s.sendings.set i next }
  | .settled i _ => do
    let sending ← s.sendings[i]?
    if sending.phase = .deliver then
      return { s with sendings := s.sendings.set i { sending with phase := .returned } }
    else none

/-- The table has Telegram enabled, with this token and this chat id. -/
def Configured (table : Table) (attempt : String × String) : Prop :=
  (getTelegramSettings table).enabled = true ∧ (getTelegramSettings table).botToken = attempt.1 ∧
    (getTelegramSettings table).chatId = attempt.2 ∧ attempt.1 ≠ "" ∧ attempt.2 ≠ ""

def Off (table : Table) (type : Option Notifications) : Prop := ∃ t ∈ type, get table.values t.key = some no

/-- Of the tables a call has seen, one had what it delivered with, and that one or a later one did not have its type
off. -/
def Delivers (sending : Sending) (attempt : String × String) : Prop :=
  ∃ before first after, sending.seen = before ++ first :: after ∧ Configured first attempt ∧
    ∃ later ∈ first :: after, ¬ Off later sending.type

/-- A call that delivered nothing saw a table with which it had to. -/
def Suppressed (sending : Sending) : Prop :=
  ∃ table ∈ sending.seen, Off table sending.type ∨ ∀ attempt, ¬ Configured table attempt

structure Explained (sending : Sending) : Prop where
  once : sending.attempts.length ≤ 1
  delivers : ∀ attempt ∈ sending.attempts, Delivers sending attempt
  suppressed : sending.phase = .returned → sending.attempts = [] → Suppressed sending

/-- What holds of a call while the table is in force. -/
structure Held (table : Table) (sending : Sending) : Prop where
  current : sending.phase ≠ .returned → table ∈ sending.seen.getLast?
  reading : sending.phase = .getTelegramSettings → sending.attempts = []
  checking : ∀ type config, sending.phase = .isNotificationDisabled type config → sending.attempts = [] ∧
    sending.type = some type ∧ ∃ before first after, sending.seen = before ++ first :: after ∧
      Configured first (config.botToken,config.chatId)
  trying : sending.phase = .deliver → sending.attempts ≠ []
  explained : Explained sending

private theorem isNotificationDisabled_iff (table : Table) (type : Notifications) :
    isNotificationDisabled table type = true ↔ get table.values type.key = some no := by
  have found : get (getSettings table [type.key]) type.key = get table.values type.key := by
    rw [getSettings,get_filter table.values ([type.key].contains ·)]
    simp
  rw [← found]
  unfold isNotificationDisabled
  cases shape : getSettings table [type.key] with
  | nil => simp [Containers.get]
  | cons setting rest =>
    have member : setting ∈ getSettings table [type.key] := shape ▸ List.mem_cons_self
    have named : setting.1 = type.key := by simpa using (List.mem_filter.mp member).2
    simp [Containers.get,named]

private theorem configured_of {table : Table} (enabled : (getTelegramSettings table).enabled ≠ false)
    (set : ¬ ((getTelegramSettings table).botToken = "" ∨ (getTelegramSettings table).chatId = "")) :
    Configured table ((getTelegramSettings table).botToken,(getTelegramSettings table).chatId) :=
  ⟨by simpa using enabled,rfl,rfl,(not_or.mp set).1,(not_or.mp set).2⟩

section

variable {table : Table} {sending : Sending}

theorem Delivers.sees {attempt : String × String} (delivers : Delivers sending attempt) (next : Table) :
    Delivers { sending with seen := sending.seen ++ [next] } attempt := by
  obtain ⟨before,first,after,shape,configured,later,member,allowed⟩ := delivers
  exact ⟨before,first,after ++ [next],by simp [shape],configured,later,List.mem_append_left [next] member,allowed⟩

theorem Held.sees (held : Held table sending) (next : Table) : Held next (sending.sees next) := by
  unfold Sending.sees
  split
  next ended => exact ⟨fun busy => absurd ended busy,held.reading,held.checking,held.trying,held.explained⟩
  next busy =>
    refine ⟨fun _ => by simp,held.reading,?_,held.trying,?_⟩
    · intro type config phase
      obtain ⟨none_yet,named,before,first,after,shape,configured⟩ := held.checking type config phase
      exact ⟨none_yet,named,before,first,after ++ [next],by simp [shape],configured⟩
    · have explained := held.explained
      exact ⟨explained.once,fun attempt tried => (explained.delivers attempt tried).sees next,fun ended =>
        absurd ended busy⟩

theorem Held.last (held : Held table sending) (busy : sending.phase ≠ .returned) :
    ∃ before, sending.seen = before ++ [table] := by
  have shape := List.getLast?_eq_some_iff.mp (held.current busy)
  exact shape

private theorem returned_held (held : Held table sending) (suppressed : Suppressed sending) :
    Held table { sending with phase := .returned } :=
  ⟨fun busy => absurd rfl busy,Phase.noConfusion,fun _ _ => Phase.noConfusion,Phase.noConfusion,
    held.explained.once,held.explained.delivers,fun _ _ => suppressed⟩

theorem Held.delivering (held : Held table sending) (busy : sending.phase ≠ .returned)
    (undelivered : sending.attempts = [])
    (config : TelegramSettingsDto) (delivers : Delivers sending (config.botToken,config.chatId)) :
    Held table (sending.delivering config) := by
  have single : (sending.delivering config).attempts = [(config.botToken,config.chatId)] := by
    rw [Sending.delivering,undelivered]
    rfl
  refine ⟨fun _ => held.current busy,Phase.noConfusion,fun _ _ => Phase.noConfusion,fun _ => ?_,?_,?_,Phase.noConfusion⟩
  · rw [single]
    exact List.cons_ne_nil _ _
  · rw [single]
    exact Nat.le_refl 1
  · rw [single]
    exact fun attempt tried => List.mem_singleton.mp tried ▸ delivers

theorem Held.proceed (held : Held table sending) {next : Sending} (taken : sending.proceed table = some next) :
    Held table next := by
  unfold Sending.proceed at taken
  split at taken
  next reading =>
    have busy : sending.phase ≠ .returned := by simp [reading]
    obtain ⟨before,shape⟩ := held.last busy
    have member : table ∈ sending.seen := by simp [shape]
    have undelivered := held.reading reading
    dsimp only at taken
    split at taken
    next disabled =>
      cases taken
      exact returned_held held ⟨table,member,Or.inr fun attempt configured => by simp [configured.1] at disabled⟩
    next enabled =>
      split at taken
      next missing =>
        cases taken
        refine returned_held held ⟨table,member,Or.inr fun attempt configured => ?_⟩
        obtain ⟨_,token,chat,some_token,some_chat⟩ := configured
        rcases missing with empty | empty
        · exact some_token (token.symm.trans empty)
        · exact some_chat (chat.symm.trans empty)
      next complete =>
        have configured := configured_of enabled complete
        split at taken
        next type named =>
          cases taken
          refine ⟨fun _ => held.current busy,Phase.noConfusion,?_,Phase.noConfusion,?_⟩
          · intro other config checking
            cases checking
            exact ⟨undelivered,named,before,table,[],shape,configured⟩
          · exact ⟨held.explained.once,held.explained.delivers,Phase.noConfusion⟩
        next untyped =>
          cases taken
          refine held.delivering busy undelivered _
            ⟨before,table,[],shape,configured,table,List.mem_singleton_self table,?_⟩
          rintro ⟨type,typed,_⟩
          rw [untyped] at typed
          cases typed
  next type config checking =>
    have busy : sending.phase ≠ .returned := by simp [checking]
    obtain ⟨undelivered,named,before,first,after,shape,configured⟩ := held.checking type config checking
    have last : table ∈ (first :: after).getLast? := by
      have current := held.current busy
      rw [shape,List.getLast?_append_of_ne_nil _ (List.cons_ne_nil first after)] at current
      exact current
    split at taken
    next disabled =>
      cases taken
      have member : table ∈ sending.seen := by
        rw [shape]
        exact List.mem_append_right before (List.mem_of_getLast? last)
      exact returned_held held ⟨table,member,Or.inl ⟨type,named,(isNotificationDisabled_iff table type).mp disabled⟩⟩
    next allowed =>
      cases taken
      refine held.delivering busy undelivered config
        ⟨before,first,after,shape,configured,table,List.mem_of_getLast? last,?_⟩
      rintro ⟨other,typed,off⟩
      rw [named] at typed
      cases typed
      exact allowed ((isNotificationDisabled_iff table type).mpr off)
  next => cases taken
  next => cases taken

theorem Held.settled (held : Held table sending) (delivering : sending.phase = .deliver) :
    Held table { sending with phase := .returned } :=
  ⟨fun busy => absurd rfl busy,Phase.noConfusion,fun _ _ => Phase.noConfusion,Phase.noConfusion,
    held.explained.once,held.explained.delivers,fun _ none => absurd none (held.trying delivering)⟩

end

def Invariant (s : State) : Prop := ∀ sending ∈ s.sendings, Held s.table sending

theorem Invariant.set {s : State} (inv : Invariant s) {next : Sending} (held : Held s.table next) (i : Nat) :
    Invariant { s with sendings := s.sendings.set i next } := by
  intro sending member
  rcases List.mem_or_eq_of_mem_set member with before | rfl
  · exact inv sending before
  · exact held

theorem step_keeps (s : State) (action : Action) (t : State) (inv : Invariant s) (taken : step s action = some t) :
    Invariant t := by
  cases action with
  | write request =>
    cases taken
    intro sending member
    obtain ⟨before,here,rfl⟩ := List.mem_map.mp member
    exact (inv before here).sees _
  | sendMessage message type =>
    cases taken
    intro sending member
    rcases List.mem_append.mp member with before | new
    · exact inv sending before
    · cases List.mem_singleton.mp new
      exact ⟨fun _ => rfl,fun _ => rfl,fun _ _ => Phase.noConfusion,Phase.noConfusion,Nat.zero_le 1,
        fun _ never => (nomatch never),Phase.noConfusion⟩
  | proceed i =>
    obtain ⟨sending,found,taken⟩ := Option.bind_eq_some_iff.mp taken
    obtain ⟨next,proceeded,taken⟩ := Option.bind_eq_some_iff.mp taken
    cases taken
    exact inv.set ((inv sending (List.mem_of_getElem? found)).proceed proceeded) i
  | settled i succeeds =>
    obtain ⟨sending,found,taken⟩ := Option.bind_eq_some_iff.mp taken
    obtain ⟨delivering,taken⟩ := Option.ite_none_right_eq_some.mp taken
    cases taken
    exact inv.set ((inv sending (List.mem_of_getElem? found)).settled delivering) i

/-- A message is delivered at most once, with a token and a chat id that were set together while Telegram was enabled,
and not while its type was off throughout; and it is delivered if Telegram was configured throughout and its type
never off. -/
theorem sendMessage_explained (table : Table) (actions : List Action) (t : State)
    (ran : run step { table } actions = some t) :
    ∀ sending ∈ t.sendings, Explained sending := by
  have start : Invariant { table } := fun sending member => by cases member
  have inv := run_invariant Invariant step_keeps _ t actions start ran
  exact fun sending member => (inv sending member).explained

def configuredTable : Table where
  values := [(enabledKey,yes),(botTokenKey,"1:token"),(chatIdKey,"42")]
  distinct := by decide

theorem delivered_once : ∃ t : State,
    run step { table := configuredTable }
      [.sendMessage "down" (some .quotesByProviderStatus),.proceed 0,.proceed 0] = some t ∧
      ∀ sending ∈ t.sendings, Explained sending :=
  ⟨_,rfl,sendMessage_explained configuredTable [.sendMessage "down" (some .quotesByProviderStatus),.proceed 0,
    .proceed 0] _ rfl⟩

end BoarPack.Telegraf
