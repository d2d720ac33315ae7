import BoarPack.Common
import BoarPack.Settings.Events
import Mathlib.Data.List.Induction

/-! `TelegrafService`: the settings of Telegram, which are kept in the table of all settings beside those of events. -/
namespace BoarPack.Telegraf
open Containers Settings Settings.Events

/-- The table `settings`, in which a key is unique. -/
structure Table where
  values : Values
  distinct : (values.map Prod.fst).Nodup

def enabledKey : String := "telegram.enabled"

def botTokenKey : String := "telegram.bot_token"

def chatIdKey : String := "telegram.chat_id"

structure TelegramSettingsDto where
  enabled : Bool := false
  botToken : String := ""
  chatId : String := ""
  deriving DecidableEq, Repr

structure TelegramSettingsUpdateDto where
  enabled : Option Bool := none
  botToken : Option String := none
  chatId : Option String := none
  deriving DecidableEq, Repr

/-- What the schema of the body makes of it. -/
def TelegramSettingsUpdateDto.validated (updateDto : TelegramSettingsUpdateDto) : TelegramSettingsUpdateDto :=
  { updateDto with botToken := updateDto.botToken.map trim, chatId := updateDto.chatId.map trim }

def getSettings (table : Table) (settingsNames : List String) : Values :=
  table.values.filter (fun setting => settingsNames.contains setting.1)

def assigned (telegramSettings : TelegramSettingsDto) (setting : String × String) : TelegramSettingsDto :=
  if setting.1 = enabledKey then { telegramSettings with enabled := setting.2 = yes }
  else if setting.1 = botTokenKey then { telegramSettings with botToken := setting.2 }
  else if setting.1 = chatIdKey then { telegramSettings with chatId := setting.2 }
  else telegramSettings

def getTelegramSettings (table : Table) : TelegramSettingsDto :=
  (getSettings table [enabledKey,botTokenKey,chatIdKey]).foldl assigned {}

/-- What `if (value)` lets through. -/
def filled (value : Option String) : Option String :=
  match value with
  | none | some "" => none
  | some value => some value

def settingsOf (updateDto : TelegramSettingsUpdateDto) : Values :=
  (updateDto.enabled.map (fun enabled => (enabledKey,if enabled then yes else no))).toList ++
    ((filled updateDto.botToken).map (fun botToken => (botTokenKey,botToken))).toList ++
      ((filled updateDto.chatId).map (fun chatId => (chatIdKey,chatId))).toList

/-- `repo.upsert(settings, ['key'])`, where no statement writes a row twice. -/
def Table.upserted (table : Table) (settings : Values) : Table where
  values := assign table.values settings
  distinct := by
    have keeps : ∀ (settings object : Values), (object.map Prod.fst).Nodup →
        ((assign object settings).map Prod.fst).Nodup := by
      intro settings
      induction settings with
      | nil => exact fun _ distinct => distinct
      | cons setting rest ih => exact fun object distinct => ih _ (nodup_set distinct setting.1 setting.2)
    exact keeps settings table.values table.distinct

/-- The requests that write settings: `PATCH /telegraf/telegram` and `PATCH /settings/events`. -/
inductive Request
  | telegram (updateDto : TelegramSettingsUpdateDto)
  | events (updateDto : EventSettingsDto)

def written : Request → Values
  | .telegram updateDto => settingsOf updateDto.validated
  | .events updateDto => Settings.setEventSettings (updateDto.entries.map (fun entry => (entry.1,entry.2.truthy)))

def serve (table : Table) (request : Request) : Table :=
  match upsert table.values (written request) with
  | some _ => table.upserted (written request)
  | none => table

/-- What the settings are for: the two kinds are seen through their own endpoints. -/
@[ext] structure View where
  telegram : TelegramSettingsDto
  toggles : String → Option Bool

def view (table : Table) : View where
  telegram := getTelegramSettings table
  toggles := fun key => get (getEventSettings table.values) key

/-- A field keeps its value unless another one is sent, and a text is sent where something is left of it. -/
def overridden (settings : TelegramSettingsDto) (updateDto : TelegramSettingsUpdateDto) : TelegramSettingsDto where
  enabled := updateDto.enabled.getD settings.enabled
  botToken := (filled (updateDto.botToken.map trim)).getD settings.botToken
  chatId := (filled (updateDto.chatId.map trim)).getD settings.chatId

/-- The body of the events names any key, so that it may name those of Telegram. -/
def switched (settings : TelegramSettingsDto) (sent : String → Option Bool) : TelegramSettingsDto where
  enabled := (sent enabledKey).getD settings.enabled
  botToken := ((sent botTokenKey).map (fun value => if value then yes else no)).getD settings.botToken
  chatId := ((sent chatIdKey).map (fun value => if value then yes else no)).getD settings.chatId

def View.apply (v : View) : Request → View
  | .telegram updateDto => { v with telegram := overridden v.telegram updateDto }
  | .events updateDto =>
    let sent key := (get updateDto.entries key).map Sent.truthy
    { telegram := switched v.telegram sent,
      toggles := fun key => if isEvent key then (sent key).or (v.toggles key) else v.toggles key }

def readFrom (values : Values) : TelegramSettingsDto where
  enabled := (get values enabledKey).elim false (fun value => decide (value = yes))
  botToken := (get values botTokenKey).getD ""
  chatId := (get values chatIdKey).getD ""

private theorem foldl_assigned {settings : Values} (distinct : (settings.map Prod.fst).Nodup) :
    settings.foldl assigned {} = readFrom settings := by
  induction settings using List.reverseRecOn with
  | nil => rfl
  | append_singleton settings setting ih =>
    rw [List.map_append,List.nodup_append] at distinct
    obtain ⟨before,_,apart⟩ := distinct
    have absent : setting.1 ∉ settings.map Prod.fst := fun member => apart _ member _ List.mem_cons_self rfl
    have differ : botTokenKey ≠ enabledKey ∧ chatIdKey ≠ enabledKey ∧ chatIdKey ≠ botTokenKey := by decide
    obtain ⟨tokens,chats,others⟩ := differ
    have unread {key : String} (same : setting.1 = key) : get settings key = none :=
      (get_none_iff settings key).mpr (same ▸ absent)
    rw [List.foldl_append,ih before,List.foldl_cons,List.foldl_nil,assigned,readFrom,readFrom,get_append,
      get_append,get_append,get_singleton,get_singleton,get_singleton]
    split
    next here => simp [here,tokens.symm,chats.symm,unread here]
    next other =>
      split
      next here => simp [here,others.symm,unread here]
      next another =>
        split
        next here => simp [unread here]
        next => simp

private theorem getTelegramSettings_eq (table : Table) : getTelegramSettings table = readFrom table.values := by
  have distinct : ((getSettings table [enabledKey,botTokenKey,chatIdKey]).map Prod.fst).Nodup :=
    table.distinct.sublist (List.filter_sublist.map Prod.fst)
  rw [getTelegramSettings,foldl_assigned distinct,getSettings,readFrom,
    get_filter table.values ([enabledKey,botTokenKey,chatIdKey].contains ·),
    get_filter table.values ([enabledKey,botTokenKey,chatIdKey].contains ·),
    get_filter table.values ([enabledKey,botTokenKey,chatIdKey].contains ·)]
  rfl

private theorem written_distinct (request : Request) : ((written request).map Prod.fst).Nodup := by
  cases request with
  | telegram updateDto =>
    have differ : enabledKey ≠ botTokenKey ∧ enabledKey ≠ chatIdKey ∧ botTokenKey ≠ chatIdKey := by decide
    obtain ⟨tokens,chats,others⟩ := differ
    rw [written,settingsOf]
    cases updateDto.validated.enabled <;> cases filled updateDto.validated.botToken <;> cases filled
      updateDto.validated.chatId <;>
      simp [tokens,chats,others]
  | events updateDto => simpa [written,Settings.setEventSettings,Function.comp_def] using updateDto.distinct

private theorem get_serve (table : Table) (request : Request) (key : String) :
    get (serve table request).values key = (get (written request) key).or (get table.values key) := by
  have distinct := written_distinct request
  rw [serve,upsert,if_pos distinct]
  exact get_assign_nodup table.values (written request) distinct key

private theorem get_optional (key : String) (value : Option String) (other : String) :
    get ((value.map (fun value => (key,value))).toList) other = if key = other then value else none := by
  cases value with
  | none => simp [Containers.get]
  | some value => exact get_singleton (key,value) other

private theorem get_settingsOf (updateDto : TelegramSettingsUpdateDto) (key : String) :
    get (settingsOf updateDto) key =
      (if enabledKey = key then updateDto.enabled.map (fun enabled => if enabled then yes else no) else none).or
        ((if botTokenKey = key then filled updateDto.botToken else none).or
          (if chatIdKey = key then filled updateDto.chatId else none)) := by
  have switch := get_optional enabledKey (updateDto.enabled.map (fun enabled => if enabled then yes else no)) key
  rw [Option.map_map] at switch
  rw [settingsOf,get_append,get_append,get_optional,get_optional,← switch,Option.or_assoc]
  rfl

private theorem isEvent_telegram {key : String} (telegram : key ∈ [enabledKey,botTokenKey,chatIdKey]) :
    isEvent key = false := by
  simp only [List.mem_cons,List.not_mem_nil,or_false] at telegram
  rcases telegram with rfl | rfl | rfl <;> decide

private theorem get_written_events (updateDto : EventSettingsDto) (key : String) :
    get (written (.events updateDto)) key =
      (get updateDto.entries key).map (fun sent => if sent.truthy then yes else no) := by
  rw [written,Settings.setEventSettings,List.map_map]
  exact get_map updateDto.entries (fun sent => if sent.truthy then yes else no) key

private theorem getD_or {A : Type} (new old : Option A) (default : A) :
    (new.or old).getD default = new.getD (old.getD default) := by
  cases new <;> rfl

private theorem switch_or (new : Option Bool) (old : Option String) :
    ((new.map (fun value => if value then yes else no)).or old).elim false (fun value => decide (value = yes)) =
      new.getD (old.elim false (fun value => decide (value = yes))) := by
  cases new with
  | none => rfl
  | some value => cases value <;> simp [yes,no]

private theorem readFrom_telegram (table : Table) (updateDto : TelegramSettingsUpdateDto) :
    readFrom (serve table (.telegram updateDto)).values = overridden (readFrom table.values) updateDto := by
  have differ : botTokenKey ≠ enabledKey ∧ chatIdKey ≠ enabledKey ∧ chatIdKey ≠ botTokenKey := by decide
  obtain ⟨tokens,chats,others⟩ := differ
  simp only [readFrom,overridden,get_serve,written,get_settingsOf,if_pos,if_neg tokens,if_neg tokens.symm,if_neg chats,
    if_neg chats.symm,if_neg others,if_neg others.symm,Option.none_or,Option.or_none,getD_or,switch_or]
  rfl

private theorem readFrom_events (table : Table) (updateDto : EventSettingsDto) :
    readFrom (serve table (.events updateDto)).values =
      switched (readFrom table.values) (fun key => (get updateDto.entries key).map Sent.truthy) := by
  have stored (key : String) : get (written (.events updateDto)) key =
      ((get updateDto.entries key).map Sent.truthy).map (fun value => if value then yes else no) := by
    rw [get_written_events,Option.map_map]
    rfl
  simp only [readFrom,switched,get_serve,stored,getD_or,switch_or]

private theorem view_serve (table : Table) (request : Request) :
    view (serve table request) = (view table).apply request := by
  cases request with
  | telegram updateDto =>
    apply View.ext
    · exact (getTelegramSettings_eq _).trans
        ((readFrom_telegram table updateDto).trans (by rw [View.apply,view,getTelegramSettings_eq]))
    · funext key
      simp only [view,View.apply,get_getEventSettings,get_serve,written,get_settingsOf]
      split
      next event =>
        have other {telegram : String} (member : telegram ∈ [enabledKey,botTokenKey,chatIdKey]) : telegram ≠ key := by
          rintro rfl
          exact Bool.noConfusion ((isEvent_telegram member).symm.trans event)
        rw [if_neg (other (by simp)),if_neg (other (by simp)),if_neg (other (by simp))]
        rfl
      next => rfl
  | events updateDto =>
    apply View.ext
    · exact (getTelegramSettings_eq _).trans
        ((readFrom_events table updateDto).trans (by rw [View.apply,view,getTelegramSettings_eq]))
    · funext key
      have returned := @returned_after table.values _ updateDto
        (fun key => (get_serve table (.events updateDto) key).trans (by rw [get_written_events])) key
      simp only [view,View.apply,returned]
      split
      next => rfl
      next other => rw [get_getEventSettings,if_neg other]

/-- The settings behave as two records that are updated apart from each other, whatever is requested and in which
order. -/
theorem settings_refine (table : Table) (requests : List Request) :
    view (requests.foldl serve table) = requests.foldl View.apply (view table) := by
  induction requests generalizing table with
  | nil => rfl
  | cons request rest ih => rw [List.foldl_cons,List.foldl_cons,ih,view_serve]

end BoarPack.Telegraf
