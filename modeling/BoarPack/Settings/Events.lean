import BoarPack.Settings.Service
import Mathlib.Data.Rat.Defs

/-! The settings of events: those whose keys start with `notifications.`, as the endpoints `GET` and
`PATCH /settings/events` see them. -/
namespace BoarPack.Settings.Events
open Containers

/-- A value of the body, which nothing checks; what an object holds is not read. -/
inductive Sent
  | bool (value : Bool)
  | null
  | number (value : Rat)
  | text (value : String)
  | object
  deriving DecidableEq

def Sent.truthy : Sent → Bool
  | bool value => value
  | null => false
  | number value => value ≠ 0
  | text value => value ≠ ""
  | object => true

structure EventSettingsDto where
  entries : List (String × Sent)
  distinct : (entries.map Prod.fst).Nodup

/-- `Like('notifications.%')`. -/
def isEvent (key : String) : Bool := "notifications.".toList.isPrefixOf key.toList

def getEventSettings (table : Values) : List (String × Bool) :=
  (table.filter (fun setting => isEvent setting.1)).map (fun setting => (setting.1,decide (setting.2 = yes)))

def setEventSettings (table : Values) (events : EventSettingsDto) : Option Values :=
  upsert table (Settings.setEventSettings (events.entries.map (fun entry => (entry.1,entry.2.truthy))))

/-- `returned`: what is read is what was read before, overridden by what was sent. -/
structure RoundTrips (table after : Values) (events : EventSettingsDto) : Prop where
  returned : ∀ key, (get (getEventSettings after) key).map Sent.bool =
    (get events.entries key).or ((get (getEventSettings table) key).map Sent.bool)
  framed : ∀ key, isEvent key = false → get after key = get table key

def Proper (events : EventSettingsDto) : Prop :=
  ∀ entry ∈ events.entries, isEvent entry.1 = true ∧ ∃ value, entry.2 = .bool value

theorem get_getEventSettings (table : Values) (key : String) :
    get (getEventSettings table) key = if isEvent key then (get table key).map (fun value => decide (value = yes))
      else none := by
  unfold getEventSettings
  rw [get_map _ (fun value => decide (value = yes)),get_filter]
  split
  next => rfl
  next => rfl

/-- A key of the body has what was sent for it, and every other key what it had. -/
theorem setEventSettings_some (table : Values) (events : EventSettingsDto) :
    ∃ after, setEventSettings table events = some after ∧
    ∀ key, get after key = ((get events.entries key).map (fun sent => if sent.truthy then yes else no)).or
      (get table key) := by
  have keys : ((Settings.setEventSettings (events.entries.map (fun entry => (entry.1,entry.2.truthy)))).map
      Prod.fst).Nodup := by
    simpa [Settings.setEventSettings,Function.comp_def] using events.distinct
  refine ⟨_,if_pos keys,fun key => ?_⟩
  rw [get_assign_nodup _ _ keys,Settings.setEventSettings,List.map_map]
  exact congrArg (Option.or · _) (get_map events.entries (fun sent => if sent.truthy then yes else no) key)

private theorem truthy_stored (sent : Sent) : decide ((if sent.truthy then yes else no) = yes) = sent.truthy := by
  cases sent.truthy <;> decide

theorem returned_after {table after : Values} {events : EventSettingsDto}
    (wrote : ∀ key, get after key = ((get events.entries key).map (fun sent => if sent.truthy then yes else no)).or
      (get table key))
    (key : String) : get (getEventSettings after) key =
      if isEvent key then ((get events.entries key).map Sent.truthy).or (get (getEventSettings table) key)
        else none := by
  rw [get_getEventSettings,get_getEventSettings,wrote]
  split
  next =>
    cases get events.entries key with
    | none => rfl
    | some sent => exact congrArg some (truthy_stored sent)
  next => rfl

/-- The event settings are those from before, overridden by what was sent, and the other settings stay as they were: for
every table, if and only if only booleans are sent, and only for events. -/
theorem event_settings_round_trip_iff (table : Values) (events : EventSettingsDto) :
    ∃ after, setEventSettings table events = some after ∧ (RoundTrips table after events ↔ Proper events) := by
  obtain ⟨after,written,wrote⟩ := setEventSettings_some table events
  refine ⟨after,written,?_⟩
  have returned := returned_after wrote
  constructor
  · rintro ⟨told,_⟩ ⟨key,sent⟩ member
    have given := (get_some_iff events.distinct key sent).mpr member
    have here := told key
    rw [returned,given,Option.some_or] at here
    cases event : isEvent key with
    | false =>
      rw [event] at here
      cases here
    | true =>
      rw [event,Option.map_some,Option.some_or] at here
      exact ⟨rfl,sent.truthy,(Option.some.inj here).symm⟩
  · intro proper
    have sentProper (key : String) (sent : Sent) (given : get events.entries key = some sent) :
        isEvent key = true ∧ ∃ value, sent = .bool value :=
      proper (key,sent) ((get_some_iff events.distinct key sent).mp given)
    constructor
    · intro key
      rw [returned]
      cases given : get events.entries key with
      | none =>
        rw [get_getEventSettings]
        split <;> rfl
      | some sent =>
        obtain ⟨event,value,rfl⟩ := sentProper key sent given
        rw [if_pos event]
        rfl
    · intro key other
      rw [wrote]
      cases given : get events.entries key with
      | none => rfl
      | some sent =>
        rw [(sentProper key sent given).1] at other
        cases other

def switchesTelegram : EventSettingsDto := ⟨[("telegram.enabled",.bool true)],by decide⟩

theorem telegram_setting_rewritten : ¬ ∀ (table after : Values) (events : EventSettingsDto),
    setEventSettings table events = some after → RoundTrips table after events := by
  intro round_trip
  have framed := (round_trip [("telegram.enabled",no)] [("telegram.enabled",yes)] switchesTelegram rfl).framed
    "telegram.enabled" rfl
  revert framed
  decide

end BoarPack.Settings.Events
