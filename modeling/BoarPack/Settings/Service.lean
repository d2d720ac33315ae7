import BoarPack.Library.Containers

/-! `SettingsService`: a table of values, at most one for a key. -/
namespace BoarPack.Settings
open Containers

/-- The keys and values of the table. -/
abbrev Values : Type := List (String × String)

inductive Notifications
  | quotesByProviderStatus
  | quotesByUserStatus
  deriving DecidableEq, Repr

def Notifications.key : Notifications → String
  | quotesByProviderStatus => "notifications.quotes_by_provider_status"
  | quotesByUserStatus => "notifications.quotes_by_user_status"

def yes : String := "yes"

def no : String := "no"

/-- `repo.upsert(settings, ['key'])`: one statement, which is rejected if it would write a row twice. -/
def upsert (table settings : Values) : Option Values :=
  if (settings.map Prod.fst).Nodup then some (assign table settings) else none

/-- What `updateSettings` upserts. -/
def updateSettings (settings : Values) : Values := settings

/-- What `setEventSettings` upserts. -/
def setEventSettings (updateDto : List (String × Bool)) : Values :=
  updateDto.map (fun entry => (entry.1,if entry.2 then yes else no))

/-- `result?.[0]?.value || SettingsValues.NO`. -/
def getSetting (table : Values) (settingName : String) : String :=
  match get table settingName with
  | none => no
  | some value => if value = "" then no else value

def isYes (table : Values) (settingName : String) : Bool := get table settingName = some yes

theorem getSetting_yes_iff (table : Values) (settingName : String) :
    getSetting table settingName = yes ↔ isYes table settingName = true := by
  unfold getSetting isYes
  cases get table settingName with
  | none => simp [yes,no]
  | some value =>
    by_cases empty : value = ""
    · simp [empty,yes,no]
    · simp [empty]

end BoarPack.Settings
