import BoarPack.Library.Binary64
import BoarPack.Library.Containers

/-! `ProviderMonitoringService`: the decisions of one check, for the periods table and for the
notifications. Times are milliseconds, ages the doubles that the code computes; what `fetchProviders`
and the quotes statistics return is given. -/
namespace BoarPack.ProviderMonitoring
open Containers
open Binary64 (double)

structure TProvider where
  id : String
  name : String
  threshold : Option Rat
  deriving DecidableEq, Repr

/-- `latestQuotesByProviders.get(id)`, where a missing entry and `null` are the same. -/
abbrev LatestQuotes : Type := String → Option Int

/-- `(now - date.getTime()) / 1000`. -/
def seconds (now date : Int) : Rat := double (double (now - date : Int) / 1000)

/-- `Math.round`. -/
def round (value : Rat) : Rat := (value + 1 / 2).floor

def isProblematic (diff threshold : Option Rat) : Bool :=
  match diff with
  | none => true
  | some diff =>
    match threshold with
    | none => false
    | some threshold => threshold ≠ 0 && diff > threshold

/-- `(await this.fetchProviders()).filter((provider) => provider.threshold)`. -/
def withThreshold (providers : List TProvider) : List TProvider :=
  providers.filter (fun provider => provider.threshold.any (fun threshold => threshold ≠ 0))

/-- A `tstzrange`: the lower bound belongs to it, and so does an upper bound that is given. (Postgres
reads past the quote before the upper bound.) -/
structure Period where
  lower : Int
  upper : Option Int
  deriving DecidableEq, Repr

structure ProvidersProblematicPeriod where
  id : Nat
  providerId : String
  period : Period
  deriving DecidableEq, Repr

/-- What is saved; a new row has no id yet. -/
structure Partial where
  id : Option Nat
  providerId : String
  period : Period
  deriving DecidableEq, Repr

abbrev OpenPeriods : Type := List (String × ProvidersProblematicPeriod)

/-- `nextId` stands for the uuid that the database draws. -/
structure Table where
  rows : List ProvidersProblematicPeriod
  nextId : Nat
  deriving DecidableEq, Repr

def getOpenProblematicPeriods (table : Table) (providerIds : List String) : OpenPeriods :=
  keyed ProvidersProblematicPeriod.providerId id
    (table.rows.filter (fun row => row.providerId ∈ providerIds && row.period.upper.isNone))

/-- `now` was read before the loop, `clock` is read where a period is opened. -/
def problematicPeriod (latestQuotesByProviders : LatestQuotes) (openPeriods : OpenPeriods) (now : Int)
    (clock : String → Int) (provider : TProvider) : Option Partial :=
  let diff := (latestQuotesByProviders provider.id).map (seconds now)
  match isProblematic diff provider.threshold, get openPeriods provider.id with
  | true, none => some ⟨none,provider.id,⟨clock provider.id,none⟩⟩
  | false, some row => some ⟨some row.id,provider.id,⟨row.period.lower,some now⟩⟩
  | _, _ => none

def problematicPeriods (providers : List TProvider) (latestQuotesByProviders : LatestQuotes) (openPeriods : OpenPeriods)
    (now : Int) (clock : String → Int) : List Partial :=
  providers.filterMap (problematicPeriod latestQuotesByProviders openPeriods now clock)

def replaced (row : Partial) (id : Nat) (old : ProvidersProblematicPeriod) : ProvidersProblematicPeriod :=
  if old.id = id then ⟨id,row.providerId,row.period⟩ else old

def put (table : Table) (row : Partial) : Table :=
  match row.id with
  | none => ⟨table.rows ++ [⟨table.nextId,row.providerId,row.period⟩],table.nextId + 1⟩
  | some id =>
    if table.rows.any (fun old => old.id = id) then { table with rows := table.rows.map (replaced row id) }
    else { table with rows := table.rows ++ [⟨id,row.providerId,row.period⟩] }

def Period.wellFormed (period : Period) : Bool := period.upper.all (fun upper => period.lower ≤ upper)

/-- `repository.upsert(rows, ['id'])`: one statement, which is rejected if a range is not one or if it
would write a row twice. -/
def upsert (table : Table) (rows : List Partial) : Option Table :=
  if rows.all (fun row => row.period.wellFormed) && (rows.filterMap Partial.id).Nodup then
    some (rows.foldl put table)
  else none

structure Notified where
  attempts : Nat
  lastNotification : Int
  deriving DecidableEq, Repr

abbrev NotificationsJournal : Type := List (String × Notified)

/-- In seconds. -/
def exponentialBackoff : List Rat := [299,599,1799,3599]

/-- '❗️Provider … has no quotes in the last … seconds.' (or 'unknown' seconds), and '✅ Provider … is
active again.'. -/
inductive Message
  | hasNoQuotes (name : String) (inTheLast : Option Rat)
  | isActiveAgain (name : String)
  deriving DecidableEq, Repr

def staleness (latestQuotesByProviders : LatestQuotes) (now : Int) (provider : TProvider) : Option Rat :=
  (latestQuotesByProviders provider.id).map (fun date => round (seconds now date))

def skipped (previous : Notified) (now : Int) : Bool :=
  previous.attempts ≥ exponentialBackoff.length ||
    seconds now previous.lastNotification < exponentialBackoff.getD previous.attempts 0

/-- `diff || provider.threshold || 'unknown'`. -/
def inTheLast (diff threshold : Option Rat) : Option Rat := (diff.filter (· ≠ 0)).or (threshold.filter (· ≠ 0))

def notify (latestQuotesByProviders : LatestQuotes) (now : Int) (journal : NotificationsJournal)
    (provider : TProvider) :
    NotificationsJournal × Option Message :=
  let diff := staleness latestQuotesByProviders now provider
  let previousNotification := get journal provider.id
  if isProblematic diff provider.threshold then
    if previousNotification.any (fun previous => skipped previous now) then (journal,none)
    else
      let attempts := (previousNotification.map (fun previous => previous.attempts + 1)).getD 0
      (set journal provider.id ⟨attempts,now⟩,some (.hasNoQuotes provider.name (inTheLast diff provider.threshold)))
  else if previousNotification.isSome then
    (journal.filter (fun entry => entry.1 ≠ provider.id),some (.isActiveAgain provider.name))
  else (journal,none)

def notifyEach (latestQuotesByProviders : LatestQuotes) (now : Int) (journal : NotificationsJournal) :
    List TProvider → NotificationsJournal × List (String × Message)
  | [] => (journal,[])
  | provider :: rest =>
    let notified := notify latestQuotesByProviders now journal provider
    let later := notifyEach latestQuotesByProviders now notified.1 rest
    (later.1,(notified.2.map (fun message => (provider.id,message))).toList ++ later.2)

def sendNotifications (setting : String) (providers : List TProvider)
    (latestQuotesByProviders : LatestQuotes) (now : Int)
    (journal : NotificationsJournal) : NotificationsJournal × List (String × Message) :=
  if setting ≠ "yes" then (journal,[]) else notifyEach latestQuotesByProviders now journal providers

end BoarPack.ProviderMonitoring
