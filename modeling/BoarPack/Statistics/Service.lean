import BoarPack.Library.Outbox

/-! The counters of `QuotesStatisticService` and `UsersConnectionsStatisticService`: what is incremented,
what a flush takes out of the buffers, and what becomes of a save. -/
namespace BoarPack.Statistics
open Containers Outbox

structure QuotesStatistic where
  quotesProviderName : String
  quotesNumber : Int
  deriving DecidableEq, Repr

/-- The buffer, the saves in flight in the order of their calls, and the rows of the table. -/
structure QuotesStatisticService where
  quotesNumberByProvider : List (String × Int)
  saving : List (List QuotesStatistic)
  table : List QuotesStatistic
  deriving DecidableEq, Repr

namespace QuotesStatisticService

def fresh : QuotesStatisticService := ⟨[],[],[]⟩

inductive Event
  | incrementQuotesNumber (provider : String) (n : Int)
  | saveAccumulatedQuotesNumber
  | settled (i : Nat) (outcome : Outcome)
  deriving DecidableEq, Repr

def incrementQuotesNumber (s : QuotesStatisticService) (provider : String) (n : Int) : QuotesStatisticService :=
  let currentNumber := (get s.quotesNumberByProvider provider).getD 0
  { s with quotesNumberByProvider := set s.quotesNumberByProvider provider (currentNumber + n) }

def stats (quotesNumberByProvider : List (String × Int)) : List QuotesStatistic :=
  quotesNumberByProvider.map (fun entry => ⟨entry.1,entry.2⟩)

/-- Up to the save, which is awaited. -/
def saveAccumulatedQuotesNumber (s : QuotesStatisticService) : QuotesStatisticService :=
  if s.quotesNumberByProvider.length > 0 then
    { s with quotesNumberByProvider := [], saving := s.saving ++ [stats s.quotesNumberByProvider] }
  else s

def settled (s : QuotesStatisticService) (i : Nat) (stats : List QuotesStatistic) : Outcome → QuotesStatisticService
  | .succeeds => { s with saving := s.saving.eraseIdx i, table := s.table ++ stats }
  | .rejects => { s with saving := s.saving.eraseIdx i }

def step (s : QuotesStatisticService) : Event → Option QuotesStatisticService
  | .incrementQuotesNumber provider n => some (s.incrementQuotesNumber provider n)
  | .saveAccumulatedQuotesNumber => some s.saveAccumulatedQuotesNumber
  | .settled i outcome => (s.saving[i]?).map (fun stats => s.settled i stats outcome)

end QuotesStatisticService

inductive UserConnectionTarget
  | fixServer
  | websocketServer
  | token
  | account
  deriving DecidableEq, Repr

inductive TComplexTarget
  | fixServer
  | websocketServer
  deriving DecidableEq, Repr

def TComplexTarget.target : TComplexTarget → UserConnectionTarget
  | fixServer => .fixServer
  | websocketServer => .websocketServer

structure IUserQuotesNumber where
  fixServer : Int
  websocketServer : Int
  deriving DecidableEq, Repr

/-- `currentNumber[target] += n`. -/
def IUserQuotesNumber.increment (currentNumber : IUserQuotesNumber) (target : TComplexTarget) (n : Int) :
    IUserQuotesNumber :=
  match target with
  | .fixServer => { currentNumber with fixServer := currentNumber.fixServer + n }
  | .websocketServer => { currentNumber with websocketServer := currentNumber.websocketServer + n }

structure Counter where
  userId : Option String
  targetId : Option String
  target : UserConnectionTarget
  deriving DecidableEq, Repr

structure UsersConnectionsStatistic extends Counter where
  quotesNumber : Int
  deriving DecidableEq, Repr

/-- A save in flight, and whether the call goes on to the second buffer after it. -/
structure Saving where
  stats : List UsersConnectionsStatistic
  goesOn : Bool
  deriving DecidableEq, Repr

structure UsersConnectionsStatisticService where
  quotesNumberByUser : List (String × IUserQuotesNumber)
  quotesNumberByTarget : List (UserConnectionTarget × List (String × Int))
  saving : List Saving
  table : List UsersConnectionsStatistic
  deriving DecidableEq, Repr

namespace UsersConnectionsStatisticService

def fresh : UsersConnectionsStatisticService := ⟨[],[],[],[]⟩

inductive Event
  | incrementQuotesNumber (userId : String) (target : TComplexTarget) (n : Int)
  | incrementQuotesNumberByTarget (target : UserConnectionTarget) (targetId : String) (n : Int)
  | saveAccumulatedQuotesNumber
  | settled (i : Nat) (outcome : Outcome)
  deriving DecidableEq, Repr

def incrementQuotesNumber (s : UsersConnectionsStatisticService) (userId : String) (target : TComplexTarget) (n : Int) :
    UsersConnectionsStatisticService :=
  let currentNumber := (get s.quotesNumberByUser userId).getD ⟨0,0⟩
  { s with quotesNumberByUser := set s.quotesNumberByUser userId (currentNumber.increment target n) }

def incremented (targetIdToQuotesNumber : List (String × Int)) (targetId : String) (n : Int) : List (String × Int) :=
  let currentNumber := (get targetIdToQuotesNumber targetId).getD 0
  set targetIdToQuotesNumber targetId (currentNumber + n)

def incrementQuotesNumberByTarget (s : UsersConnectionsStatisticService) (target : UserConnectionTarget)
    (targetId : String) (n : Int) : UsersConnectionsStatisticService :=
  let targetIdToQuotesNumber := (get s.quotesNumberByTarget target).getD []
  { s with quotesNumberByTarget := set s.quotesNumberByTarget target (incremented targetIdToQuotesNumber targetId n) }

def userStats (entry : String × IUserQuotesNumber) : List UsersConnectionsStatistic :=
  (if entry.2.fixServer ≠ 0 then [⟨⟨some entry.1,none,.fixServer⟩,entry.2.fixServer⟩] else []) ++
    (if entry.2.websocketServer ≠ 0 then [⟨⟨some entry.1,none,.websocketServer⟩,entry.2.websocketServer⟩] else [])

def targetStats (entry : UserConnectionTarget × List (String × Int)) : List UsersConnectionsStatistic :=
  entry.2.map (fun counted => ⟨⟨none,some counted.1,entry.1⟩,counted.2⟩)

def saveByTarget (s : UsersConnectionsStatisticService) : UsersConnectionsStatisticService :=
  if s.quotesNumberByTarget.length > 0 then
    { s with quotesNumberByTarget := [], saving := s.saving ++ [⟨s.quotesNumberByTarget.flatMap targetStats,false⟩] }
  else s

/-- Up to the first save, which is awaited. -/
def saveAccumulatedQuotesNumber (s : UsersConnectionsStatisticService) : UsersConnectionsStatisticService :=
  if s.quotesNumberByUser.length > 0 then
    { s with quotesNumberByUser := [], saving := s.saving ++ [⟨s.quotesNumberByUser.flatMap userStats,true⟩] }
  else s.saveByTarget

/-- The call goes on where its save succeeds, and ends where it rejects. -/
def settled (s : UsersConnectionsStatisticService) (i : Nat) (saving : Saving) :
    Outcome → UsersConnectionsStatisticService
  | .succeeds =>
    let saved := { s with saving := s.saving.eraseIdx i, table := s.table ++ saving.stats }
    if saving.goesOn then saved.saveByTarget else saved
  | .rejects => { s with saving := s.saving.eraseIdx i }

def step (s : UsersConnectionsStatisticService) : Event → Option UsersConnectionsStatisticService
  | .incrementQuotesNumber userId target n => some (s.incrementQuotesNumber userId target n)
  | .incrementQuotesNumberByTarget target targetId n => some (s.incrementQuotesNumberByTarget target targetId n)
  | .saveAccumulatedQuotesNumber => some s.saveAccumulatedQuotesNumber
  | .settled i outcome => (s.saving[i]?).map (fun saving => s.settled i saving outcome)

end UsersConnectionsStatisticService

end BoarPack.Statistics
