import BoarPack.Statistics.Service
import Mathlib.Algebra.Group.Pi.Basic
import Mathlib.Algebra.Group.Pi.Lemmas

/-! What is counted is in the buffers, in a save or in the table, unless a save is rejected. -/
namespace BoarPack.Statistics
open Containers Transition Outbox

namespace QuotesStatisticService

abbrev Amounts : Type := String → Int

def entryAmounts (entry : String × Int) : Amounts := Pi.single entry.1 entry.2

def amounts (stats : List QuotesStatistic) : Amounts :=
  (stats.map (fun row => entryAmounts (row.quotesProviderName,row.quotesNumber))).sum

def buffered (s : QuotesStatisticService) : Amounts := (s.quotesNumberByProvider.map entryAmounts).sum

def view (s : QuotesStatisticService) (incremented : Amounts) : View Amounts :=
  ⟨incremented,s.buffered,s.saving.map amounts,amounts s.table⟩

def counts (_ : QuotesStatisticService) : Event → Amounts
  | .incrementQuotesNumber provider n => Pi.single provider n
  | .saveAccumulatedQuotesNumber => 0
  | .settled _ _ => 0

def loses (s : QuotesStatisticService) : Event → Amounts
  | .incrementQuotesNumber _ _ => 0
  | .saveAccumulatedQuotesNumber => 0
  | .settled _ .succeeds => 0
  | .settled i .rejects => amounts ((s.saving[i]?).getD [])

private theorem view_increment (s : QuotesStatisticService) (incremented : Amounts) (provider : String) (n : Int) :
    (s.incrementQuotesNumber provider n).view (incremented + Pi.single provider n) =
      (s.view incremented).give (Pi.single provider n) := by
  have raised : (s.incrementQuotesNumber provider n).buffered = s.buffered + Pi.single provider n := by
    refine sum_set entryAmounts s.quotesNumberByProvider provider (fun old => old.getD 0 + n) (Pi.single provider n) ?_
    intro old
    cases old with
    | none => simp [entryAmounts]
    | some value => exact Pi.single_add (f := fun _ => Int) provider value n
  simp only [view,View.give]
  rw [raised]
  rfl

theorem view_flush (s : QuotesStatisticService) (incremented : Amounts) :
    s.saveAccumulatedQuotesNumber.view incremented = s.view incremented ∨
      s.saveAccumulatedQuotesNumber.view incremented = (s.view incremented).detach s.buffered 0 := by
  unfold saveAccumulatedQuotesNumber
  split
  next =>
    have batch : amounts (stats s.quotesNumberByProvider) = s.buffered := by
      simp [amounts,stats,buffered,Function.comp_def]
    refine Or.inr ?_
    simp [view,View.detach,batch,buffered]
  next => exact Or.inl rfl

theorem view_succeeds (s : QuotesStatisticService) (incremented : Amounts) (i : Nat) (stats : List QuotesStatistic) :
    (s.settled i stats .succeeds).view incremented = (s.view incremented).store i (amounts stats) := by
  simp [view,settled,View.store,amounts,buffered,List.eraseIdx_map]

theorem view_rejects (s : QuotesStatisticService) (incremented : Amounts) (i : Nat) (stats : List QuotesStatistic) :
    (s.settled i stats .rejects).view incremented = (s.view incremented).lose i := by
  simp [view,settled,View.lose,buffered,List.eraseIdx_map]

theorem step_balanced (s : QuotesStatisticService) (incremented lost : Amounts) (event : Event)
    (t : QuotesStatisticService) (taken : s.step event = some t) (balanced : Balanced lost (s.view incremented)) :
    Balanced (lost + s.loses event) (t.view (incremented + s.counts event)) := by
  cases event with
  | incrementQuotesNumber provider n =>
    cases taken
    simp only [loses,counts,add_zero]
    rw [view_increment]
    exact balanced.give (Pi.single provider n)
  | saveAccumulatedQuotesNumber =>
    cases taken
    simp only [loses,counts,add_zero]
    rcases view_flush s incremented with same | detached
    · rw [same]
      exact balanced
    · rw [detached]
      exact balanced.detach s.buffered 0 (add_zero _).symm
  | settled i outcome =>
    obtain ⟨stats,found,rfl⟩ := Option.map_eq_some_iff.mp taken
    have here : (s.view incremented).saving[i]? = some (amounts stats) := by simp [view,found]
    cases outcome with
    | succeeds =>
      simp only [loses,counts,add_zero]
      rw [view_succeeds]
      exact balanced.store here
    | rejects =>
      simp only [loses,counts,add_zero,found,Option.getD_some]
      rw [view_rejects]
      exact balanced.lose here

end QuotesStatisticService

namespace UsersConnectionsStatisticService

abbrev Amounts : Type := Counter → Int

def amounts (stats : List UsersConnectionsStatistic) : Amounts :=
  (stats.map (fun row => (Pi.single row.toCounter row.quotesNumber : Amounts))).sum

def userAmounts (entry : String × IUserQuotesNumber) : Amounts :=
  Pi.single ⟨some entry.1,none,.fixServer⟩ entry.2.fixServer + Pi.single ⟨some entry.1,none,.websocketServer⟩
    entry.2.websocketServer

def countedAmounts (target : UserConnectionTarget) (counted : String × Int) : Amounts :=
  Pi.single ⟨none,some counted.1,target⟩ counted.2

def targetAmounts (entry : UserConnectionTarget × List (String × Int)) : Amounts :=
  (entry.2.map (countedAmounts entry.1)).sum

def bufferedByUser (s : UsersConnectionsStatisticService) : Amounts := (s.quotesNumberByUser.map userAmounts).sum

def bufferedByTarget (s : UsersConnectionsStatisticService) : Amounts := (s.quotesNumberByTarget.map targetAmounts).sum

def view (s : UsersConnectionsStatisticService) (incremented : Amounts) : View Amounts :=
  ⟨incremented,s.bufferedByUser + s.bufferedByTarget,s.saving.map (fun saving => amounts saving.stats),amounts s.table⟩

def counts (_ : UsersConnectionsStatisticService) : Event → Amounts
  | .incrementQuotesNumber userId target n => Pi.single ⟨some userId,none,target.target⟩ n
  | .incrementQuotesNumberByTarget target targetId n => Pi.single ⟨none,some targetId,target⟩ n
  | .saveAccumulatedQuotesNumber => 0
  | .settled _ _ => 0

def loses (s : UsersConnectionsStatisticService) : Event → Amounts
  | .incrementQuotesNumber _ _ _ => 0
  | .incrementQuotesNumberByTarget _ _ _ => 0
  | .saveAccumulatedQuotesNumber => 0
  | .settled _ .succeeds => 0
  | .settled i .rejects => amounts ((s.saving[i]?).elim [] Saving.stats)

theorem view_fresh : fresh.view 0 = View.empty := by
  simp [view,fresh,View.empty,bufferedByUser,bufferedByTarget,amounts]

private theorem amounts_append (first second : List UsersConnectionsStatistic) :
    amounts (first ++ second) = amounts first + amounts second := by
  simp [amounts]

private theorem amounts_flatMap {A : Type} (rows : A → List UsersConnectionsStatistic) (weigh : A → Amounts)
    (same : ∀ a, amounts (rows a) = weigh a) (entries : List A) :
      amounts (entries.flatMap rows) = (entries.map weigh).sum := by
  induction entries with
  | nil => rfl
  | cons entry rest ih => rw [List.flatMap_cons,amounts_append,same,ih,List.map_cons,List.sum_cons]

/-- What is left out for being zero counts nothing. -/
theorem amounts_userStats (entry : String × IUserQuotesNumber) : amounts (userStats entry) = userAmounts entry := by
  rw [userStats,amounts_append,userAmounts]
  congr 1
  · by_cases zero : entry.2.fixServer = 0
    · simp [amounts,zero]
    · simp [amounts,zero]
  · by_cases zero : entry.2.websocketServer = 0
    · simp [amounts,zero]
    · simp [amounts,zero]

private theorem amounts_targetStats (entry : UserConnectionTarget × List (String × Int)) :
    amounts (targetStats entry) = targetAmounts entry := by
  rw [amounts,targetStats,List.map_map]
  rfl

private theorem view_increment (s : UsersConnectionsStatisticService) (incremented : Amounts) (userId : String)
    (target : TComplexTarget) (n : Int) :
    (s.incrementQuotesNumber userId target n).view (incremented + Pi.single ⟨some userId,none,target.target⟩ n) =
      (s.view incremented).give (Pi.single ⟨some userId,none,target.target⟩ n) := by
  have raised : (s.incrementQuotesNumber userId target n).bufferedByUser =
      s.bufferedByUser + Pi.single ⟨some userId,none,target.target⟩ n := by
    refine sum_set userAmounts s.quotesNumberByUser userId (fun old => (old.getD ⟨0,0⟩).increment target n) _ ?_
    intro old
    have added : ∀ number : IUserQuotesNumber, userAmounts (userId,number.increment target n) =
        userAmounts (userId,number) + Pi.single ⟨some userId,none,target.target⟩ n := by
      intro number
      cases target with
      | fixServer =>
        simp only [userAmounts,IUserQuotesNumber.increment,TComplexTarget.target]
        rw [Pi.single_add (f := fun _ => Int)]
        abel
      | websocketServer =>
        simp only [userAmounts,IUserQuotesNumber.increment,TComplexTarget.target]
        rw [Pi.single_add (f := fun _ => Int)]
        abel
    cases old with
    | none =>
      rw [Option.getD_none,added]
      simp [userAmounts]
    | some number => exact added number
  simp only [view,View.give]
  rw [raised]
  simp only [incrementQuotesNumber,bufferedByTarget]
  congr 1
  abel

private theorem view_incrementByTarget (s : UsersConnectionsStatisticService) (incremented : Amounts)
    (target : UserConnectionTarget) (targetId : String) (n : Int) :
    (s.incrementQuotesNumberByTarget target targetId n).view (incremented + Pi.single ⟨none,some targetId,target⟩ n) =
      (s.view incremented).give (Pi.single ⟨none,some targetId,target⟩ n) := by
  have inner : ∀ counted : List (String × Int),
    targetAmounts (target,UsersConnectionsStatisticService.incremented counted targetId n) =
      targetAmounts (target,counted) + Pi.single ⟨none,some targetId,target⟩ n := by
    intro counted
    refine sum_set (countedAmounts target) counted targetId (fun old => old.getD 0 + n) _ ?_
    intro old
    cases old with
    | none => simp [countedAmounts]
    | some value => exact Pi.single_add (f := fun _ => Int) _ value n
  have raised : (s.incrementQuotesNumberByTarget target targetId n).bufferedByTarget =
      s.bufferedByTarget + Pi.single ⟨none,some targetId,target⟩ n := by
    refine sum_set targetAmounts s.quotesNumberByTarget target
      (fun old => UsersConnectionsStatisticService.incremented (old.getD []) targetId n) _ ?_
    intro old
    cases old with
    | none =>
      rw [Option.getD_none,inner]
      simp [targetAmounts]
    | some counted => exact inner counted
  simp only [view,View.give]
  rw [raised,← add_assoc]
  rfl

private theorem view_saveByTarget (s : UsersConnectionsStatisticService) (incremented : Amounts) :
    s.saveByTarget.view incremented = s.view incremented ∨
      s.saveByTarget.view incremented = (s.view incremented).detach s.bufferedByTarget s.bufferedByUser := by
  unfold saveByTarget
  split
  next =>
    have batch := amounts_flatMap targetStats targetAmounts amounts_targetStats s.quotesNumberByTarget
    refine Or.inr ?_
    simp [view,View.detach,batch,bufferedByTarget,bufferedByUser]
  next => exact Or.inl rfl

private theorem saveByTarget_balanced (s : UsersConnectionsStatisticService) (incremented lost : Amounts)
    (balanced : Balanced lost (s.view incremented)) : Balanced lost (s.saveByTarget.view incremented) := by
  rcases view_saveByTarget s incremented with same | detached
  · rw [same]
    exact balanced
  · rw [detached]
    exact balanced.detach s.bufferedByTarget s.bufferedByUser (add_comm _ _)

private theorem flush_balanced (s : UsersConnectionsStatisticService) (incremented lost : Amounts)
    (balanced : Balanced lost (s.view incremented)) :
      Balanced lost (s.saveAccumulatedQuotesNumber.view incremented) := by
  unfold saveAccumulatedQuotesNumber
  split
  next =>
    have batch := amounts_flatMap userStats userAmounts amounts_userStats s.quotesNumberByUser
    have detached := balanced.detach s.bufferedByUser s.bufferedByTarget rfl
    simpa [view,View.detach,batch,bufferedByUser,bufferedByTarget] using detached
  next => exact saveByTarget_balanced s incremented lost balanced

theorem view_rejects (s : UsersConnectionsStatisticService) (incremented : Amounts) (i : Nat) (saving : Saving) :
    (s.settled i saving .rejects).view incremented = (s.view incremented).lose i := by
  simp [view,settled,View.lose,bufferedByUser,bufferedByTarget,List.eraseIdx_map]

private theorem succeeds_balanced (s : UsersConnectionsStatisticService) (incremented lost : Amounts) (i : Nat)
    (saving : Saving) (found : s.saving[i]? = some saving) (balanced : Balanced lost (s.view incremented)) :
    Balanced lost ((s.settled i saving .succeeds).view incremented) := by
  have here : (s.view incremented).saving[i]? = some (amounts saving.stats) := by simp [view,found]
  have saved : Balanced lost (view { s with saving := s.saving.eraseIdx i, table := s.table ++ saving.stats }
      incremented) := by
    have stored := balanced.store here
    simpa [view,View.store,amounts_append,bufferedByUser,bufferedByTarget,List.eraseIdx_map] using stored
  simp only [settled]
  split
  next => exact saveByTarget_balanced _ incremented lost saved
  next => exact saved

theorem step_balanced (s : UsersConnectionsStatisticService) (incremented lost : Amounts) (event : Event)
    (t : UsersConnectionsStatisticService) (taken : s.step event = some t)
    (balanced : Balanced lost (s.view incremented)) :
    Balanced (lost + s.loses event) (t.view (incremented + s.counts event)) := by
  cases event with
  | incrementQuotesNumber userId target n =>
    cases taken
    simp only [loses,counts,add_zero]
    rw [view_increment]
    exact balanced.give _
  | incrementQuotesNumberByTarget target targetId n =>
    cases taken
    simp only [loses,counts,add_zero]
    rw [view_incrementByTarget]
    exact balanced.give _
  | saveAccumulatedQuotesNumber =>
    cases taken
    simp only [loses,counts,add_zero]
    exact flush_balanced s incremented lost balanced
  | settled i outcome =>
    obtain ⟨saving,found,rfl⟩ := Option.map_eq_some_iff.mp taken
    cases outcome with
    | succeeds =>
      simp only [loses,counts,add_zero]
      exact succeeds_balanced s incremented lost i saving found balanced
    | rejects =>
      have here : (s.view incremented).saving[i]? = some (amounts saving.stats) := by simp [view,found]
      simp only [loses,counts,add_zero,found,Option.elim_some]
      rw [view_rejects]
      exact balanced.lose here

end UsersConnectionsStatisticService

/-- In every run of increments, flushes and settled saves, what is in the table, in the saves and in the buffers
is in every state what was counted, if and only if no save is rejected whose rows weigh anything. -/
theorem counters_conserved_iff (quotes : List QuotesStatisticService.Event)
    (connections : List UsersConnectionsStatisticService.Event) :
    (Always (recorded QuotesStatisticService.step QuotesStatisticService.counts) (fun s => Conserved (s.1.view s.2))
      (.fresh,0) quotes ↔
      Meets (recorded QuotesStatisticService.step QuotesStatisticService.counts) (fun s event => s.1.loses event = 0)
        (.fresh,0) quotes) ∧
    (Always (recorded UsersConnectionsStatisticService.step UsersConnectionsStatisticService.counts)
        (fun s => Conserved (s.1.view s.2)) (.fresh,0) connections ↔
      Meets (recorded UsersConnectionsStatisticService.step UsersConnectionsStatisticService.counts)
        (fun s event => s.1.loses event = 0) (.fresh,0) connections) :=
  ⟨always_conserved_iff QuotesStatisticService.step_balanced .fresh balanced_empty quotes,
    always_conserved_iff UsersConnectionsStatisticService.step_balanced .fresh
      (by rw [UsersConnectionsStatisticService.view_fresh]; exact balanced_empty) connections⟩

/-- Three quotes are counted and flushed, and the save is rejected. -/
theorem rejected_save_loses : ¬ Always (recorded QuotesStatisticService.step QuotesStatisticService.counts)
    (fun s => Conserved (s.1.view s.2)) (.fresh,0)
    [.incrementQuotesNumber "lp" 3,.saveAccumulatedQuotesNumber,.settled 0 .rejects] := by
  intro always
  have after := (((always.2 _ rfl).2 _ rfl).2 _ rfl).head
  have counted := congrFun after "lp"
  revert counted
  decide

end BoarPack.Statistics
