import BoarPack.ProviderMonitoring.Agreement
import BoarPack.Statistics.Retention

/-! The dates that a check goes by: `getLatestQuotesByProvider` of `QuotesStatisticService`, over the table that the
counters fill and the nightly job clears. -/
namespace BoarPack.ProviderMonitoring
open Containers Transition
open Binary64 (double double_int double_mono)
open Statistics (dateNow oneWeekAgo)
open Statistics.QuotesStatisticService (Dated keeping opened)

/-- The ids of the providers are the names in the table. A `Date` is in milliseconds. -/
def getLatestQuotesByProvider (table : List Timeline.QuotesStatistic) (providerIds : List String) :
    LatestQuotes := fun id =>
  if id ∈ providerIds then
    ((table.filter (fun row => row.quotesProviderName = id)).map Timeline.QuotesStatistic.createdAt).max?.map
      (fun time => time / 1000)
  else none

def providersIds (providers : List TProvider) : List String := (withThreshold providers).map TProvider.id

/-- A week in seconds. -/
def retention : Rat := 604800

private theorem run_covers {now : Int}
    {events : List (Retention.Event Statistics.QuotesStatisticService.Event)} {s : Dated}
    (ran : run keeping (opened now) events = some s) :
    Retention.Covers Timeline.QuotesStatistic.createdAt (oneWeekAgo s.now) s.stored s.table :=
  run_invariant (fun t : Dated =>
    Retention.Covers Timeline.QuotesStatistic.createdAt (oneWeekAgo t.now) t.stored t.table)
    (fun before event after covers taken =>
      Retention.step_covers Statistics.oneWeekAgo_mono (fun _ => Int.le_refl _) before after event covers taken)
    (opened now) s events Retention.covers_all ran

/-- A quote that may have been deleted is a week old. -/
theorem retention_le {now later time : Int} (old : time ≤ oneWeekAgo now) (ordered : dateNow now ≤ later) :
    retention ≤ seconds later (time / 1000) := by
  have week : 604800 * 1000 ≤ later - time / 1000 := by
    simp only [oneWeekAgo,Timeline.timestamp,Timeline.oneWeekMs] at old
    omega
  have rational : ((604800 * 1000 : Int) : Rat) ≤ ((later - time / 1000 : Int) : Rat) := by exact_mod_cast week
  have rounded := double_mono rational
  rw [double_int _ (by decide)] at rounded
  have exactly : double retention = retention := double_int 604800 (by decide)
  rw [← exactly]
  unfold seconds retention
  refine double_mono ?_
  rw [le_div_iff₀ (by norm_num)]
  exact_mod_cast rounded

private theorem retention_le_round {age : Rat} (old : retention ≤ age) : retention ≤ round age := by
  have whole : (604800 : Int) ≤ (age + 1 / 2).floor := by
    rw [Rat.le_floor_iff]
    unfold retention at old
    push_cast
    linarith
  unfold retention round
  exact_mod_cast whole

private theorem isProblematic_old {age threshold : Rat} (nonzero : threshold ≠ 0) (short : threshold < retention)
    (old : retention ≤ age) :
    isProblematic (some age) (some threshold) = true := by
  have exceeded : threshold < age := lt_of_lt_of_le short old
  simp [isProblematic,nonzero,exceeded]

section Verdicts

variable {threshold : Rat} (nonzero : threshold ≠ 0) (short : threshold < retention)

include nonzero short in
/-- Both decisions are by some measure of the age of the latest quote, which keeps what is a week old that old. -/
theorem verdict_kept {now later : Int} {stored table : List Timeline.QuotesStatistic}
    (covers : Retention.Covers Timeline.QuotesStatistic.createdAt (oneWeekAgo now) stored table)
    (ordered : dateNow now ≤ later)
    (measure : Rat → Rat) (keeps : ∀ age, retention ≤ age → retention ≤ measure age) (ids : List String) (id : String) :
    isProblematic ((getLatestQuotesByProvider table ids id).map (fun date => measure (seconds later date)))
      (some threshold) =
      isProblematic ((getLatestQuotesByProvider stored ids id).map (fun date => measure (seconds later date)))
        (some threshold) := by
  have own := covers.restrict (fun row => row.quotesProviderName = id)
  unfold getLatestQuotesByProvider
  split
  next =>
    cases last : ((stored.filter (fun row => row.quotesProviderName = id)).map
      Timeline.QuotesStatistic.createdAt).max? with
    | none =>
      have empty : table.filter (fun row => row.quotesProviderName = id) = [] := by
        have nothing := List.map_eq_nil_iff.mp (List.max?_eq_none_iff.mp last)
        exact List.sublist_nil.mp (nothing ▸ own.kept)
      rw [empty]
      rfl
    | some time =>
      rcases lt_or_ge (oneWeekAgo now) time with recent | old
      · rw [own.latest last recent]
      · have problematic (date : Int) (before : date ≤ oneWeekAgo now) :
            isProblematic (some (measure (seconds later (date / 1000)))) (some threshold) = true :=
          isProblematic_old nonzero short (keeps _ (retention_le before ordered))
        simp only [Option.map_some,problematic time old]
        cases left : ((table.filter (fun row => row.quotesProviderName = id)).map
          Timeline.QuotesStatistic.createdAt).max? with
        | none => rfl
        | some date => exact problematic date ((own.latest_le last left).trans old)
  next => rfl

end Verdicts

/-- A week after the only quote of a provider, the nightly job runs. -/
def lastQuoteDeleted : List (Retention.Event Statistics.QuotesStatisticService.Event) :=
  [.acts (.incrementQuotesNumber "lp" 1) 0,.acts .saveAccumulatedQuotesNumber 0,.acts (.settled 0 .succeeds) 0,
    .passes 604800000000,.deletes]

/-- Checks decide on a provider as they would if no quote had ever been deleted, in every run and however late they are,
if and only if its threshold is less than a week. -/
theorem verdicts_kept_iff (threshold : Rat) :
    (∀ now events s, run keeping (opened now) events = some s → ∀ providers, ∀ provider ∈ withThreshold providers,
      provider.threshold = some threshold → ∀ later, dateNow s.now ≤ later →
        tracked (getLatestQuotesByProvider s.table (providersIds providers)) later provider =
          tracked (getLatestQuotesByProvider s.stored (providersIds providers)) later provider ∧
        alerted (getLatestQuotesByProvider s.table (providersIds providers)) later provider =
          alerted (getLatestQuotesByProvider s.stored (providersIds providers)) later provider) ↔
      threshold < retention := by
  constructor
  · intro kept
    by_contra long
    have week : retention ≤ threshold := not_lt.mp long
    have positive : (0 : Rat) < threshold := lt_of_lt_of_le (by norm_num [retention]) week
    have listed : (⟨"lp","lp",some threshold⟩ : TProvider) ∈ withThreshold [⟨"lp","lp",some threshold⟩] :=
      (mem_withThreshold _ _).mpr ⟨List.mem_cons_self,threshold,rfl,ne_of_gt positive⟩
    have ids : providersIds [⟨"lp","lp",some threshold⟩] = ["lp"] := by
      simp [providersIds,withThreshold,ne_of_gt positive]
    have same := (kept 0 lastQuoteDeleted _ rfl _ _ listed rfl 604800000 (by decide)).1
    rw [ids] at same
    have gone : tracked (getLatestQuotesByProvider [] ["lp"]) 604800000 ⟨"lp","lp",some threshold⟩ = true := rfl
    have age : seconds 604800000 (0 / 1000) = retention := by decide +kernel
    have young : isProblematic (some (seconds 604800000 (0 / 1000))) (some threshold) = false := by
      rw [age]
      simp [isProblematic,not_lt.mpr week]
    exact absurd (gone.symm.trans (same.trans young)) (by decide)
  · intro short now events s ran providers provider member given later ordered
    have nonzero : threshold ≠ 0 := by
      obtain ⟨_,other,same,nonzero⟩ := (mem_withThreshold providers provider).mp member
      cases given.symm.trans same
      exact nonzero
    have covers := run_covers ran
    unfold tracked alerted staleness
    rw [given]
    exact ⟨verdict_kept nonzero short covers ordered (fun age => age) (fun _ old => old) _ _,
      verdict_kept nonzero short covers ordered round (fun _ old => retention_le_round old) _ _⟩

end BoarPack.ProviderMonitoring
