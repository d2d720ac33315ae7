import BoarPack.ProviderMonitoring.Service
import Mathlib.Tactic.Linarith

/-! The two decisions of a check: the periods table goes by the age of the latest quote, the
notifications go by the age rounded to seconds. -/
namespace BoarPack.ProviderMonitoring
open Containers
open Binary64 (double)

section Check

variable (latestQuotesByProviders : LatestQuotes) (openPeriods : OpenPeriods) (now : Int) (clock : String → Int)

def tracked (provider : TProvider) : Bool :=
  isProblematic ((latestQuotesByProviders provider.id).map (seconds now)) provider.threshold

def alerted (provider : TProvider) : Bool :=
  isProblematic (staleness latestQuotesByProviders now provider) provider.threshold

def Opens (provider : TProvider) : Prop :=
  problematicPeriod latestQuotesByProviders openPeriods now clock provider =
    some ⟨none,provider.id,⟨clock provider.id,none⟩⟩

def Closes (provider : TProvider) : Prop :=
  ∃ row, get openPeriods provider.id = some row ∧
    problematicPeriod latestQuotesByProviders openPeriods now clock provider =
      some ⟨some row.id,provider.id,⟨row.period.lower,some now⟩⟩

/-- Both sides say the same of the provider, and its period is opened where the alert side sees an
outage that is not tracked yet, closed where it sees a recovery of one that is. -/
structure Agrees (provider : TProvider) : Prop where
  classified : tracked latestQuotesByProviders now provider = alerted latestQuotesByProviders now provider
  opens : Opens latestQuotesByProviders openPeriods now clock provider ↔
    alerted latestQuotesByProviders now provider = true ∧ get openPeriods provider.id = none
  closes : Closes latestQuotesByProviders openPeriods now clock provider ↔
    alerted latestQuotesByProviders now provider = false ∧ (get openPeriods provider.id).isSome
  warned : ∀ journal name age, (notify latestQuotesByProviders now journal provider).2 = some (.hasNoQuotes name age) →
    tracked latestQuotesByProviders now provider = true
  recovered : ∀ journal name, (notify latestQuotesByProviders now journal provider).2 = some (.isActiveAgain name) →
    tracked latestQuotesByProviders now provider = false

/-- The age is on one side of the threshold, and what it is rounded to is on the other. -/
def Straddles (age threshold : Rat) : Prop :=
  threshold < age ∧ age < threshold.floor + 1 / 2 ∨ threshold.floor + 1 / 2 ≤ age ∧ age ≤ threshold

private theorem lt_round_iff (threshold age : Rat) : threshold < round age ↔ threshold.floor + 1 / 2 ≤ age := by
  have whole : threshold < round age ↔ threshold.floor + 1 ≤ (age + 1 / 2).floor := by
    unfold round
    rw [← Rat.floor_lt_iff,Int.add_one_le_iff]
  rw [whole,Rat.le_floor_iff]
  push_cast
  constructor
  · intro least
    linarith
  · intro least
    linarith

private theorem rounding_agrees_iff (age threshold : Rat) :
    (threshold < age ↔ threshold < round age) ↔ ¬ Straddles age threshold := by
  rw [lt_round_iff]
  unfold Straddles
  constructor
  · intro same straddles
    rcases straddles with ⟨older,below⟩ | ⟨least,younger⟩
    · exact absurd (same.mp older) (not_le.mpr below)
    · exact absurd (same.mpr least) (not_lt.mpr younger)
  · intro apart
    constructor
    · intro older
      by_contra below
      exact apart (Or.inl ⟨older,not_le.mp below⟩)
    · intro least
      by_contra younger
      exact apart (Or.inr ⟨least,not_lt.mp younger⟩)

theorem mem_withThreshold (providers : List TProvider) (provider : TProvider) :
    provider ∈ withThreshold providers ↔
      provider ∈ providers ∧ ∃ threshold, provider.threshold = some threshold ∧ threshold ≠ 0 := by
  simp [withThreshold,Option.any_eq_true]

private theorem classified_iff (provider : TProvider) (threshold : Rat) (given : provider.threshold = some threshold)
    (nonzero : threshold ≠ 0) :
    tracked latestQuotesByProviders now provider = alerted latestQuotesByProviders now provider ↔
      ∀ date, latestQuotesByProviders provider.id = some date → ¬ Straddles (seconds now date) threshold := by
  unfold tracked alerted staleness
  rw [given]
  cases latest : latestQuotesByProviders provider.id with
  | none => simp [isProblematic]
  | some date =>
    have sides := rounding_agrees_iff (seconds now date) threshold
    simpa [isProblematic,nonzero] using sides

private theorem problematicPeriod_tracked (provider : TProvider) :
    problematicPeriod latestQuotesByProviders openPeriods now clock provider =
      match tracked latestQuotesByProviders now provider, get openPeriods provider.id with
      | true, none => some ⟨none,provider.id,⟨clock provider.id,none⟩⟩
      | false, some row => some ⟨some row.id,provider.id,⟨row.period.lower,some now⟩⟩
      | _, _ => none := rfl

private theorem opens_iff (provider : TProvider) : Opens latestQuotesByProviders openPeriods now clock provider ↔
    tracked latestQuotesByProviders now provider = true ∧ get openPeriods provider.id = none := by
  unfold Opens
  rw [problematicPeriod_tracked]
  cases tracked latestQuotesByProviders now provider <;> cases get openPeriods provider.id <;> simp

private theorem closes_iff (provider : TProvider) : Closes latestQuotesByProviders openPeriods now clock provider ↔
    tracked latestQuotesByProviders now provider = false ∧ (get openPeriods provider.id).isSome := by
  unfold Closes
  rw [problematicPeriod_tracked]
  cases tracked latestQuotesByProviders now provider <;> cases get openPeriods provider.id <;> simp

private theorem notify_alerted (journal : NotificationsJournal) (provider : TProvider) (message : Message)
    (sent : (notify latestQuotesByProviders now journal provider).2 = some message) :
    match message with
    | .hasNoQuotes _ _ => alerted latestQuotesByProviders now provider = true
    | .isActiveAgain _ => alerted latestQuotesByProviders now provider = false := by
  simp only [notify] at sent
  split at sent
  next bad =>
    split at sent
    next => cases sent
    next =>
      obtain rfl := Option.some.inj sent
      exact bad
  next good =>
    split at sent
    next =>
      obtain rfl := Option.some.inj sent
      exact Bool.eq_false_iff.mpr good
    next => cases sent

private theorem agrees_of_classified (provider : TProvider)
    (classified : tracked latestQuotesByProviders now provider = alerted latestQuotesByProviders now provider) :
    Agrees latestQuotesByProviders openPeriods now clock provider where
  classified := classified
  opens := classified ▸ opens_iff latestQuotesByProviders openPeriods now clock provider
  closes := classified ▸ closes_iff latestQuotesByProviders openPeriods now clock provider
  warned journal _ _ sent := classified.trans (notify_alerted latestQuotesByProviders now journal provider _ sent)
  recovered journal _ sent := classified.trans (notify_alerted latestQuotesByProviders now journal provider _ sent)

/-- A check whose two sides read the same clock. -/
theorem tracking_alerting_agree_iff (providers : List TProvider) :
    (∀ provider ∈ withThreshold providers, Agrees latestQuotesByProviders openPeriods now clock provider) ↔
      ∀ provider ∈ withThreshold providers, ∀ threshold, provider.threshold = some threshold →
        ∀ date, latestQuotesByProviders provider.id = some date → ¬ Straddles (seconds now date) threshold := by
  apply forall₂_congr
  intro provider member
  obtain ⟨_,threshold,given,nonzero⟩ := (mem_withThreshold providers provider).mp member
  have decided := classified_iff latestQuotesByProviders now provider threshold given nonzero
  constructor
  · intro agrees other named
    obtain rfl := Option.some.inj (given.symm.trans named)
    exact decided.mp agrees.classified
  · intro apart
    exact agrees_of_classified latestQuotesByProviders openPeriods now clock provider
      (decided.mpr (apart threshold given))

end Check

/-- With the threshold 30.7 there is a warning after as many seconds and no period, though the double for 30.7 is
less. -/
example : tracked (fun _ => some 0) 30700 ⟨"lp","LP",some (double (307 / 10))⟩ = false ∧
    alerted (fun _ => some 0) 30700 ⟨"lp","LP",some (double (307 / 10))⟩ = true ∧ double (307 / 10) < 307 / 10 := by
  decide +kernel

def halfMinute : TProvider := ⟨"lp","LP",some 30⟩

/-- 30.4 seconds after the latest quote a period is opened, and no warning is due. -/
theorem fraction_tracked_alone : ¬ ∀ (providers : List TProvider) (latestQuotesByProviders : LatestQuotes)
    (openPeriods : OpenPeriods) (now : Int) (clock : String → Int), ∀ provider ∈ withThreshold providers,
      Agrees latestQuotesByProviders openPeriods now clock provider := by
  intro agrees
  have same := (agrees [halfMinute] (fun _ => some 0) [] 30400 (fun _ => 30400) halfMinute (by decide)).classified
  revert same
  decide +kernel

end BoarPack.ProviderMonitoring
