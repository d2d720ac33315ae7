import BoarPack.Library.Transition

/-! `SearchSelect`: a request for each keyword that is typed, and the items of whichever response arrives. -/
namespace BoarPack.Inputs.SearchSelect
open Transition

structure Props where
  filter : List String := []
  limit : Nat := 7
  labelKey : String := "name"

structure Request where
  filter : List String
  limit : Nat
  keyword : String
  deriving DecidableEq, Repr

/-- Requests are known by their place among those sent, and `waiting` are those without a response. History:
`responses`, in the order in which they arrived. -/
structure State (T : Type) where
  requests : List Request
  waiting : List Nat
  availableItems : List T
  responses : List (Nat × List T)
  deriving DecidableEq, Repr

inductive Event (T : Type)
  | onChange (keyword : String)
  | resolved (request : Nat) (data : List T)
  | rejected (request : Nat)
  deriving DecidableEq, Repr

variable {T : Type} (props : Props)

def fetch (keyword : String) : Request where
  filter := if keyword = "" then props.filter else props.filter ++ [props.labelKey ++ "||$contL||" ++ keyword]
  limit := props.limit
  keyword := keyword

def State.request (s : State T) (keyword : String) : State T :=
  { s with requests := s.requests ++ [fetch props keyword], waiting := s.waiting ++ [s.requests.length] }

def mounted : State T := State.request props { requests := [], waiting := [], availableItems := [], responses := [] } ""

def step (s : State T) : Event T → Option (State T)
  | .onChange keyword => some (s.request props keyword)
  | .resolved i data =>
    if i ∈ s.waiting then
      some { s with waiting := s.waiting.erase i, availableItems := data, responses := s.responses ++ [(i,data)] }
    else none
  -- the rejection is of no consequence to the items
  | .rejected i => if i ∈ s.waiting then some { s with waiting := s.waiting.erase i } else none

/-- Once nothing is awaited, the items are those of the last keyword. At any moment they are those of the response that
arrived last, and none arrived after that of a later keyword: what they are replaced by is newer than they are. -/
structure Shown (s : State T) : Prop where
  latest : s.waiting = [] → ∀ data, (s.requests.length - 1,data) ∈ s.responses → s.availableItems = data
  arrived : s.availableItems = (s.responses.getLast?.map Prod.snd).getD []
  advancing : (s.responses.map Prod.fst).Pairwise (· < ·)

def NotOvertaken (s : State T) : Event T → Prop
  | .resolved i _ => ∀ entry ∈ s.responses, entry.1 < i
  | _ => True

/-- The items are those of the last response, and all that is awaited or has arrived was asked for. -/
structure Tracked (s : State T) : Prop where
  shows_last : s.availableItems = (s.responses.getLast?.map Prod.snd).getD []
  asked : ∀ i ∈ s.waiting, i < s.requests.length
  answered : ∀ entry ∈ s.responses, entry.1 < s.requests.length

@[simp] theorem length_request (s : State T) (keyword : String) :
    (s.request props keyword).requests.length = s.requests.length + 1 := by
  simp [State.request]

private theorem tracked_step (s : State T) (event : Event T) (t : State T) (tracked : Tracked s)
    (taken : step props s event = some t) : Tracked t := by
  cases event with
  | onChange keyword =>
    obtain rfl := Option.some.inj taken
    refine ⟨tracked.shows_last,fun i member => ?_,fun entry member => ?_⟩
    · rw [length_request]
      rcases List.mem_append.mp member with before | last
      · exact Nat.lt_succ_of_lt (tracked.asked i before)
      · exact List.mem_singleton.mp last ▸ Nat.lt_succ_self _
    · rw [length_request]
      exact Nat.lt_succ_of_lt (tracked.answered entry member)
  | resolved i data =>
    obtain ⟨awaited,same⟩ := Option.ite_none_right_eq_some.mp taken
    obtain rfl := Option.some.inj same
    refine ⟨by simp,fun j member => tracked.asked j (List.mem_of_mem_erase member),fun entry member => ?_⟩
    rcases List.mem_append.mp member with before | last
    · exact tracked.answered entry before
    · obtain rfl := List.mem_singleton.mp last
      exact tracked.asked _ awaited
  | rejected i =>
    obtain ⟨_,same⟩ := Option.ite_none_right_eq_some.mp taken
    obtain rfl := Option.some.inj same
    exact ⟨tracked.shows_last,fun j member => tracked.asked j (List.mem_of_mem_erase member),tracked.answered⟩

private theorem shown_of_advancing {s : State T} (tracked : Tracked s)
    (advancing : (s.responses.map Prod.fst).Pairwise (· < ·)) :
    Shown s := by
  refine ⟨fun _ data arrived => ?_,tracked.shows_last,advancing⟩
  obtain ⟨before,after,parts⟩ := List.append_of_mem arrived
  have final : after = [] := by
    apply List.eq_nil_iff_forall_not_mem.mpr
    intro later member
    have bound := tracked.answered later (by simp [parts,member])
    rw [parts,List.map_append,List.map_cons,List.pairwise_append,List.pairwise_cons] at advancing
    have newer : s.requests.length - 1 < later.1 := advancing.2.1.1 later.1 (List.mem_map_of_mem member)
    omega
  rw [tracked.shows_last,parts,final]
  simp

private theorem shown_step (s : State T) (event : Event T) (t : State T) (tracked : Tracked s) (shown : Shown s)
    (taken : step props s event = some t) : NotOvertaken s event ↔ Shown t := by
  have kept := tracked_step props s event t tracked taken
  cases event with
  | onChange keyword =>
    obtain rfl := Option.some.inj taken
    exact iff_of_true trivial (shown_of_advancing kept shown.advancing)
  | resolved i data =>
    obtain ⟨_,same⟩ := Option.ite_none_right_eq_some.mp taken
    obtain rfl := Option.some.inj same
    have advancing : ((s.responses ++ [(i,data)]).map Prod.fst).Pairwise (· < ·) ↔
        ∀ entry ∈ s.responses, entry.1 < i := by
      rw [List.map_append,List.pairwise_append]
      simp [shown.advancing]
    exact ⟨fun newest => shown_of_advancing kept (advancing.mpr newest),fun next => advancing.mp next.advancing⟩
  | rejected i =>
    obtain ⟨_,same⟩ := Option.ite_none_right_eq_some.mp taken
    obtain rfl := Option.some.inj same
    exact iff_of_true trivial (shown_of_advancing kept shown.advancing)

end BoarPack.Inputs.SearchSelect
