import Mathlib.Data.List.Basic
import Mathlib.Data.List.Induction

/-! Objects with string keys as association lists, written with a later value in the
place of an earlier one, pools from which one thing is taken by its index, and sets that keep
the order of insertion. -/
namespace Containers

variable {K V A : Type} [DecidableEq K]

def get (object : List (K × V)) (key : K) : Option V :=
  (object.find? (fun entry => entry.1 = key)).map Prod.snd

def set (object : List (K × V)) (key : K) (value : V) : List (K × V) :=
  match object with
  | [] => [(key,value)]
  | entry :: rest => if entry.1 = key then (key,value) :: rest else entry :: set rest key value

/-- `{ ...object, ...source }`. -/
def assign (object source : List (K × V)) : List (K × V) :=
  source.foldl (fun object entry => set object entry.1 entry.2) object

@[simp] theorem get_set_self (object : List (K × V)) (key : K) (value : V) :
    get (set object key value) key = some value := by
  induction object with
  | nil => simp [set,get]
  | cons entry rest ih =>
    unfold set
    split
    next same => simp [get]
    next other => simpa [get,other] using ih

theorem get_set_other (object : List (K × V)) (key other : K) (value : V) (differs : other ≠ key) :
    get (set object key value) other = get object other := by
  induction object with
  | nil => simp [set,get,differs.symm]
  | cons entry rest ih =>
    unfold set
    split
    next same => simp [get,same,differs.symm]
    next apart =>
      by_cases here : entry.1 = other
      · simp [get,here]
      · simpa [get,here] using ih

theorem get_assign (object source : List (K × V)) (key : K) (value : V) (held : get object key = some value)
    (agrees : ∀ entry ∈ source, entry.1 = key → entry.2 = value) :
    get (assign object source) key = some value := by
  induction source generalizing object with
  | nil => exact held
  | cons entry rest ih =>
    apply ih
    · by_cases same : entry.1 = key
      · rw [← same,get_set_self,agrees entry List.mem_cons_self same]
      · rw [get_set_other object entry.1 key entry.2 (Ne.symm same)]
        exact held
    · exact fun other member => agrees other (List.mem_cons_of_mem _ member)

theorem get_none_iff (object : List (K × V)) (key : K) : get object key = none ↔ key ∉ object.map Prod.fst := by
  induction object with
  | nil => simp [get]
  | cons entry rest ih =>
    by_cases same : entry.1 = key
    · simp [get,same]
    · simpa [get,same,Ne.symm same] using ih

theorem get_filter (object : List (K × V)) (p : K → Bool) (key : K) :
    get (object.filter (fun entry => p entry.1)) key = if p key then get object key else none := by
  induction object with
  | nil => simp [get]
  | cons entry rest ih =>
    by_cases same : entry.1 = key
    · subst same
      by_cases kept : p entry.1
      · simp [get,kept]
      · simpa [kept] using ih
    · by_cases kept : p entry.1
      · simpa [get,kept,same] using ih
      · simpa [get,kept,same] using ih

theorem get_map {W : Type} (object : List (K × V)) (f : V → W) (key : K) :
    get (object.map (fun entry => (entry.1,f entry.2))) key = (get object key).map f := by
  unfold get
  rw [List.find?_map,Option.map_map,Option.map_map]
  rfl

theorem get_append (object source : List (K × V)) (key : K) :
    get (object ++ source) key = (get object key).or (get source key) := by
  unfold get
  rw [List.find?_append]
  cases object.find? (fun entry => entry.1 = key) <;> rfl

theorem get_singleton (entry : K × V) (key : K) : get [entry] key = if entry.1 = key then some entry.2 else none := by
  by_cases same : entry.1 = key <;> simp [get,same]

theorem keys_set (object : List (K × V)) (key : K) (value : V) :
    (set object key value).map Prod.fst =
      if key ∈ object.map Prod.fst then object.map Prod.fst else object.map Prod.fst ++ [key] := by
  induction object with
  | nil => simp [set]
  | cons entry rest ih =>
    unfold set
    split
    next same => simp [same]
    next other =>
      rw [List.map_cons,List.map_cons,ih]
      by_cases inside : key ∈ rest.map Prod.fst
      · simp [inside]
      · simp [inside,Ne.symm other]

theorem set_absent (object : List (K × V)) (key : K) (value : V) (absent : key ∉ object.map Prod.fst) :
    set object key value = object ++ [(key,value)] := by
  induction object with
  | nil => rfl
  | cons entry rest ih =>
    rw [List.map_cons,List.mem_cons,not_or] at absent
    rw [set,if_neg (Ne.symm absent.1),ih absent.2,List.cons_append]

theorem nodup_set {object : List (K × V)} (distinct : (object.map Prod.fst).Nodup) (key : K) (value : V) :
    ((set object key value).map Prod.fst).Nodup := by
  rw [keys_set]
  split
  next => exact distinct
  next absent => exact List.nodup_append.mpr ⟨distinct,by simp,fun old member new last =>
      fun same => absent (List.mem_singleton.mp last ▸ same ▸ member)⟩

theorem nodup_assign {object : List (K × V)} (distinct : (object.map Prod.fst).Nodup) (source : List (K × V)) :
    ((assign object source).map Prod.fst).Nodup := by
  induction source generalizing object with
  | nil => exact distinct
  | cons entry rest ih => exact ih (nodup_set distinct entry.1 entry.2)

theorem get_assign_absent (object source : List (K × V)) (key : K) (absent : key ∉ source.map Prod.fst) :
    get (assign object source) key = get object key := by
  induction source generalizing object with
  | nil => rfl
  | cons entry rest ih =>
    rw [List.map_cons,List.mem_cons,not_or] at absent
    exact (ih (set object entry.1 entry.2) absent.2).trans (get_set_other object entry.1 key entry.2 absent.1)

theorem get_assign_nodup (object source : List (K × V)) (distinct : (source.map Prod.fst).Nodup) (key : K) :
    get (assign object source) key = (get source key).or (get object key) := by
  induction source generalizing object with
  | nil => rfl
  | cons entry rest ih =>
    obtain ⟨absent,distinct⟩ := List.nodup_cons.mp distinct
    have later : get (assign object (entry :: rest)) key = get (assign (set object entry.1 entry.2) rest) key := rfl
    rw [later,ih (set object entry.1 entry.2) distinct]
    by_cases same : entry.1 = key
    · subst same
      rw [(get_none_iff rest entry.1).mpr absent,get_set_self]
      simp [get]
    · rw [get_set_other object entry.1 key entry.2 (Ne.symm same)]
      simp [get,same]

theorem get_some_iff {object : List (K × V)} (distinct : (object.map Prod.fst).Nodup) (key : K) (value : V) :
    get object key = some value ↔ (key,value) ∈ object := by
  induction object with
  | nil => simp [get]
  | cons entry rest ih =>
    obtain ⟨absent,distinct⟩ := List.nodup_cons.mp distinct
    by_cases same : entry.1 = key
    · subst same
      have head : get (entry :: rest) entry.1 = some entry.2 := by simp [get]
      rw [head,List.mem_cons,Option.some.injEq]
      constructor
      · exact fun equal => Or.inl (Prod.ext rfl equal.symm)
      · rintro (equal | member)
        · exact (congrArg Prod.snd equal).symm
        · exact absurd (List.mem_map_of_mem (f := Prod.fst) member) absent
    · have tail : get (entry :: rest) key = get rest key := by simp [get,same]
      rw [tail,ih distinct,List.mem_cons]
      constructor
      · exact Or.inr
      · rintro (equal | member)
        · exact absurd (congrArg Prod.fst equal).symm same
        · exact member

/-- Assignments one after the other: the last one for a key stays. -/
def keyed (key : A → K) (value : A → V) (pool : List A) : List (K × V) :=
  pool.foldl (fun object x => set object (key x) (value x)) []

theorem get_keyed (key : A → K) (value : A → V) (pool : List A) (k : K) :
    get (keyed key value pool) k = ((pool.filter (fun x => key x = k)).getLast?).map value := by
  induction pool using List.reverseRecOn with
  | nil => rfl
  | append_singleton pool x ih =>
    rw [keyed,List.foldl_append,List.foldl_cons,List.foldl_nil,List.filter_append]
    by_cases same : key x = k
    · subst same
      simp
    · rw [get_set_other _ _ _ _ (Ne.symm same)]
      simpa [keyed,same] using ih

theorem nodup_keyed (key : A → K) (value : A → V) (pool : List A) :
    ((keyed key value pool).map Prod.fst).Nodup := by
  induction pool using List.reverseRecOn with
  | nil => exact List.nodup_nil
  | append_singleton pool x ih =>
    rw [keyed,List.foldl_append,List.foldl_cons,List.foldl_nil]
    exact nodup_set ih _ _

theorem keyed_nodup (key : A → K) (value : A → V) {pool : List A} (distinct : (pool.map key).Nodup) :
    keyed key value pool = pool.map (fun x => (key x,value x)) := by
  induction pool using List.reverseRecOn with
  | nil => rfl
  | append_singleton pool x ih =>
    rw [List.map_append,List.map_singleton,List.nodup_append] at distinct
    obtain ⟨before,_,apart⟩ := distinct
    have absent : key x ∉ (pool.map (fun x => (key x,value x))).map Prod.fst := by
      rw [List.map_map]
      exact fun member => apart _ member _ List.mem_cons_self rfl
    rw [keyed,List.foldl_append,List.foldl_cons,List.foldl_nil]
    have earlier : pool.foldl (fun object x => set object (key x) (value x)) [] =
      pool.map (fun x => (key x,value x)) := ih before
    rw [earlier,set_absent _ _ _ absent,List.map_append]
    rfl

theorem getLast?_unique (key : A → K) {pool : List A} (distinct : (pool.map key).Nodup) (k : K) :
    (pool.filter (fun x => key x = k)).getLast? = pool.find? (fun x => key x = k) := by
  induction pool with
  | nil => rfl
  | cons x rest ih =>
    obtain ⟨absent,later⟩ := List.nodup_cons.mp distinct
    by_cases same : key x = k
    · subst same
      have none_later : rest.filter (fun y => key y = key x) = [] := by
        rw [List.filter_eq_nil_iff]
        exact fun y member equal => absent (List.mem_map.mpr ⟨y,member,of_decide_eq_true equal⟩)
      simp [none_later]
    · simpa [same] using ih later

omit [DecidableEq K] in
theorem filterMap_inj {key : A → Option K} {pool : List A} (distinct : (pool.filterMap key).Nodup) {x y : A} {k : K}
    (here : x ∈ pool) (there : y ∈ pool) (one : key x = some k) (other : key y = some k) : x = y := by
  induction pool with
  | nil => cases here
  | cons z rest ih =>
    have later : (rest.filterMap key).Nodup := distinct.sublist ((List.sublist_cons_self z rest).filterMap key)
    have head_only : ∀ w ∈ rest, key z = some k → key w ≠ some k := by
      intro w member first second
      rw [List.filterMap_cons,first] at distinct
      exact (List.nodup_cons.mp distinct).1 (List.mem_filterMap.mpr ⟨w,member,second⟩)
    rcases List.mem_cons.mp here with rfl | inside
    · rcases List.mem_cons.mp there with rfl | behind
      · rfl
      · exact absurd other (head_only y behind one)
    · rcases List.mem_cons.mp there with rfl | behind
      · exact absurd one (head_only x inside other)
      · exact ih later inside behind

omit [DecidableEq K] in
/-- Where what is found of a thing tells which one it was, two ways of finding yield the same only if they agree on
each thing. -/
theorem filterMap_perm_iff {B : Type} (key : A → Option K) (tag : B → K) {f g : A → Option B} {pool : List A}
    (distinct : (pool.filterMap key).Nodup) (first : ∀ x ∈ pool, ∀ y, f x = some y → key x = some (tag y))
    (second : ∀ x ∈ pool, ∀ y, g x = some y → key x = some (tag y)) :
    (pool.filterMap f).Perm (pool.filterMap g) ↔ ∀ x ∈ pool, f x = g x := by
  constructor
  · intro perm x here
    have found {h e : A → Option B} (tags : ∀ x ∈ pool, ∀ y, e x = some y → key x = some (tag y))
        (within : ∀ y, y ∈ pool.filterMap h → y ∈ pool.filterMap e) (own : ∀ y, h x = some y → key x = some (tag y))
        (y : B) (yields : h x = some y) : e x = some y := by
      obtain ⟨other,there,same⟩ := List.mem_filterMap.mp (within y (List.mem_filterMap.mpr ⟨x,here,yields⟩))
      obtain rfl := filterMap_inj distinct here there (own y yields) (tags other there y same)
      exact same
    apply Option.ext
    intro y
    exact ⟨found second (fun y => perm.subset (a := y)) (first x here) y,
      found first (fun y => perm.symm.subset (a := y)) (second x here) y⟩
  · intro agree
    rw [List.filterMap_congr agree]

theorem getElem?_modify_if (pool : List A) (k j : Nat) (f : A → A) :
    (pool.modify k f)[j]? = if k = j then (pool[j]?).map f else pool[j]? := by
  rw [List.getElem?_modify]
  split <;> simp

theorem map_eq_map_of_each {B C : Type} (f : A → C) (g : B → C) (left : List A) (right : List B)
    (length : left.length = right.length)
    (each : ∀ (i : Nat) (x : A), left[i]? = some x → ∃ y, right[i]? = some y ∧ f x = g y) :
      left.map f = right.map g := by
  apply List.ext_getElem?
  intro i
  rw [List.getElem?_map,List.getElem?_map]
  cases here : left[i]? with
  | none =>
    have outside : right[i]? = none := by
      rw [List.getElem?_eq_none_iff] at here ⊢
      omega
    rw [outside]
    rfl
  | some x =>
    obtain ⟨y,there,same⟩ := each i x here
    rw [there,Option.map_some,Option.map_some,same]

theorem countP_eraseIdx (p : A → Bool) (pool : List A) (i : Nat) (x : A) (found : pool[i]? = some x) :
    (pool.eraseIdx i).countP p + (if p x then 1 else 0) = pool.countP p := by
  induction pool generalizing i with
  | nil => simp at found
  | cons head rest ih =>
    cases i with
    | zero =>
      simp only [List.getElem?_cons_zero,Option.some.injEq] at found
      rw [List.eraseIdx_cons_zero,List.countP_cons,found]
    | succ i =>
      simp only [List.getElem?_cons_succ] at found
      rw [List.eraseIdx_cons_succ,List.countP_cons,List.countP_cons,← ih i found]
      omega

theorem countP_set_same (p : A → Bool) (pool : List A) (i : Nat) (x y : A) (found : pool[i]? = some x)
    (same : p y = p x) : (pool.set i y).countP p = pool.countP p := by
  induction pool generalizing i with
  | nil => simp at found
  | cons head rest ih =>
    cases i with
    | zero =>
      simp only [List.getElem?_cons_zero,Option.some.injEq] at found
      rw [List.set_cons_zero,List.countP_cons,List.countP_cons,found,same]
    | succ i =>
      simp only [List.getElem?_cons_succ] at found
      rw [List.set_cons_succ,List.countP_cons,List.countP_cons,ih i found]

theorem countP_key_le_one (key : A → K) (pool : List A) (own : (pool.map key).Nodup) (k : K) :
    pool.countP (fun x => key x = k) ≤ 1 := by
  have once := List.nodup_iff_count.mp own k
  rw [List.count_eq_countP,List.countP_map] at once
  exact once

theorem countP_eq_one (pool : List K) (own : pool.Nodup) (k : K) (held : k ∈ pool) :
    pool.countP (fun x => x = k) = 1 := by
  have most := countP_key_le_one (fun x => x) pool (by simpa using own) k
  have least : 0 < pool.countP (fun x => x = k) := List.countP_pos_iff.mpr ⟨k,held,by simp⟩
  exact Nat.le_antisymm most least

theorem foldlM_ok_of_each {B E : Type} {f : B → A → Except E B} {g : B → A → B} (pool : List A) (start : B)
    (each : ∀ x ∈ pool, ∀ value, f value x = .ok (g value x)) : pool.foldlM f start = .ok (pool.foldl g start) := by
  induction pool generalizing start with
  | nil => rfl
  | cons x rest ih =>
    rw [List.foldlM_cons,each x List.mem_cons_self start]
    exact ih (g start x) (fun y member => each y (List.mem_cons_of_mem _ member))

theorem mapM_some_of_each {B : Type} (f : A → Option B) (g : A → B) (pool : List A)
    (each : ∀ x ∈ pool, f x = some (g x)) :
    pool.mapM f = some (pool.map g) := by
  induction pool with
  | nil => rfl
  | cons x rest ih =>
    rw [List.mapM_cons,each x List.mem_cons_self,ih (fun y member => each y (List.mem_cons_of_mem _ member))]
    rfl

structure Distinct (A : Type) where
  items : List A
  own : items.Nodup

namespace Distinct

def empty : Distinct A := ⟨[],List.nodup_nil⟩

instance : Membership A (Distinct A) := ⟨fun pool x => x ∈ pool.items⟩

instance [DecidableEq A] (x : A) (pool : Distinct A) : Decidable (x ∈ pool) :=
  inferInstanceAs (Decidable (x ∈ pool.items))

def add [DecidableEq A] (pool : Distinct A) (x : A) : Distinct A :=
  if here : x ∈ pool.items then pool
  else ⟨pool.items ++ [x],List.nodup_append.mpr ⟨pool.own,by simp,fun old member new last =>
    fun same => here (List.mem_singleton.mp last ▸ same ▸ member)⟩⟩

def delete [DecidableEq A] (pool : Distinct A) (x : A) : Distinct A :=
  ⟨pool.items.filter (fun y => y ≠ x),pool.own.filter _⟩

@[simp] theorem mem_empty (x : A) : x ∉ (empty : Distinct A) := List.not_mem_nil

@[simp] theorem mem_items (x : A) (pool : Distinct A) : x ∈ pool.items ↔ x ∈ pool := Iff.rfl

@[simp] theorem mem_add [DecidableEq A] (pool : Distinct A) (x y : A) : y ∈ pool.add x ↔ y ∈ pool ∨ y = x := by
  unfold add
  split
  next here =>
    refine ⟨Or.inl,?_⟩
    rintro (old | rfl)
    · exact old
    · exact here
  next => exact List.mem_append.trans (or_congr_right List.mem_singleton)

@[simp] theorem mem_delete [DecidableEq A] (pool : Distinct A) (x y : A) : y ∈ pool.delete x ↔ y ∈ pool ∧ y ≠ x := by
  change y ∈ pool.items.filter _ ↔ _
  simp

end Distinct

end Containers
