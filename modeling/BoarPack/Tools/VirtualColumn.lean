import BoarPack.Library.Containers
import BoarPack.Library.FirstAppearance

/-! `VirtualColumn`, and the patch of `SelectQueryBuilder.executeEntitiesAndRawResults` that fills the virtual
properties. What TypeORM makes of the raw rows is given, but for the grouping by primary key. -/
namespace BoarPack.Tools
open Containers FirstAppearance

variable {K V : Type} [DecidableEq K]

/-- A raw row: values under the aliases of the query. -/
abbrev Raw (V : Type) : Type := List (String × V)

/-- A property that is assigned `undefined` is there. -/
structure Entity (V : Type) where
  className : String
  properties : List (String × Option V)
  deriving DecidableEq, Repr

abbrev MetaInfo : Type := List (String × String)

/-- The decorator `@VirtualColumn(name)` of a property. -/
def virtualColumn (metaInfo : Option MetaInfo) (column : String × Option String) : Option MetaInfo :=
  some (set (metaInfo.getD []) column.1 (column.2.getD column.1))

/-- The decorators that apply to the prototype of a class, those of its ancestors included. -/
abbrev Decorators : Type := String → List (String × Option String)

def getMetadata (decorators : Decorators) (entity : Entity V) : Option MetaInfo :=
  (decorators entity.className).foldl virtualColumn none

/-- What is used of TypeORM: the primary key of the entity a raw row belongs to, and the entity that is made
of the rows of a key. -/
structure Transformer (K V : Type) where
  primaryKey : Raw V → K
  entity : K → List (Raw V) → Entity V

/-- One entity for each key, in the order of first appearance. -/
def originExecute (transformer : Transformer K V) (raw : List (Raw V)) : List (K × Entity V) :=
  (raw.map transformer.primaryKey).eraseDups.map (fun key =>
    (key,transformer.entity key (raw.filter (fun row => transformer.primaryKey row = key))))

/-- `entity[propertyKey] = item[name]`, which throws where there is no item. -/
def assignColumn (item : Option (Raw V)) (entity : Entity V) (column : String × String) : Option (Entity V) :=
  item.map (fun item => { entity with properties := set entity.properties column.1 (get item column.2) })

/-- What an iteration of the patch has in its hands, and the entity it leaves. -/
structure Iteration (K V : Type) where
  key : K
  metaInfo : MetaInfo
  item : Option (Raw V)
  entity : Entity V
  deriving DecidableEq, Repr

def iteration (decorators : Decorators) (raw : List (Raw V)) (element : (K × Entity V) × Nat) :
    Option (Iteration K V) :=
  let metaInfo := (getMetadata decorators element.1.2).getD []
  -- the raw rows are not grouped: an entity meets the row at its own index
  let item := raw[element.2]?
  (metaInfo.foldlM (assignColumn item) element.1.2).map (fun entity => ⟨element.1.1,metaInfo,item,entity⟩)

/-- The iterations over the entities, or none where one throws. -/
def executeEntitiesAndRawResults (transformer : Transformer K V) (decorators : Decorators) (raw : List (Raw V)) :
    Option (List (Iteration K V)) :=
  (originExecute transformer raw).zipIdx.mapM (iteration decorators raw)

def Iteration.Own (transformer : Transformer K V) (raw : List (Raw V)) (i : Iteration K V) : Prop :=
  i.metaInfo ≠ [] → ∃ item ∈ raw, i.item = some item ∧ transformer.primaryKey item = i.key ∧
    ∀ column ∈ i.metaInfo, get i.entity.properties column.1 = some (get item column.2)

/-- Up to the raw row at the index of an entity with virtual columns, all rows belong to different entities. -/
def OneRowEach (transformer : Transformer K V) (decorators : Decorators) (raw : List (Raw V)) : Prop :=
  ∀ (i : Nat) (keyed : K × Entity V), (originExecute transformer raw)[i]? = some keyed →
    (getMetadata decorators keyed.2).getD [] ≠ [] → ((raw.take (i + 1)).map transformer.primaryKey).Nodup

private theorem getMetadata_nodup (decorators : Decorators) (entity : Entity V) :
    (((getMetadata decorators entity).getD []).map Prod.fst).Nodup := by
  unfold getMetadata
  suffices kept : ∀ (columns : List (String × Option String)) (metaInfo : Option MetaInfo),
    ((metaInfo.getD []).map Prod.fst).Nodup →
      (((columns.foldl virtualColumn metaInfo).getD []).map Prod.fst).Nodup from
    kept (decorators entity.className) none List.nodup_nil
  intro columns
  induction columns with
  | nil => exact fun _ distinct => distinct
  | cons column rest ih => exact fun metaInfo distinct => ih (virtualColumn metaInfo column) (nodup_set distinct _ _)

private theorem assignColumns (metaInfo : MetaInfo) (item : Raw V) (entity : Entity V) :
    metaInfo.foldlM (assignColumn (some item)) entity =
      some { entity with
        properties := assign entity.properties (metaInfo.map (fun column => (column.1,get item column.2))) } := by
  induction metaInfo generalizing entity with
  | nil => rfl
  | cons column rest ih =>
    rw [List.foldlM_cons]
    exact ih { entity with properties := set entity.properties column.1 (get item column.2) }

private theorem get_assignColumns (metaInfo : MetaInfo) (distinct : (metaInfo.map Prod.fst).Nodup) (item : Raw V)
    (properties : List (String × Option V)) (column : String × String) (member : column ∈ metaInfo) :
    get (assign properties (metaInfo.map (fun column => (column.1,get item column.2)))) column.1 =
      some (get item column.2) := by
  have keys : ((metaInfo.map (fun column => (column.1,get item column.2))).map Prod.fst).Nodup := by
    rw [List.map_map]
    exact distinct
  have held : get (metaInfo.map (fun column => (column.1,get item column.2))) column.1 = some (get item column.2) :=
    (get_some_iff keys column.1 (get item column.2)).mpr (List.mem_map_of_mem member)
  rw [get_assign_nodup properties _ keys,held]
  rfl

private theorem originExecute_key (transformer : Transformer K V) (raw : List (Raw V)) (i : Nat) (keyed : K × Entity V)
    (found : (originExecute transformer raw)[i]? = some keyed) :
    (raw.map transformer.primaryKey).eraseDups[i]? = some keyed.1 := by
  unfold originExecute at found
  rw [List.getElem?_map] at found
  obtain ⟨key,here,rfl⟩ := Option.map_eq_some_iff.mp found
  exact here

private theorem originExecute_inside (transformer : Transformer K V) (raw : List (Raw V)) (i : Nat)
    (keyed : K × Entity V)
    (found : (originExecute transformer raw)[i]? = some keyed) : ∃ item, raw[i]? = some item := by
  have key := originExecute_key transformer raw i keyed found
  obtain ⟨bound,_⟩ := List.getElem?_eq_some_iff.mp key
  have inside := Nat.lt_of_lt_of_le bound (length_eraseDups_le _)
  rw [List.length_map] at inside
  exact ⟨raw[i],List.getElem?_eq_getElem inside⟩

def iterated (decorators : Decorators) (raw : List (Raw V)) (element : (K × Entity V) × Nat) : Iteration K V :=
  let metaInfo := (getMetadata decorators element.1.2).getD []
  let item := raw[element.2]?.getD []
  ⟨element.1.1,metaInfo,some item,{ element.1.2 with
    properties := assign element.1.2.properties (metaInfo.map (fun column => (column.1,get item column.2))) }⟩

omit [DecidableEq K] in
private theorem iteration_inside (decorators : Decorators) (raw : List (Raw V)) (element : (K × Entity V) × Nat)
    (item : Raw V) (found : raw[element.2]? = some item) :
    iteration decorators raw element = some (iterated decorators raw element) := by
  simp only [iteration,iterated,found,assignColumns,Option.map_some,Option.getD_some]

/-- Nothing throws: there are at least as many raw rows as entities. -/
theorem execute_returns (transformer : Transformer K V) (decorators : Decorators) (raw : List (Raw V)) :
    executeEntitiesAndRawResults transformer decorators raw =
      some ((originExecute transformer raw).zipIdx.map (iterated decorators raw)) := by
  refine mapM_some_of_each _ _ _ (fun element member => ?_)
  obtain ⟨item,found⟩ := originExecute_inside transformer raw element.2 element.1
    (List.mem_zipIdx_iff_getElem?.mp member)
  exact iteration_inside decorators raw element item found

private theorem iterated_own_iff (transformer : Transformer K V) (decorators : Decorators)
    (raw : List (Raw V)) (i : Nat) (keyed : K × Entity V) (found : (originExecute transformer raw)[i]? = some keyed) :
    (iterated decorators raw (keyed,i)).Own transformer raw ↔
      ((getMetadata decorators keyed.2).getD [] ≠ [] → ((raw.take (i + 1)).map transformer.primaryKey).Nodup) := by
  obtain ⟨item,here⟩ := originExecute_inside transformer raw i keyed found
  have stands : (raw.map transformer.primaryKey)[i]? = some keyed.1 ↔ _ :=
    at_index_iff _ i keyed.1 (originExecute_key transformer raw i keyed found)
  rw [List.getElem?_map,here,Option.map_some,Option.some.injEq,← List.map_take] at stands
  rw [← stands]
  have read : (iterated decorators raw (keyed,i)).item = some item := by
    simp only [iterated,here,Option.getD_some]
  constructor
  · intro own virtual
    obtain ⟨other,_,same,belongs,_⟩ := own virtual
    obtain rfl := Option.some.inj (read.symm.trans same)
    exact belongs
  · intro belongs virtual
    refine ⟨item,List.mem_of_getElem? here,read,belongs virtual,fun column member => ?_⟩
    simp only [iterated,here,Option.getD_some] at member ⊢
    exact get_assignColumns _ (getMetadata_nodup decorators keyed.2) item keyed.2.properties column member

/-- The patch returns, and every entity with virtual columns has them from a raw row of its own, if and only if
the raw rows up to the index of each such entity all belong to different entities. -/
theorem virtual_columns_own_iff (transformer : Transformer K V) (decorators : Decorators) (raw : List (Raw V)) :
    (∃ iterations, executeEntitiesAndRawResults transformer decorators raw = some iterations ∧
      ∀ i ∈ iterations, i.Own transformer raw) ↔ OneRowEach transformer decorators raw := by
  rw [execute_returns]
  constructor
  · rintro ⟨iterations,returned,own⟩ i keyed found
    obtain rfl := Option.some.inj returned
    have member : iterated decorators raw (keyed,i) ∈ (originExecute transformer raw).zipIdx.map
        (iterated decorators raw) :=
      List.mem_map_of_mem (List.mem_zipIdx_iff_getElem?.mpr found)
    exact (iterated_own_iff transformer decorators raw i keyed found).mp (own _ member)
  · intro each
    refine ⟨_,rfl,fun i member => ?_⟩
    obtain ⟨element,inside,rfl⟩ := List.mem_map.mp member
    have found := List.mem_zipIdx_iff_getElem?.mp inside
    exact (iterated_own_iff transformer decorators raw element.2 element.1 found).mpr (each element.2 element.1 found)

def orderRows : List (Raw Nat) :=
  [[("o_id",1),("i_id",1),("total",20)],[("o_id",1),("i_id",2),("total",20)],[("o_id",2),("i_id",3),("total",50)]]

def orders : Transformer (Option Nat) Nat := ⟨fun row => get row "o_id",fun key _ => ⟨"Order",[("id",key)]⟩⟩

def totalColumn : Decorators := fun className => if className = "Order" then [("total",none)] else []

/-- Orders joined with their items: the second order shows the total of the first. -/
theorem total_of_another_order :
    ¬ ∃ iterations, executeEntitiesAndRawResults orders totalColumn orderRows = some iterations ∧
    ∀ i ∈ iterations, i.Own orders orderRows := by
  rintro ⟨iterations,returned,own⟩
  have ran : executeEntitiesAndRawResults orders totalColumn orderRows = some
      [⟨some 1,[("total","total")],some [("o_id",1),("i_id",1),("total",20)],
        ⟨"Order",[("id",some 1),("total",some 20)]⟩⟩,
        ⟨some 2,[("total","total")],some [("o_id",1),("i_id",2),("total",20)],
          ⟨"Order",[("id",some 2),("total",some 20)]⟩⟩] := by
    decide
  obtain rfl := Option.some.inj (ran.symm.trans returned)
  obtain ⟨item,_,same,belongs,_⟩ := own _ (List.mem_cons_of_mem _ List.mem_cons_self) (by decide)
  obtain rfl := Option.some.inj same
  revert belongs
  decide

end BoarPack.Tools
