import BoarPack.Library.Inheritance
import BoarPack.Library.Transition
import BoarPack.Tools.VirtualColumn

/-! Where `VirtualColumn` keeps its metadata: an object that is found along the prototype chain of the class it
decorates, and changed in place. -/
namespace BoarPack.Tools.VirtualColumnMetadata
open Containers Transition

variable {C : Type} [DecidableEq C]

/-- `metadata`: which object a class has of its own. `declared` is history: the declarations made on each class. -/
structure State (C : Type) where
  metadata : C → Option Nat := fun _ => none
  objects : List MetaInfo := []
  declared : C → MetaInfo := fun _ => []

structure Declaration (C : Type) where
  target : C
  propertyKey : String
  name : Option String
  deriving DecidableEq, Repr

def Declaration.column (declaration : Declaration C) : String := declaration.name.getD declaration.propertyKey

section

variable (h : Hierarchy C) (s : State C)

/-- `Reflect.getMetadata` returns the object itself. -/
def getMetadata (c : C) : Option Nat := h.inherited s.metadata c

/-- What the query builder reads for an entity of a class. -/
def metaInfo (c : C) : MetaInfo := ((getMetadata h s c).bind (s.objects[·]?)).getD []

def virtualColumn (declaration : Declaration C) : State C :=
  let declared := Function.update s.declared declaration.target
    (set (s.declared declaration.target) declaration.propertyKey declaration.column)
  match getMetadata h s declaration.target with
  | some object => {
      metadata := Function.update s.metadata declaration.target (some object)
      objects := s.objects.modify object (fun metaInfo => set metaInfo declaration.propertyKey declaration.column)
      declared := declared }
  | none => {
      metadata := Function.update s.metadata declaration.target (some s.objects.length)
      objects := s.objects ++ [[(declaration.propertyKey,declaration.column)]]
      declared := declared }

def step (declaration : Declaration C) : Option (State C) := some (virtualColumn h s declaration)

def inheritedColumn (c : C) (propertyKey : String) : Option String :=
  h.inherited (fun d => get (s.declared d) propertyKey) c

/-- Each class maps what is declared on it and on its ancestors, the nearest declaration of a property first. -/
def Exact : Prop := ∀ c propertyKey, get (metaInfo h s c) propertyKey = inheritedColumn h s c propertyKey

def Shares (target c : C) : Prop :=
  getMetadata h s c = getMetadata h s target ∧ (target ∈ h.chain c ∨ (getMetadata h s target).isSome = true)

/-- A declaration is written for the classes that are to see it, and for no others that do not map it already. -/
def Reaches (declaration : Declaration C) : Prop :=
  ∀ c, get (metaInfo h s c) declaration.propertyKey = some declaration.column ∨
    (Shares h s declaration.target c ↔
      h.Sees (fun d => get (s.declared d) declaration.propertyKey) declaration.target c)

def Valid : Prop := ∀ c object, s.metadata c = some object → object < s.objects.length

end

section Steps

variable {h : Hierarchy C} {s : State C}

omit [DecidableEq C] in
private theorem valid_getMetadata (valid : Valid s) {c : C} {object : Nat} (found : getMetadata h s c = some object) :
    object < s.objects.length := by
  obtain ⟨d,_,own⟩ := List.exists_of_findSome?_eq_some found
  exact valid d object own

private theorem virtualColumn_found {declaration : Declaration C} {object : Nat}
    (found : getMetadata h s declaration.target = some object) :
    (virtualColumn h s declaration).metadata = Function.update s.metadata declaration.target (some object) ∧
      (virtualColumn h s declaration).objects =
        s.objects.modify object (fun metaInfo => set metaInfo declaration.propertyKey declaration.column) := by
  rw [virtualColumn,found]
  exact ⟨rfl,rfl⟩

private theorem virtualColumn_nothing {declaration : Declaration C}
    (nothing : getMetadata h s declaration.target = none) :
    (virtualColumn h s declaration).metadata = Function.update s.metadata declaration.target (some s.objects.length) ∧
      (virtualColumn h s declaration).objects = s.objects ++ [[(declaration.propertyKey,declaration.column)]] := by
  rw [virtualColumn,nothing]
  exact ⟨rfl,rfl⟩

private theorem valid_virtualColumn (valid : Valid s) (declaration : Declaration C) :
    Valid (virtualColumn h s declaration) := by
  intro c object own
  cases found : getMetadata h s declaration.target with
  | some shared =>
    obtain ⟨metadata,objects⟩ := virtualColumn_found found
    rw [objects,List.length_modify]
    rw [metadata,Function.update_apply] at own
    split at own
    next => exact Option.some.inj own ▸ valid_getMetadata valid found
    next => exact valid c object own
  | none =>
    obtain ⟨metadata,objects⟩ := virtualColumn_nothing found
    rw [objects,List.length_append,List.length_singleton]
    rw [metadata,Function.update_apply] at own
    split at own
    next => exact Option.some.inj own ▸ Nat.lt_succ_self _
    next => exact Nat.lt_succ_of_lt (valid c object own)

private theorem getMetadata_found {declaration : Declaration C} {object : Nat}
    (found : getMetadata h s declaration.target = some object)
    (c : C) : getMetadata h (virtualColumn h s declaration) c = getMetadata h s c := by
  obtain ⟨metadata,_⟩ := virtualColumn_found found
  obtain ⟨seen,unseen⟩ := h.inherited_update s.metadata declaration.target object c
  rw [getMetadata,metadata]
  by_cases sees : h.Sees s.metadata declaration.target c
  · rw [seen sees]
    exact ((h.inherited_sees s.metadata sees).trans found).symm
  · exact unseen sees

omit [DecidableEq C] in
private theorem shares_found {declaration : Declaration C} {object : Nat}
    (found : getMetadata h s declaration.target = some object)
    (c : C) : Shares h s declaration.target c ↔ getMetadata h s c = some object := by
  rw [Shares,found]
  simp

private theorem shares_nothing {declaration : Declaration C}
    (nothing : getMetadata h s declaration.target = none) (c : C) :
    Shares h s declaration.target c ↔ h.Sees s.metadata declaration.target c := by
  rw [Shares,nothing,h.sees_of_none s.metadata nothing c]
  simp [getMetadata]

/-- A declaration changes what is read by the classes that share the object it is written to. -/
theorem metaInfo_virtualColumn (valid : Valid s) (declaration : Declaration C) (c : C) :
    (Shares h s declaration.target c → metaInfo h (virtualColumn h s declaration) c =
        set (metaInfo h s c) declaration.propertyKey declaration.column) ∧
      (¬ Shares h s declaration.target c → metaInfo h (virtualColumn h s declaration) c = metaInfo h s c) := by
  cases found : getMetadata h s declaration.target with
  | some object =>
    obtain ⟨_,objects⟩ := virtualColumn_found found
    rw [shares_found found c,metaInfo,metaInfo,getMetadata_found found c,objects]
    constructor
    · intro shares
      have inside := List.getElem?_eq_getElem (valid_getMetadata valid found)
      simp [shares,inside]
    · intro apart
      cases read : getMetadata h s c with
      | none => rfl
      | some other =>
        have differs : object ≠ other := fun same => apart (read.trans (congrArg some same.symm))
        simp [List.getElem?_modify,differs]
  | none =>
    obtain ⟨metadata,objects⟩ := virtualColumn_nothing found
    obtain ⟨seen,unseen⟩ := h.inherited_update s.metadata declaration.target s.objects.length c
    rw [shares_nothing found c,metaInfo,metaInfo,getMetadata,metadata,objects]
    constructor
    · intro sees
      have empty : getMetadata h s c = none := (h.inherited_sees s.metadata sees).trans found
      rw [seen sees,empty]
      simp [Containers.set]
    · intro sees
      rw [unseen sees]
      cases read : h.inherited s.metadata c with
      | none => simp [getMetadata,read]
      | some other =>
        have inside := valid_getMetadata (h := h) (c := c) valid read
        simp [getMetadata,read,List.getElem?_append_left inside]

private theorem declared_virtualColumn (declaration : Declaration C) : (virtualColumn h s declaration).declared =
    Function.update s.declared declaration.target
      (set (s.declared declaration.target) declaration.propertyKey declaration.column) := by
  rw [virtualColumn]
  split <;> rfl

private theorem inheritedColumn_virtualColumn (declaration : Declaration C) (c : C) :
    (h.Sees (fun d => get (s.declared d) declaration.propertyKey) declaration.target c →
        inheritedColumn h (virtualColumn h s declaration) c declaration.propertyKey = some declaration.column) ∧
      (¬ h.Sees (fun d => get (s.declared d) declaration.propertyKey) declaration.target c →
        inheritedColumn h (virtualColumn h s declaration) c declaration.propertyKey =
          inheritedColumn h s c declaration.propertyKey) := by
  have declared : (fun d => get ((virtualColumn h s declaration).declared d) declaration.propertyKey) =
      Function.update (fun d => get (s.declared d) declaration.propertyKey) declaration.target
        (some declaration.column) := by
    funext d
    rw [declared_virtualColumn,Function.update_apply,Function.update_apply]
    split
    next => exact get_set_self _ _ _
    next => rfl
  rw [inheritedColumn,declared]
  exact h.inherited_update _ _ _ c

private theorem inheritedColumn_other (declaration : Declaration C) (c : C) {propertyKey : String}
    (other : propertyKey ≠ declaration.propertyKey) :
    inheritedColumn h (virtualColumn h s declaration) c propertyKey = inheritedColumn h s c propertyKey := by
  apply Hierarchy.findSome?_congr
  intro d _
  rw [declared_virtualColumn,Function.update_apply]
  split
  next here => rw [get_set_other _ _ _ _ other,here]
  next => rfl

/-- What a class maps the declared property to is right after the declaration, if and only if it is written for the
class as it should be, or the class maps the property to the column already. -/
theorem column_virtualColumn (valid : Valid s) (exact : Exact h s) (declaration : Declaration C) (c : C) :
    get (metaInfo h s c) declaration.propertyKey = some declaration.column ∨
        (Shares h s declaration.target c ↔
          h.Sees (fun d => get (s.declared d) declaration.propertyKey) declaration.target c) ↔
      get (metaInfo h (virtualColumn h s declaration) c) declaration.propertyKey =
        inheritedColumn h (virtualColumn h s declaration) c declaration.propertyKey := by
  obtain ⟨shared,unshared⟩ := metaInfo_virtualColumn valid declaration c
  obtain ⟨seen,unseen⟩ := inheritedColumn_virtualColumn (h := h) (s := s) declaration c
  have before := exact c declaration.propertyKey
  by_cases shares : Shares h s declaration.target c
  · rw [shared shares,get_set_self]
    by_cases sees : h.Sees (fun d => get (s.declared d) declaration.propertyKey) declaration.target c
    · rw [seen sees]
      exact iff_of_true (Or.inr (iff_of_true shares sees)) rfl
    · rw [unseen sees,← before]
      constructor
      · rintro (already | agrees)
        · exact already.symm
        · exact absurd (agrees.mp shares) sees
      · exact fun same => Or.inl same.symm
  · rw [unshared shares]
    by_cases sees : h.Sees (fun d => get (s.declared d) declaration.propertyKey) declaration.target c
    · rw [seen sees]
      constructor
      · rintro (already | agrees)
        · exact already
        · exact absurd (agrees.mpr sees) shares
      · exact Or.inl
    · rw [unseen sees]
      exact iff_of_true (Or.inr (iff_of_false shares sees)) before

private theorem other_virtualColumn (valid : Valid s) (exact : Exact h s) (declaration : Declaration C) (c : C)
    {propertyKey : String} (other : propertyKey ≠ declaration.propertyKey) :
    get (metaInfo h (virtualColumn h s declaration) c) propertyKey =
      inheritedColumn h (virtualColumn h s declaration) c propertyKey := by
  obtain ⟨shared,unshared⟩ := metaInfo_virtualColumn valid declaration c
  rw [inheritedColumn_other declaration c other,← exact c propertyKey]
  by_cases shares : Shares h s declaration.target c
  · rw [shared shares,get_set_other _ _ _ _ other]
  · rw [unshared shares]

private theorem exact_step (valid : Valid s) (exact : Exact h s) (declaration : Declaration C) :
    Reaches h s declaration ↔ Exact h (virtualColumn h s declaration) := by
  constructor
  · intro reaches c propertyKey
    by_cases same : propertyKey = declaration.propertyKey
    · subst same
      exact (column_virtualColumn valid exact declaration c).mp (reaches c)
    · exact other_virtualColumn valid exact declaration c same
  · intro after c
    exact (column_virtualColumn valid exact declaration c).mpr (after c declaration.propertyKey)

private theorem inheritedColumn_outside (declaration : Declaration C) {c : C} (outside : declaration.target ∉ h.chain c)
    (propertyKey : String) :
    inheritedColumn h (virtualColumn h s declaration) c propertyKey = inheritedColumn h s c propertyKey := by
  by_cases same : propertyKey = declaration.propertyKey
  · subst same
    exact (inheritedColumn_virtualColumn declaration c).2 (fun sees => outside sees.1)
  · exact inheritedColumn_other declaration c same

end Steps

/-- In a run of declarations the classes map what is declared on them and on their ancestors, if and only if every
declaration reaches the classes that are to see it and no others; and then no class is changed by a declaration on a
class that it does not inherit from. -/
theorem declarations_exact_iff (h : Hierarchy C) (declarations : List (Declaration C)) :
    (Always (step h) (Exact h) {} declarations ↔ Meets (step h) (Reaches h) {} declarations) ∧
    (∀ s declaration c propertyKey, Exact h s → Exact h (virtualColumn h s declaration) →
      declaration.target ∉ h.chain c →
      get (metaInfo h (virtualColumn h s declaration) c) propertyKey = get (metaInfo h s c) propertyKey) := by
  constructor
  · apply always_iff_meets Valid (Exact h) (Reaches h)
    · intro s declaration t valid taken
      obtain rfl := Option.some.inj taken
      exact valid_virtualColumn valid declaration
    · intro s declaration t valid exact taken
      obtain rfl := Option.some.inj taken
      exact exact_step valid exact declaration
    · intro c object never
      cases never
    · intro c propertyKey
      have undeclared : inheritedColumn h {} c propertyKey = none := List.findSome?_eq_none_iff.mpr (fun _ _ => rfl)
      have unread : getMetadata h {} c = none := List.findSome?_eq_none_iff.mpr (fun _ _ => rfl)
      rw [undeclared,metaInfo,unread]
      rfl
  · intro s declaration c propertyKey before after outside
    rw [after c propertyKey,before c propertyKey,inheritedColumn_outside declaration outside]

/-- `true` extends `false`. -/
def extending : Hierarchy Bool where
  chain c := if c then [true,false] else [false]
  head c := by cases c <;> simp
  above c d := by cases c <;> cases d <;> decide
  distinct c := by cases c <;> decide

theorem parent_maps_subclass :
    ¬ Always (step extending) (Exact extending) {} [⟨false,"first",none⟩,⟨true,"second",none⟩] := by
  intro always
  have leaked := ((always.2 _ rfl).2 _ rfl) false "second"
  revert leaked
  decide

end BoarPack.Tools.VirtualColumnMetadata
