import Mathlib.Data.List.Basic

/-! Ordered forests: the first tree by its label and its children, and the trees after it. -/

inductive Forest (A : Type)
  | nil
  | cons (label : A) (children rest : Forest A)
  deriving DecidableEq, Repr

namespace Forest

variable {A : Type}

/-- All labels, a parent before its children. -/
def labels : Forest A → List A
  | nil => []
  | cons label children rest => label :: (children.labels ++ rest.labels)

/-- All labels, each with its children. -/
def nodes : Forest A → List (A × Forest A)
  | nil => []
  | cons label children rest => (label,children) :: (children.nodes ++ rest.nodes)

/-- A label with `p` is reached from a root, through labels with `link`, its own included. -/
def Reaches (p link : A → Prop) : Forest A → Prop
  | nil => False
  | cons label children rest => link label ∧ (p label ∨ children.Reaches p link) ∨ rest.Reaches p link

/-- Where a label stands in a forest. -/
inductive Place : Forest A → Type
  | here {label : A} {children rest : Forest A} : Place (cons label children rest)
  | inner {label : A} {children rest : Forest A} (place : Place children) : Place (cons label children rest)
  | later {label : A} {children rest : Forest A} (place : Place rest) : Place (cons label children rest)

namespace Place

def label : {forest : Forest A} → Place forest → A
  | cons label _ _, here => label
  | _, inner place => place.label
  | _, later place => place.label

def IsRoot : {forest : Forest A} → Place forest → Prop
  | _, here => True
  | _, inner _ => False
  | _, later place => place.IsRoot

/-- A child of what stands there. -/
def IsParent : {forest : Forest A} → Place forest → Place forest → Prop
  | _, here, inner child => child.IsRoot
  | _, inner place, inner child => place.IsParent child
  | _, later place, later child => place.IsParent child
  | _, _, _ => False

/-- Before it, and not above it. -/
def IsLeftOf : {forest : Forest A} → Place forest → Place forest → Prop
  | _, here, later _ => True
  | _, inner _, later _ => True
  | _, inner place, inner other => place.IsLeftOf other
  | _, later place, later other => place.IsLeftOf other
  | _, _, _ => False

end Place

/-- The same trees in another order, below every label. -/
inductive Reordered : Forest A → Forest A → Prop
  | nil : Reordered nil nil
  | cons (label : A) {children other rest later : Forest A} (below : Reordered children other)
    (after : Reordered rest later) :
    Reordered (cons label children rest) (cons label other later)
  | swap (first second : A) (below also rest : Forest A) :
    Reordered (cons first below (cons second also rest)) (cons second also (cons first below rest))
  | trans {forest other last : Forest A} (first : Reordered forest other) (second : Reordered other last) :
    Reordered forest last

theorem Reordered.labels {forest other : Forest A} (reordered : Reordered forest other) :
    forest.labels.Perm other.labels := by
  induction reordered with
  | nil => exact List.Perm.refl []
  | cons label _ _ below after => exact (below.append after).cons label
  | swap first second below also rest =>
    simp only [Forest.labels]
    calc first :: (below.labels ++ second :: (also.labels ++ rest.labels))
        _ = (first :: below.labels) ++ ((second :: also.labels) ++ rest.labels) := by simp
        List.Perm _ ((second :: also.labels) ++ ((first :: below.labels) ++ rest.labels)) := by
          rw [← List.append_assoc,← List.append_assoc]
          exact List.perm_append_comm.append_right rest.labels
        _ = second :: (also.labels ++ first :: (below.labels ++ rest.labels)) := by simp
  | trans _ _ first second => exact first.trans second

theorem Reaches.exists {p link : A → Prop} {forest : Forest A} (reaches : forest.Reaches p link) :
    ∃ label ∈ forest.labels, p label := by
  induction forest with
  | nil => cases reaches
  | cons label children rest below after =>
    rcases reaches with ⟨_,here | inside⟩ | later
    · exact ⟨label,List.mem_cons_self,here⟩
    · obtain ⟨found,member,holds⟩ := below inside
      exact ⟨found,List.mem_cons_of_mem _ (List.mem_append_left _ member),holds⟩
    · obtain ⟨found,member,holds⟩ := after later
      exact ⟨found,List.mem_cons_of_mem _ (List.mem_append_right _ member),holds⟩

end Forest
