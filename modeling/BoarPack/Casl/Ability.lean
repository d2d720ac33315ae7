import BoarPack.Common
import BoarPack.Library.Precedence

/-! What the CASL packages do with rules, as far as this repository uses it. The packages are
parameters; `Documented` names what is relied on. -/
namespace BoarPack.Casl
open Containers Precedence

/-- A `RawRule` with its single values in lists. `because` decides nothing and is left out. -/
structure RawRule (T C : Type) where
  action : List String
  subject : List T
  inverted : Bool := false
  conditions : Option C := none
  fields : Option (List String) := none
  deriving DecidableEq, Repr

/-- A subject type, or an instance of it. -/
structure Subject (T O : Type) where
  type : T
  object : Option O := none
  deriving DecidableEq, Repr

variable {T C O P : Type}

def anyAction : String := "manage"

/-- The conditions matcher and the field matcher of the abilities. -/
structure Matchers (C O : Type) where
  matchConditions : C → O → Bool
  matchField : List String → String → Bool

/-- `all` is the subject type 'all' among those in use. -/
structure Package (C O P : Type) extends Matchers C O where
  can : {T : Type} → [DecidableEq T] → (all : T) → List (RawRule T C) → String → Subject T O → Option String → Bool
  permittedFieldsOf : {T : Type} → [DecidableEq T] → (all : T) → List (RawRule T C) → String → T →
    (RawRule T C → List String) → List String
  packRules : {T : Type} → (T → String) → List (RawRule T C) → List P
  unpackRules : List P → List (RawRule String C)

namespace RawRule

def concerns [DecidableEq T] (all : T) (action : String) (type : T) (rule : RawRule T C) : Bool :=
  (rule.action.contains action || rule.action.contains anyAction) && (rule.subject.contains type ||
    rule.subject.contains all)

/-- Without an object to look at, conditions hold for a direct rule only. -/
def matchesConditions (casl : Matchers C O) (object : Option O) (rule : RawRule T C) : Bool :=
  match rule.conditions, object with
  | none, _ => true
  | some _, none => !rule.inverted
  | some conditions, some object => casl.matchConditions conditions object

/-- An empty field is none. -/
def covers (casl : Matchers C O) (field : Option String) (rule : RawRule T C) : Bool :=
  match rule.fields, field.filter (· != "") with
  | none, _ => true
  | some _, none => !rule.inverted
  | some fields, some field => casl.matchField fields field

def applies [DecidableEq T] (casl : Matchers C O) (all : T) (action : String) (subject : Subject T O)
    (rule : RawRule T C) : Bool :=
  rule.concerns all action subject.type && rule.matchesConditions casl subject.object

def rename {U : Type} (name : T → U) (rule : RawRule T C) : RawRule U C :=
  { action := rule.action, subject := rule.subject.map name, inverted := rule.inverted,
    conditions := rule.conditions, fields := rule.fields }

end RawRule

/-- The last matching rule, if it is direct. -/
def allows (p : RawRule T C → Bool) (rules : List (RawRule T C)) : Bool :=
  match last p rules with
  | some rule => !rule.inverted
  | none => false

/-- Words that `packRules` can join with commas and `unpackRules` split again. -/
def Word (word : String) : Prop := word ≠ "" ∧ ',' ∉ word.toList

instance (word : String) : Decidable (Word word) := inferInstanceAs (Decidable (word ≠ "" ∧ ',' ∉ word.toList))

structure Packable (name : T → String) (rule : RawRule T C) : Prop where
  action : rule.action ≠ [] ∧ ∀ action ∈ rule.action, Word action
  subject : rule.subject ≠ [] ∧ ∀ type ∈ rule.subject, Word (name type)
  fields : ∀ fields, rule.fields = some fields → fields ≠ [] ∧ ∀ field ∈ fields, Word field

structure Documented (casl : Package C O P) : Prop where
  decides : ∀ {T : Type} [DecidableEq T] (all : T) (rules : List (RawRule T C)) action subject field,
    casl.can all rules action subject field =
      allows (fun rule => rule.applies casl.toMatchers all action subject && rule.covers casl.toMatchers field) rules
  permitted : ∀ {T : Type} [DecidableEq T] (all : T) (rules : List (RawRule T C)) action type fieldsFrom,
    casl.permittedFieldsOf all rules action type fieldsFrom =
      (toggled RawRule.inverted fieldsFrom
        (rules.filter (fun rule => rule.applies casl.toMatchers all action ⟨type,none⟩))).items
  unpacked : ∀ {T : Type} (name : T → String) (rules : List (RawRule T C)), (∀ rule ∈ rules, Packable name rule) →
    casl.unpackRules (casl.packRules name rules) = rules.map (fun rule => rule.rename name)

theorem allows_split (p : RawRule T C → Bool) (older newer : List (RawRule T C)) (rule : RawRule T C)
    (nothing : last p newer = none) :
    allows p (older ++ rule :: newer) = if p rule then !rule.inverted else allows p older := by
  unfold allows
  rw [last_split,nothing,Option.none_or]
  cases p rule <;> rfl

theorem allows_map {U : Type} (p : RawRule U C → Bool) (f : RawRule T C → RawRule U C)
    (kept : ∀ rule, (f rule).inverted = rule.inverted) (rules : List (RawRule T C)) :
    allows p (rules.map f) = allows (fun rule => p (f rule)) rules := by
  unfold allows
  rw [last_map]
  cases last (fun rule => p (f rule)) rules with
  | none => rfl
  | some rule => simp [kept rule]

section Rename

variable {U : Type} (name : T → U)

@[simp] theorem covers_rename (casl : Matchers C O) (field : Option String) (rule : RawRule T C) :
    (rule.rename name).covers casl field = rule.covers casl field := rfl

variable [DecidableEq T] [DecidableEq U] (own : Function.Injective name)

include own in
private theorem contains_rename (types : List T) (type : T) :
    (types.map name).contains (name type) = types.contains type := by
  rw [Bool.eq_iff_iff]
  simp [own.eq_iff]

include own in
theorem applies_rename (casl : Matchers C O) (all : T) (action : String) (subject : Subject T O) (rule : RawRule T C) :
    (rule.rename name).applies casl (name all) action ⟨name subject.type,subject.object⟩ =
      rule.applies casl all action subject := by
  simp only [RawRule.applies,RawRule.concerns,RawRule.rename,contains_rename name own]
  rfl

end Rename

structure PackRule (C : Type) where
  action : String
  subject : String
  conditions : Option C
  inverted : Bool
  fields : Option String
  deriving DecidableEq, Repr

def packRule (name : T → String) (rule : RawRule T C) : PackRule C where
  action := String.intercalate "," rule.action
  subject := String.intercalate "," (rule.subject.map name)
  conditions := rule.conditions
  inverted := rule.inverted
  fields := rule.fields.map (String.intercalate ",")

def unpackRule (packed : PackRule C) : RawRule String C where
  action := split ',' packed.action
  subject := split ',' packed.subject
  inverted := packed.inverted
  conditions := packed.conditions
  fields := packed.fields.map (split ',')

def package (matchers : Matchers C O) : Package C O (PackRule C) where
  toMatchers := matchers
  can all rules action subject field :=
    allows (fun rule => rule.applies matchers all action subject && rule.covers matchers field) rules
  permittedFieldsOf all rules action type fieldsFrom :=
    (toggled RawRule.inverted fieldsFrom
      (rules.filter (fun rule => rule.applies matchers all action ⟨type,none⟩))).items
  packRules name rules := rules.map (packRule name)
  unpackRules packed := packed.map unpackRule

/-- Conditions by equality, and '*' as the only pattern. -/
def plainMatchers : Matchers (List (String × String)) (List (String × String)) where
  matchConditions conditions object := conditions.all (fun entry => Containers.get object entry.1 == some entry.2)
  matchField fields field := fields.contains field || (fields.contains "*" && !field.toList.contains '.')

private theorem split_words (words : List String) (given : words ≠ []) (plain : ∀ word ∈ words, Word word) :
    split ',' (String.intercalate "," words) = words :=
  split_intercalate rfl words given (fun word member => (plain word member).2)

private theorem unpackRule_packRule (name : T → String) (rule : RawRule T C) (packable : Packable name rule) :
    unpackRule (packRule name rule) = rule.rename name := by
  obtain ⟨⟨some_action,actions⟩,⟨some_subject,subjects⟩,fields⟩ := packable
  have names : ∀ word ∈ rule.subject.map name, Word word := by
    intro word inside
    obtain ⟨type,held,rfl⟩ := List.mem_map.mp inside
    exact subjects type held
  simp only [unpackRule,packRule,RawRule.rename]
  rw [split_words rule.action some_action actions,split_words _ (by simpa using some_subject) names]
  cases held : rule.fields with
  | none => rfl
  | some given =>
    rw [Option.map_some,Option.map_some,split_words given (fields given held).1 (fields given held).2]

theorem package_documented (matchers : Matchers C O) : Documented (package matchers) where
  decides all rules action subject field := rfl
  permitted all rules action type fieldsFrom := rfl
  unpacked name rules packable := by
    change (rules.map (packRule name)).map unpackRule = _
    rw [List.map_map]
    exact List.map_congr_left (fun rule member => unpackRule_packRule name rule (packable rule member))

end BoarPack.Casl
