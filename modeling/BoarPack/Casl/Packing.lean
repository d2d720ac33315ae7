import BoarPack.Casl.AbilityFactory

/-! The ability that the client rebuilds decides as the one that was packed, as long as no field
list decides anything: `packAbility` leaves the lists out. -/
namespace BoarPack.Casl
open Containers Precedence Transition

variable {K C O P : Type} [DecidableEq K]

/-- The last rule for an action and a subject has no field list, or the rules before it decide
alike on what its list leaves out. -/
def FieldsDecideNothing (casl : Package C O P) (rules : List (Rule K C)) : Prop :=
  ∀ action subject older rule newer, rules = older ++ rule :: newer →
    rule.applies casl.toMatchers .all action subject = true →
      (∀ later ∈ newer, later.applies casl.toMatchers .all action subject = false) →
    ∀ fields, rule.fields = some fields → ∀ field, rule.covers casl.toMatchers field = false →
      casl.can .all older action subject field = !rule.inverted

omit [DecidableEq K] in
private theorem copied_packable (names : ClassNames K) (rule : Rule K C) (given : Given rule) :
    Packable (Subjects.text names) (copied rule) where
  action := by
    refine ⟨given.action.1,fun action member => ?_⟩
    obtain ⟨named,rfl⟩ := given.action.2 action member
    exact value_word named
  subject := ⟨given.subject,fun type _ => text_word names type⟩
  fields fields held := by cases held

/-- The client decides by the last rule for the action and the subject, whatever the field. -/
theorem unpacked_can (casl : Package C O P) (documented : Documented casl) (names : ClassNames K)
    (rules : List (Rule K C)) (given : ∀ rule ∈ rules, Given rule) (action : String)
    (subject : Subject (Subjects K) O) (field : Option String) :
    casl.can "all" (unpackAbility casl (packAbility casl names rules)) action
        ⟨subject.type.text names,subject.object⟩ field =
      allows (fun rule => rule.applies casl.toMatchers .all action subject) rules := by
  have packable : ∀ rule ∈ rules.map copied, Packable (Subjects.text names) rule := by
    intro rule member
    obtain ⟨original,inside,rfl⟩ := List.mem_map.mp member
    exact copied_packable names original (given original inside)
  unfold unpackAbility packAbility
  rw [documented.unpacked (Subjects.text names) (rules.map copied) packable,documented.decides]
  rw [allows_map _ (fun rule => rule.rename (Subjects.text names)) (fun rule => rfl),
    allows_map _ copied (fun rule => rfl)]
  congr 1
  funext rule
  have renamed := applies_rename (Subjects.text names) (text_injective names) casl.toMatchers .all action subject
    (copied rule)
  have uncovered : (copied rule).covers casl.toMatchers field = true := rfl
  rw [covers_rename,uncovered,Bool.and_true]
  exact renamed

/-- At the last rule for an action and a subject, the field matters only where the rule's list leaves it out. -/
theorem alike_at_last (matchers : Matchers C O) (action : String) (subject : Subject (Subjects K) O)
    (field : Option String) {older newer : List (Rule K C)} {rule : Rule K C}
    (applies : rule.applies matchers Subjects.all action subject = true)
    (nothing : ∀ later ∈ newer, later.applies matchers Subjects.all action subject = false) :
    allows (fun rule => rule.applies matchers Subjects.all action subject) (older ++ rule :: newer) =
        allows (fun rule => rule.applies matchers Subjects.all action subject && rule.covers matchers field)
          (older ++ rule :: newer) ↔
      (rule.covers matchers field = false →
        allows (fun rule => rule.applies matchers Subjects.all action subject && rule.covers matchers field) older =
          !rule.inverted) := by
  have none_applies := (last_eq_none _ newer).mpr nothing
  have none_decides := last_and_none _ (fun rule => rule.covers matchers field) newer none_applies
  rw [allows_split _ older newer rule none_applies,allows_split _ older newer rule none_decides,applies]
  cases rule.covers matchers field with
  | true => simp
  | false => simp [eq_comm]

/-- The packed ability decides as the original exactly if the field lists decide nothing. -/
theorem packed_decides_iff (casl : Package C O P) (documented : Documented casl) (names : ClassNames K)
    (factory : CaslAbilityFactory K C) (user : User) (turns : List Nat) (rules : List (Rule K C))
    (built : factory.createForUser user turns = some rules) :
    (∀ action subject field,
      casl.can "all" (unpackAbility casl (packAbility casl names rules)) action
          ⟨subject.type.text names,subject.object⟩ field =
        casl.can Subjects.all rules action subject field) ↔ FieldsDecideNothing casl rules := by
  have given := createForUser_given factory user turns rules built
  have rebuilt := unpacked_can casl documented names rules given
  constructor
  · intro same action subject older rule newer split applies nothing fields held field uncovered
    have agree := same action subject field
    rw [rebuilt action subject field,documented.decides] at agree
    subst split
    rw [documented.decides]
    exact (alike_at_last casl.toMatchers action subject field applies nothing).mp agree uncovered
  · intro alike action subject field
    rw [rebuilt action subject field,documented.decides]
    cases decides : last (fun rule => rule.applies casl.toMatchers Subjects.all action subject) rules with
    | none =>
      have none_decides := last_and_none _ (fun rule => rule.covers casl.toMatchers field) rules decides
      simp only [allows,decides,none_decides]
    | some rule =>
      -- the client stops at this rule; the server passes it where its list leaves the field out
      obtain ⟨older,newer,split,applies,none_applies⟩ := (last_eq_some _ rules rule).mp decides
      have nothing := (last_eq_none _ newer).mp none_applies
      subst split
      apply (alike_at_last casl.toMatchers action subject field applies nothing).mpr
      intro uncovered
      cases held : rule.fields with
      | none => simp [RawRule.covers,held] at uncovered
      | some fields =>
        have before := alike action subject older rule newer rfl applies nothing fields held field uncovered
        rw [documented.decides] at before
        exact before

/-- Users may be read, and their names again. -/
def readsAll : CaslAbilityFactory Unit (List (String × String)) where
  abilitiesDefiners := [plainDefiner [[readUser false none,readUser false (some ["name"])]] (by
    intro part member rule inside
    obtain rfl := List.mem_singleton.mp member
    rcases List.mem_pair.mp inside with rfl | rfl <;> exact readUser_given _ _)]

theorem redundant_list_packed : ∃ rules, readsAll.createForUser plainUser [] = some rules ∧
    ((∀ action (subject : Subject (Subjects Unit) _) field,
      (package plainMatchers).can "all"
        (unpackAbility (package plainMatchers) (packAbility (package plainMatchers) oneClass rules))
          action ⟨subject.type.text oneClass,subject.object⟩ field =
        (package plainMatchers).can Subjects.all rules action subject field) ↔
      FieldsDecideNothing (package plainMatchers) rules) :=
  ⟨_,rfl,packed_decides_iff (package plainMatchers) (package_documented plainMatchers) oneClass readsAll
    plainUser [] _ rfl⟩

/-- Only the names of users may be read. -/
def readsNames : CaslAbilityFactory Unit (List (String × String)) where
  abilitiesDefiners := [plainDefiner [[readUser false (some ["name"])]] (by
    intro part member rule inside
    obtain rfl := List.mem_singleton.mp member
    obtain rfl := List.mem_singleton.mp inside
    exact readUser_given _ _)]

theorem client_reads_all : ∃ rules, readsNames.createForUser plainUser [] = some rules ∧
    (package plainMatchers).can Subjects.all rules "read" ⟨.type (),none⟩ (some "pass") = false ∧
    (package plainMatchers).can "all"
      (unpackAbility (package plainMatchers) (packAbility (package plainMatchers) oneClass rules))
      "read" ⟨"User",none⟩ (some "pass") = true := by
  have given := createForUser_given readsNames plainUser [] [readUser false (some ["name"])] rfl
  refine ⟨_,rfl,by decide,?_⟩
  have rebuilt := unpacked_can (package plainMatchers) (package_documented plainMatchers) oneClass _ given "read"
    ⟨.type (),none⟩ (some "pass")
  exact rebuilt.trans (by decide)

end BoarPack.Casl
