import BoarPack.Casl.AbilityFactory

/-! The definers run at the same time and add to one list of rules, whose order decides. -/
namespace BoarPack.Casl
open Containers Precedence Transition

variable {K C O P : Type} [DecidableEq K]

def matchesQuery (casl : Package C O P) (action : String) (subject : Subject (Subjects K) O) (field : Option String)
    (rule : Rule K C) : Bool :=
  rule.applies casl.toMatchers .all action subject && rule.covers casl.toMatchers field

/-- What a definer adds after its first `await`. -/
def TAbilityDefiner.late (definer : TAbilityDefiner K C) (user : User) : List (Rule K C) :=
  (definer.parts user).tail.flatten

/-- Of the rules that definers add after an `await`, those that match a query last allow it all, or none does. -/
def LateRulesAgree (casl : Package C O P) (factory : CaslAbilityFactory K C) (user : User) : Prop :=
  ∀ action subject field, ∀ definer ∈ factory.abilitiesDefiners, ∀ other ∈ factory.abilitiesDefiners, ∀ rule other_rule,
    last (matchesQuery casl action subject field) (definer.late user) = some rule →
    last (matchesQuery casl action subject field) (other.late user) = some other_rule →
    rule.inverted = other_rule.inverted

private theorem can_of_last (casl : Package C O P) (documented : Documented casl) (rules : List (Rule K C))
    (action : String) (subject : Subject (Subjects K) O) (field : Option String) (rule : Rule K C)
    (decides : last (matchesQuery casl action subject field) rules = some rule) :
    casl.can .all rules action subject field = !rule.inverted := by
  rw [documented.decides]
  change allows (matchesQuery casl action subject field) rules = _
  unfold allows
  rw [decides]

omit [DecidableEq K] in
/-- A query is decided by some definer's late rule, or by what was added at once. -/
theorem built_decides (factory : CaslAbilityFactory K C) (user : User) (turns : List Nat) (rules : List (Rule K C))
    (built : factory.createForUser user turns = some rules) (p : Rule K C → Bool) :
    (∃ definer ∈ factory.abilitiesDefiners, ∃ rule, last p (definer.late user) = some rule ∧ last p rules = some rule) ∨
      (∀ definer ∈ factory.abilitiesDefiners, last p (definer.late user) = none) ∧
        last p rules = last p (factory.called user).written := by
  obtain ⟨s,ran,finished,rfl⟩ := (createForUser_some factory user turns rules).mp built
  obtain ⟨parts,member,rule,ends,decides⟩ | ⟨nothing,same⟩ :=
    Turns.decides_run p (factory.called user) s turns ran finished
  · obtain ⟨definer,listed,rfl⟩ := List.mem_map.mp member
    exact Or.inl ⟨definer,listed,rule,ends,decides⟩
  · exact Or.inr ⟨fun definer listed => nothing _ (List.mem_map_of_mem listed),same⟩

omit [DecidableEq K] in
/-- Each definer that adds a match late can be the one that adds the last. -/
theorem built_by_last (factory : CaslAbilityFactory K C) (user : User) (p : Rule K C → Bool)
    (definer : TAbilityDefiner K C)
    (listed : definer ∈ factory.abilitiesDefiners) (rule : Rule K C) (ends : last p (definer.late user) = some rule) :
    ∃ turns rules, factory.createForUser user turns = some rules ∧ last p rules = some rule := by
  obtain ⟨turns,s,ran,finished,decides⟩ :=
    Turns.finishes_with p (factory.called user) _ (List.mem_map_of_mem listed) rule ends
  exact ⟨turns,s.written,(createForUser_some factory user turns _).mpr ⟨s,ran,finished,rfl⟩,decides⟩

/-- The order in which the definers are resumed makes no difference exactly if their late rules agree. -/
theorem timing_irrelevant_iff (casl : Package C O P) (documented : Documented casl) (factory : CaslAbilityFactory K C)
    (user : User) :
    (∀ first second left right, factory.createForUser user first = some left →
      factory.createForUser user second = some right → ∀ action subject field,
        casl.can .all left action subject field = casl.can .all right action subject field) ↔
      LateRulesAgree casl factory user := by
  constructor
  · intro same action subject field definer listed other also rule other_rule ends other_ends
    obtain ⟨first,left,built_left,decides_left⟩ := built_by_last factory user _ definer listed rule ends
    obtain ⟨second,right,built_right,decides_right⟩ := built_by_last factory user _ other also other_rule other_ends
    have agree := same first second left right built_left built_right action subject field
    rw [can_of_last casl documented left action subject field rule decides_left,
      can_of_last casl documented right action subject field other_rule decides_right] at agree
    exact Bool.not_inj agree
  · intro agree first second left right built_left built_right action subject field
    have at_left := built_decides factory user first left built_left (matchesQuery casl action subject field)
    have at_right := built_decides factory user second right built_right (matchesQuery casl action subject field)
    obtain ⟨definer,listed,rule,ends,decides⟩ | ⟨nothing,decides⟩ := at_left
    · obtain ⟨other,also,other_rule,other_ends,other_decides⟩ | ⟨nothing,_⟩ := at_right
      · rw [can_of_last casl documented left action subject field rule decides,
          can_of_last casl documented right action subject field other_rule other_decides,
          agree action subject field definer listed other also rule other_rule ends other_ends]
      · rw [nothing definer listed] at ends
        cases ends
    · obtain ⟨other,also,other_rule,other_ends,_⟩ | ⟨_,other_decides⟩ := at_right
      · rw [nothing other also] at other_ends
        cases other_ends
      · rw [documented.decides,documented.decides]
        change allows (matchesQuery casl action subject field) left =
          allows (matchesQuery casl action subject field) right
        unfold allows
        rw [decides,other_decides]

def addedLate (directions : List Bool) : CaslAbilityFactory Unit (List (String × String)) where
  abilitiesDefiners := directions.map (fun inverted => plainDefiner [[],[readUser inverted none]] (by
    intro part member rule inside
    rcases List.mem_pair.mp member with rfl | rfl
    · cases inside
    · obtain rfl := List.mem_singleton.mp inside
      exact readUser_given _ _))

theorem both_allow : (∀ first second left right, (addedLate [false,false]).createForUser plainUser first = some left →
      (addedLate [false,false]).createForUser plainUser second = some right → ∀ action subject field,
        (package plainMatchers).can .all left action subject field =
          (package plainMatchers).can .all right action subject field) ↔
      LateRulesAgree (package plainMatchers) (addedLate [false,false]) plainUser :=
  timing_irrelevant_iff (package plainMatchers) (package_documented plainMatchers) (addedLate [false,false]) plainUser

/-- One definer allows what the other forbids: the one that finishes last wins. -/
theorem last_definer_wins : ∃ left right, (addedLate [false,true]).createForUser plainUser [0,1] = some left ∧
    (addedLate [false,true]).createForUser plainUser [1,0] = some right ∧
    (package plainMatchers).can .all left "read" ⟨.type (),none⟩ none = false ∧
    (package plainMatchers).can .all right "read" ⟨.type (),none⟩ none = true :=
  ⟨_,_,rfl,rfl,by decide,by decide⟩

end BoarPack.Casl
