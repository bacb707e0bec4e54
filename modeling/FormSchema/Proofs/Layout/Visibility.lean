import FormSchema.Layout
import FormSchema.Proofs.Draft07

/-!
# FormSchema — when a rule shows a control

The meaning of the rules of a layout, read off the document as a renderer reads it, and compared
with the tests that a rule is built from. A rule for one test points at the tested member and does
not apply without it. A rule for several tests is a conjunction on the whole data, and each conjunct
speaks of its member only where it is present.

* **`holdsOn_single`**, **`holdsOn_allOf`** — the two shapes of conditions.
* **`rule_holds_iff`** — what a rule asks for; it asks for its tests exactly if there is one of
  them, or all tested members are present, or one is present with another value.
* **`rule_holds_without_member`** — several tests hold by their rule on data without any member.
-/

namespace FormSchema

open Draft07

/-- The test holds on data: the member is there and has the value. -/
def Predicate.HoldsOn (p : Predicate) (d : Json) : Prop :=
  ∃ v, d.get? p.field = some v ∧ equal v p.value = true

theorem Predicate.not_holdsOn_of_absent {p : Predicate} {d : Json} (h : d.get? p.field = none) :
    ¬ p.HoldsOn d := by
  rintro ⟨v, hv, _⟩
  rw [h] at hv
  exact absurd hv (by simp)

namespace Layout

/-! ## Reading a rule -/

/-- A condition holds on data. With a pointer to a property its schema is for the value of that
property, which has to be there; without a pointer it is for the data as a whole. -/
def ConditionHolds (condition d : Json) : Prop :=
  match condition.get? "scope" with
  | some (.str pointer) =>
    ∃ name v, pointer = "#/properties/" ++ name ∧ d.get? name = some v
      ∧ valid (condition.getD "schema") v = true
  | _ => valid (condition.getD "schema") d = true

/-- `RuleHolds predicates d`: there is a rule for the tests, and its condition holds on data. -/
def RuleHolds (predicates : List Predicate) (d : Json) : Prop :=
  ∃ rule condition, (condition? predicates).map Condition.rule = some rule
    ∧ rule.get? "condition" = some condition ∧ ConditionHolds condition d

theorem ruleHolds_iff_of_condition? {predicates : List Predicate} {c : Condition}
    (h : condition? predicates = some c) (d : Json) :
    RuleHolds predicates d ↔ ConditionHolds c.toJson d := by
  rw [RuleHolds, h]
  constructor
  · rintro ⟨rule, condition, hrule, hcondition, hholds⟩
    rw [Option.map_some, Option.some.injEq] at hrule
    subst hrule
    rw [← Option.some.inj hcondition] at hholds
    exact hholds
  · exact fun hholds => ⟨c.rule, c.toJson, rfl, rfl, hholds⟩

/-! ## Single tests -/

theorem valid_constSchema (value d : Json) : valid (constSchema value) d = equal d value := by
  rw [constSchema, valid, validKeywords_cons, validKeywords_nil, Bool.and_true]
  rfl

theorem holdsOn_single (p : Predicate) (d : Json) :
    ConditionHolds (Condition.scoped (pointer p.field) p.value).toJson d ↔ p.HoldsOn d := by
  change (∃ name v, pointer p.field = "#/properties/" ++ name ∧ d.get? name = some v
    ∧ valid (constSchema p.value) v = true) ↔ _
  constructor
  · rintro ⟨name, v, hname, hv, hvalid⟩
    -- the pointer leaves no doubt about the name
    have hfield : p.field = name := (String.append_right_inj "#/properties/").mp hname
    exact ⟨v, hfield ▸ hv, valid_constSchema p.value v ▸ hvalid⟩
  · rintro ⟨v, hv, hequal⟩
    exact ⟨p.field, v, rfl, hv, (valid_constSchema p.value v).trans hequal⟩

/-! ## Conjunctions -/

/-- A conjunct speaks of its member only where it is present. -/
theorem valid_conjunct (p : Predicate) (d : Json) :
    valid (conjunct p) d = true ↔ ∀ v, d.get? p.field = some v → equal v p.value = true := by
  have hmembers : valid (conjunct p) d = validMembers [(p.field, constSchema p.value)] d := by
    rw [conjunct, valid, validKeywords_cons, validKeywords_nil, Bool.and_true]
    rfl
  rw [hmembers, validMembers, validMembers, Bool.and_true]
  cases d.get? p.field with
  | none => simp
  | some v => simp [valid_constSchema]

theorem holdsOn_allOf (predicates : List Predicate) (d : Json) :
    ConditionHolds (Condition.allOf predicates).toJson d
      ↔ ∀ p ∈ predicates, ∀ v, d.get? p.field = some v → equal v p.value = true := by
  change valid (.obj [("allOf", .arr (predicates.map conjunct))]) d = true ↔ _
  have hverdicts : valid (.obj [("allOf", .arr (predicates.map conjunct))]) d
      = (verdictsOf (predicates.map conjunct) d).all id := by
    rw [valid, validKeywords_cons, validKeywords_nil, Bool.and_true]
    rfl
  rw [hverdicts, verdictsOf_eq_map, List.map_map, List.all_map, List.all_eq_true]
  refine forall_congr' fun p => imp_congr_right fun _ => ?_
  exact valid_conjunct p d

/-! ## Rules -/

/-- A test that a rule lets pass: it holds, or it is one of several and its member is absent. -/
def Passes (several : Prop) (d : Json) (p : Predicate) : Prop :=
  p.HoldsOn d ∨ (several ∧ d.get? p.field = none)

def Differs (d : Json) (p : Predicate) : Prop :=
  ∃ v, d.get? p.field = some v ∧ equal v p.value = false

theorem passes_iff_of_several {several : Prop} (h : several) (d : Json) (p : Predicate) :
    Passes several d p ↔ ∀ v, d.get? p.field = some v → equal v p.value = true := by
  rw [Passes, Predicate.HoldsOn]
  cases d.get? p.field with
  | none => simp [h]
  | some v => simp

theorem not_passes_iff_of_several {several : Prop} (h : several) (d : Json) (p : Predicate) :
    ¬ Passes several d p ↔ Differs d p := by
  rw [passes_iff_of_several h, Differs]
  simp

/-- What a rule asks for, in both shapes at once. -/
theorem ruleHolds_iff_passes {predicates : List Predicate} (h : predicates ≠ []) (d : Json) :
    RuleHolds predicates d ↔ ∀ p ∈ predicates, Passes (1 < predicates.length) d p := by
  match predicates with
  | [] => exact absurd rfl h
  | [p] =>
    rw [ruleHolds_iff_of_condition? rfl, holdsOn_single]
    simp [Passes]
  | p :: q :: rest =>
    have hseveral : 1 < (p :: q :: rest).length := by simp
    rw [ruleHolds_iff_of_condition? rfl, holdsOn_allOf]
    exact forall_congr' fun p => imp_congr_right fun _ => (passes_iff_of_several hseveral d p).symm

/-- All tests pass exactly if they all hold, unless an absent member makes the difference. -/
theorem passes_iff_holdsOn_iff (predicates : List Predicate) (d : Json) (several : Prop) :
    ((∀ p ∈ predicates, Passes several d p) ↔ ∀ p ∈ predicates, p.HoldsOn d)
      ↔ (¬ several ∨ (∀ p ∈ predicates, d.get? p.field ≠ none)
        ∨ ∃ p ∈ predicates, Differs d p) := by
  constructor
  · intro hiff
    by_cases hseveral : several
    · right
      by_cases hpass : ∀ p ∈ predicates, Passes several d p
      · -- all tests hold, so all members are there
        left
        intro p hp habsent
        exact Predicate.not_holdsOn_of_absent habsent (hiff.mp hpass p hp)
      · right
        obtain ⟨p, hp⟩ := Classical.not_forall.mp hpass
        obtain ⟨hp, hfails⟩ := Classical.not_imp.mp hp
        exact ⟨p, hp, (not_passes_iff_of_several hseveral d p).mp hfails⟩
    · exact Or.inl hseveral
  · intro hcases
    refine ⟨?_, fun hholds p hp => Or.inl (hholds p hp)⟩
    intro hpass p hp
    rcases hpass p hp with hholds | ⟨hseveral, habsent⟩
    · exact hholds
    · -- an absent member is ruled out, or else another test fails
      rcases hcases with hsingle | hpresent | ⟨q, hq, hdiffers⟩
      · exact absurd hseveral hsingle
      · exact absurd habsent (hpresent p hp)
      · exact absurd (hpass q hq) ((not_passes_iff_of_several hseveral d q).mpr hdiffers)

/-- **The meaning of a rule.** On an object the rule for some tests holds exactly if each test holds
or, where there are several, has no member to speak of. That is the same as all tests holding
exactly if there is only one, or all tested members are there, or one of them is there with another
value. So the rule for a test and the rule for the same test twice agree on just the objects that
have its member. -/
theorem rule_holds_iff (predicates : List Predicate) (h : predicates ≠ []) (found : Entries Json) :
    (RuleHolds predicates (.obj found) ↔ ∀ p ∈ predicates,
        p.HoldsOn (.obj found) ∨ (1 < predicates.length ∧ found.get? p.field = none))
      ∧ ((RuleHolds predicates (.obj found) ↔ ∀ p ∈ predicates, p.HoldsOn (.obj found))
        ↔ (predicates.length = 1 ∨ (∀ p ∈ predicates, found.get? p.field ≠ none)
          ∨ ∃ p ∈ predicates, ∃ v, found.get? p.field = some v ∧ equal v p.value = false))
      ∧ ∀ p, (RuleHolds [p] (.obj found) ↔ RuleHolds [p, p] (.obj found))
        ↔ found.get? p.field ≠ none := by
  have hlength : ¬ 1 < predicates.length ↔ predicates.length = 1 := by
    have hpos := List.length_pos_iff.mpr h
    omega
  refine ⟨ruleHolds_iff_passes h (.obj found), ?_, ?_⟩
  · rw [ruleHolds_iff_passes h, passes_iff_holdsOn_iff, hlength]
    rfl
  · intro p
    have htwice : RuleHolds [p, p] (.obj found) ↔ Passes True (.obj found) p := by
      rw [ruleHolds_iff_passes (by simp)]
      simp
    have honce : RuleHolds [p] (.obj found) ↔ p.HoldsOn (.obj found) := by
      rw [ruleHolds_iff_passes (by simp)]
      simp [Passes]
    rw [htwice, honce]
    constructor
    · intro hiff habsent
      have hfails : ¬ p.HoldsOn (.obj found) := Predicate.not_holdsOn_of_absent habsent
      exact hfails (hiff.mpr (Or.inr ⟨trivial, habsent⟩))
    · intro hpresent
      refine ⟨Or.inl, ?_⟩
      rintro (hholds | ⟨_, habsent⟩)
      · exact hholds
      · exact absurd habsent hpresent

/-- Two tests of which one has no member, and one that fails on its member. -/
theorem rule_holds_iff_two_tests :
    let tests : List Predicate := [⟨"a", .int 1⟩, ⟨"b", .null⟩]
    tests ≠ [] ∧ RuleHolds tests (.obj [("a", .float 1.0)])
      ∧ ¬ RuleHolds tests (.obj [("a", .str "1")]) := by
  intro tests
  have hne : tests ≠ [] := by simp [tests]
  refine ⟨hne, (rule_holds_iff tests hne [("a", .float 1.0)]).1.mpr ?_, ?_⟩
  · intro p hp
    simp only [tests, List.mem_cons, List.not_mem_nil, or_false] at hp
    rcases hp with rfl | rfl
    · exact Or.inl ⟨.float 1.0, rfl, by decide +kernel⟩
    · exact Or.inr ⟨by decide, rfl⟩
  · intro hrule
    have hfirst := (rule_holds_iff tests hne [("a", .str "1")]).1.mp hrule ⟨"a", .int 1⟩
      (by simp [tests])
    rcases hfirst with ⟨v, hv, hequal⟩ | ⟨_, habsent⟩
    · cases hv
      exact absurd hequal (by decide +kernel)
    · cases habsent

/-- Data without any member satisfies the rule for two tests, neither of which holds on it. -/
theorem rule_holds_without_member :
    let tests : List Predicate := [⟨"a", .int 1⟩, ⟨"b", .int 2⟩]
    ¬ (RuleHolds tests (.obj []) ↔ ∀ p ∈ tests, p.HoldsOn (.obj [])) := by
  intro tests hiff
  have hrule : RuleHolds tests (.obj []) := by
    rw [ruleHolds_iff_passes (by simp [tests])]
    intro p _
    exact Or.inr ⟨by simp [tests], rfl⟩
  have hholds := hiff.mp hrule ⟨"a", .int 1⟩ (by simp [tests])
  exact Predicate.not_holdsOn_of_absent rfl hholds

end Layout

end FormSchema
