import FormSchema.Form.Dump
import Mathlib.Data.List.Forall2

/-!
# FormSchema — accepted options

Which drafts are options of a static choice: there is at least one, and either all are texts, or
all are objects with an id, a label and nothing else.

* **`Choices.ListedBy`** — the choices that a list of drafts stands for.
* **`optionsMisconfiguration?_eq_none_iff`** — the check looks at the first draft to learn the kind
  of all of them; a list passes exactly if its drafts agree on one kind.
* **`readChoices_eq_accepted_iff`** — reading accepts exactly the choices that are listed.
* **`readChoices_toJson`** — so choices that make sense are read from what they are written as.
-/

namespace FormSchema

open Intake

/-! ## Single drafts -/

namespace OptionDraft

theorem option?_eq_some_iff {draft : OptionDraft} {option : EnumOption} :
    draft.option? = some option ↔ draft.idAndLabel? = some (option.id, option.label)
      ∧ option.id ≠ "" ∧ option.label ≠ "" := by
  rw [option?]
  cases hdraft : draft.idAndLabel? with
  | none => simp
  | some p =>
    obtain ⟨id, label⟩ := p
    obtain ⟨id', label'⟩ := option
    by_cases hempty : id.isEmpty ∨ label.isEmpty
    · have hnone : ¬(id ≠ "" ∧ label ≠ "") := by
        simpa [or_iff_not_imp_left] using hempty
      simp only [Option.bind_eq_bind, Option.bind_some, if_pos hempty, Option.some.injEq,
        Prod.mk.injEq]
      constructor
      · intro h
        exact absurd h (by simp)
      · rintro ⟨⟨rfl, rfl⟩, h⟩
        exact absurd h hnone
    · simp only [Option.bind_eq_bind, Option.bind_some, if_neg hempty, Option.some.injEq,
        Prod.mk.injEq, EnumOption.mk.injEq]
      simp only [not_or, String.isEmpty_iff] at hempty
      constructor
      · rintro ⟨rfl, rfl⟩
        exact ⟨⟨rfl, rfl⟩, hempty⟩
      · exact And.left

/-- What an option is written as stands for it. -/
theorem option?_toJson {option : EnumOption} (hid : option.id ≠ "") (hlabel : option.label ≠ "") :
    (data option.toJson).option? = some option :=
  option?_eq_some_iff.mpr ⟨rfl, hid, hlabel⟩

end OptionDraft

/-! ## Lists of drafts -/

section Maps

variable {α β : Type} {f : α → Option β} {xs : List α} {ys : List β}

/-- A map that may fail gives a list if it gives each of its items. -/
theorem mapM_eq_some_iff : xs.mapM f = some ys ↔ List.Forall₂ (fun x y => f x = some y) xs ys := by
  induction xs generalizing ys with
  | nil => simp [eq_comm]
  | cons x xs ih =>
    rw [List.mapM_cons, List.forall₂_cons_left_iff]
    simp only [Option.bind_eq_bind, Option.bind_eq_some_iff, ih, Option.pure_def,
      Option.some.injEq]
    grind

theorem filterMap_eq_of_forall₂ (h : List.Forall₂ (fun x y => f x = some y) xs ys) :
    xs.filterMap f = ys := by
  induction h with
  | nil => rfl
  | cons hxy _ ih => rw [List.filterMap_cons_some hxy, ih]

theorem forall₂_filterMap (h : ∀ x ∈ xs, (f x).isSome) :
    List.Forall₂ (fun x y => f x = some y) xs (xs.filterMap f) := by
  induction xs with
  | nil => exact .nil
  | cons x xs ih =>
    obtain ⟨y, hy⟩ := Option.isSome_iff_exists.mp (h x List.mem_cons_self)
    rw [List.filterMap_cons_some hy]
    exact .cons hy (ih fun x' hx' => h x' (List.mem_cons_of_mem _ hx'))

theorem isSome_of_forall₂ (h : List.Forall₂ (fun x y => f x = some y) xs ys) :
    ∀ x ∈ xs, (f x).isSome := by
  induction h with
  | nil => simp
  | cons hxy _ ih =>
    rintro x (_ | ⟨_, hx⟩)
    · rw [hxy, Option.isSome_some]
    · exact ih x hx

end Maps

/-- The choices that drafts stand for: all texts, or all objects with an id and a label alone. -/
inductive Choices.ListedBy (drafts : List OptionDraft) : Choices → Prop where
  | plain {values : List String} (nonempty : drafts ≠ [])
      (texts : List.Forall₂ (fun draft value => draft.text? = some value) drafts values) :
      ListedBy drafts (.plain values)
  | labelled {options : List EnumOption} (nonempty : drafts ≠ [])
      (objects : ∀ draft ∈ drafts, draft.text? = none ∧ draft.otherKeys = [])
      (made : List.Forall₂ (fun draft option => draft.option? = some option) drafts options) :
      ListedBy drafts (.labelled options)

theorem optionsMisconfiguration?_eq_none_iff {name : String} {drafts : List OptionDraft} :
    optionsMisconfiguration? name drafts = none ↔ drafts ≠ []
      ∧ ((∀ draft ∈ drafts, draft.text?.isSome)
        ∨ ∀ draft ∈ drafts, draft.text? = none ∧ draft.option?.isSome) := by
  cases drafts with
  | nil => simp [optionsMisconfiguration?]
  | cons first rest =>
    rw [optionsMisconfiguration?]
    by_cases hmixed : (first :: rest).any fun draft => draft.text?.isSome != first.text?.isSome
    · rw [if_pos hmixed]
      obtain ⟨other, hother, hne⟩ := List.any_eq_true.mp hmixed
      have hfirst : first ∈ first :: rest := List.mem_cons_self
      constructor
      · intro h
        exact absurd h (by simp)
      · rintro ⟨-, htexts | hobjects⟩
        · rw [htexts other hother, htexts first hfirst] at hne
          exact absurd hne (by simp)
        · rw [(hobjects other hother).1, (hobjects first hfirst).1] at hne
          exact absurd hne (by simp)
    · rw [if_neg hmixed]
      have hsame : ∀ draft ∈ first :: rest, draft.text?.isSome = first.text?.isSome := by
        simpa using hmixed
      cases hfirst : first.text? with
      | some value =>
        rw [hfirst] at hsame
        rw [if_pos Option.isSome_some]
        exact ⟨fun _ => ⟨List.cons_ne_nil _ _, Or.inl hsame⟩, fun _ => rfl⟩
      | none =>
        rw [hfirst] at hsame
        rw [if_neg (by simp), Option.map_eq_none_iff, List.find?_eq_none]
        simp only [Option.isSome_none, Option.isSome_eq_false_iff, Option.isNone_iff_eq_none]
          at hsame
        constructor
        · intro hmade
          refine ⟨List.cons_ne_nil _ _, Or.inr fun draft hdraft => ⟨hsame draft hdraft, ?_⟩⟩
          simpa [Option.isSome_iff_ne_none] using hmade draft hdraft
        · rintro ⟨-, htexts | hobjects⟩ draft hdraft
          · have hsome := htexts draft hdraft
            rw [hsame draft hdraft] at hsome
            exact absurd hsome (by simp)
          · simpa [Option.isSome_iff_ne_none] using (hobjects draft hdraft).2

theorem checkOptions_eq_ok_iff {name : String} {drafts : Option (List OptionDraft)}
    {listed : List OptionDraft} : checkOptions name drafts = .ok listed
      ↔ drafts = some listed ∧ optionsMisconfiguration? name listed = none := by
  cases drafts with
  | none => simp [checkOptions]
  | some drafts =>
    cases hcheck : optionsMisconfiguration? name drafts with
    | none =>
      simp only [checkOptions, hcheck]
      grind
    | some reason =>
      simp only [checkOptions, hcheck]
      grind

/-- Objects do not count as texts. -/
theorem mapM_text?_eq_none {drafts : List OptionDraft} (hne : drafts ≠ [])
    (h : ∀ draft ∈ drafts, draft.text? = none) : drafts.mapM OptionDraft.text? = none := by
  rw [Option.eq_none_iff_forall_ne_some]
  intro values hvalues
  obtain ⟨draft, hdraft⟩ := List.exists_mem_of_ne_nil _ hne
  have hsome := isSome_of_forall₂ (mapM_eq_some_iff.mp hvalues) draft hdraft
  rw [h draft hdraft] at hsome
  exact absurd hsome (by simp)

theorem Choices.ListedBy.readChoices {drafts : List OptionDraft} {choices : Choices}
    (h : choices.ListedBy drafts) (name : String) :
    readChoices name (some drafts) = .accepted choices := by
  cases h with
  | plain hne htexts =>
    have hcheck : optionsMisconfiguration? name drafts = none :=
      optionsMisconfiguration?_eq_none_iff.mpr ⟨hne, Or.inl (isSome_of_forall₂ htexts)⟩
    simp only [FormSchema.readChoices, checkOptions_eq_ok_iff.mpr ⟨rfl, hcheck⟩,
      mapM_eq_some_iff.mpr htexts]
  | labelled hne hobjects hmade =>
    have hcheck : optionsMisconfiguration? name drafts = none :=
      optionsMisconfiguration?_eq_none_iff.mpr ⟨hne, Or.inr fun draft hdraft =>
        ⟨(hobjects draft hdraft).1, isSome_of_forall₂ hmade draft hdraft⟩⟩
    have htexts : drafts.mapM OptionDraft.text? = none :=
      mapM_text?_eq_none hne fun draft hdraft => (hobjects draft hdraft).1
    have hkeys : ¬(drafts.any fun draft => !draft.otherKeys.isEmpty) := by
      simpa using fun draft hdraft => (hobjects draft hdraft).2
    simp only [FormSchema.readChoices, checkOptions_eq_ok_iff.mpr ⟨rfl, hcheck⟩, htexts]
    rw [if_neg hkeys, filterMap_eq_of_forall₂ hmade]

theorem listedBy_of_readChoices {name : String} {drafts : Option (List OptionDraft)}
    {choices : Choices} (h : readChoices name drafts = .accepted choices) :
    ∃ listed, drafts = some listed ∧ choices.ListedBy listed := by
  cases hlisted : checkOptions name drafts with
  | error reason => simp [readChoices, hlisted] at h
  | ok listed =>
    obtain ⟨hdrafts, hcheck⟩ := checkOptions_eq_ok_iff.mp hlisted
    obtain ⟨hne, hkind⟩ := optionsMisconfiguration?_eq_none_iff.mp hcheck
    refine ⟨listed, hdrafts, ?_⟩
    rcases hkind with hsome | hobjects
    · -- all texts
      have htexts := forall₂_filterMap hsome
      simp only [readChoices, hlisted, mapM_eq_some_iff.mpr htexts] at h
      cases h
      exact .plain hne htexts
    · -- all objects, which are read unless one of them has another key
      have htexts := mapM_text?_eq_none hne fun draft hdraft => (hobjects draft hdraft).1
      have hmade := forall₂_filterMap fun draft hdraft => (hobjects draft hdraft).2
      simp only [readChoices, hlisted, htexts] at h
      by_cases hkeys : listed.any fun draft => !draft.otherKeys.isEmpty
      · rw [if_pos hkeys] at h
        exact absurd h (by simp)
      · rw [if_neg hkeys] at h
        cases h
        have hclosed : ∀ draft ∈ listed, draft.otherKeys = [] := by
          simpa using hkeys
        exact .labelled hne (fun draft hdraft => ⟨(hobjects draft hdraft).1, hclosed draft hdraft⟩)
          hmade

theorem readChoices_eq_accepted_iff {name : String} {drafts : Option (List OptionDraft)}
    {choices : Choices} : readChoices name drafts = .accepted choices
      ↔ ∃ listed, drafts = some listed ∧ choices.ListedBy listed := by
  constructor
  · exact listedBy_of_readChoices
  · rintro ⟨listed, rfl, h⟩
    exact h.readChoices name

/-! ## Choices and what they are written as -/

/-- There are options, and those with labels have an id and a label. -/
def Choices.WellFormed : Choices → Prop
  | .plain values => values ≠ []
  | .labelled options => options ≠ [] ∧ ∀ option ∈ options, option.id ≠ "" ∧ option.label ≠ ""

theorem Choices.ListedBy.wellFormed {drafts : List OptionDraft} {choices : Choices}
    (h : choices.ListedBy drafts) : choices.WellFormed := by
  cases h with
  | plain nonempty texts =>
    intro hempty
    rw [hempty, List.forall₂_nil_right_iff] at texts
    exact nonempty texts
  | @labelled options nonempty objects made =>
    refine ⟨fun hempty => ?_, fun option hoption => ?_⟩
    · rw [hempty, List.forall₂_nil_right_iff] at made
      exact nonempty made
    · rw [← filterMap_eq_of_forall₂ made, List.mem_filterMap] at hoption
      obtain ⟨draft, _, hmade⟩ := hoption
      exact (OptionDraft.option?_eq_some_iff.mp hmade).2

/-- Choices that make sense are read from what they are written as. -/
theorem readChoices_toJson {choices : Choices} (h : choices.WellFormed) (name : String) :
    readChoices name (OptionDraft.ofJson? choices.toJson) = .accepted choices := by
  rw [readChoices_eq_accepted_iff]
  cases choices with
  | plain values =>
    refine ⟨(values.map Json.str).map .data, rfl, .plain ?_ ?_⟩
    · simpa [Choices.WellFormed] using h
    · rw [List.map_map, List.forall₂_map_left_iff]
      exact List.forall₂_same.mpr fun value _ => rfl
  | labelled options =>
    refine ⟨(options.map EnumOption.toJson).map .data, rfl, .labelled ?_ ?_ ?_⟩
    · simpa using h.1
    · intro draft hdraft
      rw [List.map_map, List.mem_map] at hdraft
      obtain ⟨option, _, rfl⟩ := hdraft
      exact ⟨rfl, rfl⟩
    · rw [List.map_map, List.forall₂_map_left_iff]
      exact List.forall₂_same.mpr fun option hoption =>
        OptionDraft.option?_toJson (h.2 option hoption).1 (h.2 option hoption).2

end FormSchema
