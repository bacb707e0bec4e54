import FormSchema.Form.Dump
import FormSchema.Form.Reader
import FormSchema.Proofs.Intake.Accepted

/-!
# FormSchema — attributes that are written and read

A record is written attribute by attribute. Every attribute stands under one spelling, and one that
holds null may be left out; as long as no spelling stands for two attributes, each of them is read
as it was written, and no member is left over.

* **`DumpStyle.record`** — the members that attributes are written as.
* **`find?_record`** — what is found for an attribute is the attribute, or nothing where null
  was left out.
* **`required_record`**, **`optional_record`** — so it is read if its value is accepted; one that
  may be left out has to stand for its default, as in **`optional_orNull_record`**.
* **`unknownKeys_record`** — no member is unknown.
-/

namespace FormSchema

open Intake

namespace DumpStyle

/-- The spelling that an attribute is written under. -/
def spelling (style : DumpStyle) (key : Key) : String :=
  if style.documentedKeys then key.name else key.alternative.getD key.name

/-- The value that is written for an attribute, if it is. -/
def written? (style : DumpStyle) : Json → Option Json
  | .null => if style.nulls then some .null else none
  | value => some value

/-- The members that attributes are written as, in their order. -/
def record (style : DumpStyle) (attributes : List (Key × Json)) : Entries Json :=
  attributes.flatMap fun a => style.member (style.spelling a.1) a.2

variable (style : DumpStyle)

theorem spelling_mem (key : Key) : style.spelling key ∈ key.spellings := by
  obtain ⟨name, alternative⟩ := key
  cases alternative <;> cases hstyle : style.documentedKeys <;>
    simp [spelling, Key.spellings, hstyle]

@[simp] theorem record_nil : style.record [] = [] := rfl

@[simp] theorem record_cons (a : Key × Json) (attributes : List (Key × Json)) :
    style.record (a :: attributes)
      = style.member (style.spelling a.1) a.2 ++ style.record attributes := rfl

theorem member_eq (key : String) (value : Json) :
    style.member key value = ((style.written? value).map (key, ·)).toList := by
  cases value with
  | null => cases hnulls : style.nulls <;> simp [member, written?, hnulls]
  | _ => rfl

theorem written?_eq_some_or (value : Json) :
    style.written? value = some value ∨ style.written? value = none ∧ value = .null := by
  cases value with
  | null => cases hnulls : style.nulls <;> simp [written?, hnulls]
  | _ => exact Or.inl rfl

theorem get?_member (key name : String) (value : Json) :
    Entries.get? (style.member key value) name
      = if name = key then style.written? value else none := by
  rw [member_eq]
  cases style.written? value with
  | none => simp [Entries.get?]
  | some v =>
    rw [Option.map_some, Option.toList_some, Entries.get?_cons]
    rfl

end DumpStyle

/-! ## Looking attributes up -/

section Lookup

variable {style : DumpStyle} {attributes : List (Key × Json)} {key : Key} {value : Json}

/-- No spelling stands for two attributes. -/
def Unmixed (attributes : List (Key × Json)) : Prop :=
  (attributes.flatMap fun a => a.1.spellings).Nodup

theorem unmixed_cons {a : Key × Json} : Unmixed (a :: attributes)
    ↔ a.1.spellings.Nodup
      ∧ (∀ name ∈ a.1.spellings, ∀ b ∈ attributes, name ∉ b.1.spellings) ∧ Unmixed attributes := by
  rw [Unmixed, Unmixed, List.flatMap_cons, List.nodup_append]
  simp only [List.mem_flatMap]
  grind

theorem get?_record_of_not_mem (style : DumpStyle) {name : String}
    (h : ∀ a ∈ attributes, name ∉ a.1.spellings) :
    Entries.get? (style.record attributes) name = none := by
  induction attributes with
  | nil => rfl
  | cons a attributes ih =>
    rw [List.forall_mem_cons] at h
    have hne : name ≠ style.spelling a.1 := fun heq => h.1 (heq ▸ style.spelling_mem a.1)
    rw [DumpStyle.record_cons, Entries.get?_append, DumpStyle.get?_member, if_neg hne, ih h.2]
    rfl

/-- Under a spelling of an attribute stands the attribute, or nothing. -/
theorem get?_record (style : DumpStyle) (hunmixed : Unmixed attributes)
    (hmem : (key, value) ∈ attributes) {name : String} (hname : name ∈ key.spellings) :
    Entries.get? (style.record attributes) name
      = if name = style.spelling key then style.written? value else none := by
  induction attributes with
  | nil => simp at hmem
  | cons a attributes ih =>
    obtain ⟨_, hapart, hrest⟩ := unmixed_cons.mp hunmixed
    rw [DumpStyle.record_cons, Entries.get?_append, DumpStyle.get?_member]
    rcases List.mem_cons.mp hmem with rfl | hmem
    · rw [get?_record_of_not_mem style (hapart name hname), Option.or_none]
    · have hne : name ≠ style.spelling a.1 := by
        rintro rfl
        exact hapart _ (style.spelling_mem a.1) _ hmem hname
      rw [if_neg hne, ih hrest hmem, Option.none_or]

/-- What is found for an attribute is the attribute, or nothing. -/
theorem find?_record (hunmixed : Unmixed attributes) (hmem : (key, value) ∈ attributes) :
    key.find? (style.record attributes)
      = (style.written? value).map (style.spelling key, ·) := by
  have hget {name : String} (hname : name ∈ key.spellings) :=
    get?_record style hunmixed hmem hname
  obtain ⟨name, alternative⟩ := key
  have hname : name ∈ (Key.mk name alternative).spellings := List.mem_cons_self
  cases alternative with
  | none =>
    have hspelling : style.spelling ⟨name, none⟩ = name := by
      simp [DumpStyle.spelling]
    rw [Key.find?, hget hname, hspelling, if_pos rfl]
    cases style.written? value <;> rfl
  | some other =>
    have hother : other ∈ (Key.mk name (some other)).spellings :=
      List.mem_cons_of_mem _ List.mem_cons_self
    have hne : name ≠ other := by
      simpa [Key.spellings] using (List.nodup_flatMap.mp hunmixed).1 _ hmem
    rw [Key.find?, Option.bind_some, hget hname, hget hother]
    cases hstyle : style.documentedKeys with
    | true =>
      have hspelling : style.spelling ⟨name, some other⟩ = name := by
        simp [DumpStyle.spelling, hstyle]
      rw [hspelling, if_pos rfl, if_neg (Ne.symm hne)]
      cases style.written? value <;> rfl
    | false =>
      have hspelling : style.spelling ⟨name, some other⟩ = other := by
        simp [DumpStyle.spelling, hstyle]
      rw [hspelling, if_pos rfl, if_neg hne]

end Lookup

/-! ## Reading what was written -/

/-- The member that a value is read as. -/
def Member.ofJson (value : Json) : Member :=
  ⟨value, readElements value, OptionDraft.ofJson? value⟩

theorem readMembers_eq_map (members : Entries Json) :
    readMembers members = members.map fun m => (m.1, Member.ofJson m.2) := by
  induction members with
  | nil => rw [readMembers, List.map_nil]
  | cons m members ih =>
    rw [readMembers, ih, List.map_cons]
    rfl

theorem get?_readMembers (members : Entries Json) (name : String) :
    Entries.get? (readMembers members) name = (Entries.get? members name).map Member.ofJson := by
  rw [readMembers_eq_map, Entries.get?_mapValues]

theorem find?_readMembers (key : Key) (members : Entries Json) :
    key.find? (readMembers members)
      = (key.find? members).map fun m => (m.1, Member.ofJson m.2) := by
  rw [readMembers_eq_map, Key.find?_mapValues]

theorem orNull_of_ne_null {β : Type} {check : Json → Checked β} {value : Json}
    (h : value ≠ .null) : orNull check value = (check value).map some := by
  cases value with
  | null => exact absurd rfl h
  | _ => rfl

section Reading

variable {β : Type} {style : DumpStyle} {attributes : List (Key × Json)} {key : Key} {value : Json}
  {check : Member → Checked β} {b : β}

/-- An attribute that is not null is read. -/
theorem required_record (hunmixed : Unmixed attributes) (hmem : (key, value) ∈ attributes)
    (hcheck : check (.ofJson value) = .accepted b) (hvalue : value ≠ .null) :
    required key check (readMembers (style.record attributes)) = .accepted b := by
  have hwritten : style.written? value = some value := by
    rcases style.written?_eq_some_or value with h | ⟨_, h⟩
    · exact h
    · exact absurd h hvalue
  rw [required_eq_accepted_iff, find?_readMembers, find?_record hunmixed hmem, hwritten]
  exact ⟨_, _, rfl, hcheck⟩

/-- An attribute that was left out is read if null stands for its default. -/
theorem optional_record {absent : β} (hunmixed : Unmixed attributes)
    (hmem : (key, value) ∈ attributes) (hcheck : check (.ofJson value) = .accepted b)
    (hnull : value = .null → b = absent) :
    optional key absent check (readMembers (style.record attributes)) = .accepted b := by
  rw [optional_eq_accepted_iff, find?_readMembers, find?_record hunmixed hmem]
  rcases style.written?_eq_some_or value with h | ⟨h, hvalue⟩
  · rw [h]
    exact Or.inr ⟨_, _, rfl, hcheck⟩
  · rw [h]
    exact Or.inl ⟨rfl, hnull hvalue⟩

theorem required_reading_record {check : Json → Checked β} (hunmixed : Unmixed attributes)
    (hmem : (key, value) ∈ attributes) (hcheck : check value = .accepted b)
    (hvalue : value ≠ .null) :
    required key (reading check) (readMembers (style.record attributes)) = .accepted b :=
  required_record hunmixed hmem hcheck hvalue

theorem optional_reading_record {check : Json → Checked β} {absent : β}
    (hunmixed : Unmixed attributes) (hmem : (key, value) ∈ attributes)
    (hcheck : check value = .accepted b) (hnull : value = .null → b = absent) :
    optional key absent (reading check) (readMembers (style.record attributes)) = .accepted b :=
  optional_record hunmixed hmem hcheck hnull

/-- A value that may be absent is read from what stands for it. -/
theorem optional_orNull_record {check : Json → Checked β} {write : β → Json} {given : Option β}
    (hunmixed : Unmixed attributes) (hmem : (key, (given.map write).getD .null) ∈ attributes)
    (hread : ∀ b, check (write b) = .accepted b) (hnull : ∀ b, write b ≠ .null) :
    optional key none (reading (orNull check)) (readMembers (style.record attributes))
      = .accepted given := by
  refine optional_reading_record hunmixed hmem ?_ ?_
  · cases given with
    | none => rfl
    | some b =>
      rw [Option.map_some, Option.getD_some, orNull_of_ne_null (hnull b), hread]
      rfl
  · cases given with
    | none => exact fun _ => rfl
    | some b => exact fun h => absurd h (hnull b)

/-- Every member is read as an attribute. -/
theorem unknownKeys_record (hunmixed : Unmixed attributes) :
    unknownKeys (attributes.map (·.1)) (readMembers (style.record attributes)) = [] := by
  apply unknownKeys_eq_nil
  intro name hname
  rw [readMembers_eq_map, Entries.names, List.map_map, List.mem_map] at hname
  obtain ⟨⟨_, value⟩, hmem, rfl⟩ := hname
  obtain ⟨⟨key, written⟩, hattribute, hmem⟩ := List.mem_flatMap.mp hmem
  rw [DumpStyle.member_eq, Option.mem_toList, Option.map_eq_some_iff] at hmem
  obtain ⟨v, hwritten, heq⟩ := hmem
  cases heq
  refine ⟨key, List.mem_map_of_mem hattribute, .ofJson value, ?_⟩
  rw [find?_readMembers, find?_record hunmixed hattribute, hwritten]
  rfl

end Reading

end FormSchema
