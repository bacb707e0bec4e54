import FormSchema.Intake.Record
import FormSchema.Intake.Scalar
import FormSchema.Proofs.Entries
import Mathlib.Data.List.Forall2

/-!
# FormSchema — accepted readings

When a reading accepts, every part of it does, and the value comes from the values of the parts; it
accepts exactly then. With one such equivalence for each way to combine readings, what is known of
an accepted value is found part by part, and so is that a value is accepted.

* **`map_eq_accepted_iff`** … **`withFaults_eq_accepted_iff`** — the combinators.
* **`required_eq_accepted_iff`**, **`optional_eq_accepted_iff`** — attributes of records.
* **`unknownKeys_eq_nil`** — a record of which every member is read.
-/

namespace FormSchema.Intake

variable {α β : Type}

/-! ## Combinations of readings -/

namespace Checked

@[simp] theorem map_eq_accepted_iff {f : α → β} {r : Checked α} {b : β} :
    map f r = .accepted b ↔ ∃ a, r = .accepted a ∧ f a = b := by
  cases r <;> simp [map]

@[simp] theorem fmap_eq_accepted_iff {f : α → β} {r : Checked α} {b : β} :
    f <$> r = .accepted b ↔ ∃ a, r = .accepted a ∧ f a = b := map_eq_accepted_iff

@[simp] theorem both_eq_accepted_iff {r : Checked α} {s : Checked β} {p : α × β} :
    both r s = .accepted p ↔ r = .accepted p.1 ∧ s = .accepted p.2 := by
  obtain ⟨a, b⟩ := p
  cases r <;> cases s <;> simp [both]

@[simp] theorem seq_eq_accepted_iff {f : Checked (α → β)} {r : Checked α} {b : β} :
    f <*> r = .accepted b ↔ ∃ g, f = .accepted g ∧ ∃ a, r = .accepted a ∧ g a = b := by
  have hseq : f <*> r = map (fun p => p.1 p.2) (both f r) := rfl
  rw [hseq, map_eq_accepted_iff]
  simp [and_assoc]

/-- In a chain of parts the last one comes off first; what is left is read as before. -/
theorem exists_seq_accepted {f : Checked (α → β)} {r : Checked α} {P : β → Prop} :
    (∃ b, f <*> r = .accepted b ∧ P b)
      ↔ ∃ g, f = .accepted g ∧ ∃ a, r = .accepted a ∧ P (g a) := by
  simp only [seq_eq_accepted_iff]
  constructor
  · rintro ⟨_, ⟨g, hg, a, ha, rfl⟩, hP⟩
    exact ⟨g, hg, a, ha, hP⟩
  · rintro ⟨g, hg, a, ha, hP⟩
    exact ⟨g a, ⟨g, hg, a, ha, rfl⟩, hP⟩

theorem exists_fmap_accepted {f : α → β} {r : Checked α} {P : β → Prop} :
    (∃ b, f <$> r = .accepted b ∧ P b) ↔ ∃ a, r = .accepted a ∧ P (f a) := by
  simp only [fmap_eq_accepted_iff, exists_exists_and_eq_and]

@[simp] theorem under_eq_accepted_iff {step : Step} {r : Checked α} {a : α} :
    r.under step = .accepted a ↔ r = .accepted a := by
  cases r <;> simp [under]

@[simp] theorem fault_ne_accepted {cause : Cause} {a : α} :
    (fault cause : Checked α) ≠ .accepted a := by
  simp [fault]

@[simp] theorem verify_eq_accepted_iff {r : Checked α} {check : α → Option Misconfiguration}
    {a : α} : r.verify check = .accepted a ↔ r = .accepted a ∧ check a = none := by
  cases r with
  | accepted value =>
    rw [verify]
    cases hcheck : check value with
    | none =>
      constructor
      · intro h
        cases h
        exact ⟨rfl, hcheck⟩
      · exact And.left
    | some reason =>
      constructor
      · intro h
        exact absurd h (by simp)
      · rintro ⟨h, hnone⟩
        cases h
        exact absurd (hcheck.symm.trans hnone) (by simp)
  | faulty faults => simp [verify]
  | refused reason => simp [verify]

/-- A second look that never objects changes nothing. -/
theorem verify_eq_self {r : Checked α} {check : α → Option Misconfiguration}
    (h : ∀ a, r = .accepted a → check a = none) : r.verify check = r := by
  cases r with
  | accepted a => rw [verify, h a rfl]
  | _ => rfl

@[simp] theorem withFaults_eq_accepted_iff {r : Checked α} {faults : List Fault} {a : α} :
    r.withFaults faults = .accepted a ↔ r = .accepted a ∧ faults = [] := by
  cases faults <;> simp [withFaults]

/-- The items of a list are read one by one. -/
theorem eachFrom_eq_accepted_iff {check : α → Checked β} {start : Nat} {xs : List α}
    {ys : List β} :
    eachFrom check start xs = .accepted ys
      ↔ List.Forall₂ (fun x y => check x = .accepted y) xs ys := by
  induction xs generalizing start ys with
  | nil => cases ys <;> simp [eachFrom]
  | cons x xs ih => cases ys <;> simp [eachFrom, ih]

end Checked

/-! ## Attributes of records -/

section Attributes

variable {key : Key} {check : α → Checked β} {members : Entries α}

theorem required_eq_accepted_iff {b : β} : required key check members = .accepted b
    ↔ ∃ name value, key.find? members = some (name, value) ∧ check value = .accepted b := by
  rw [required]
  cases hfind : key.find? members with
  | none => simp
  | some found =>
    obtain ⟨name, value⟩ := found
    simp

theorem optional_eq_accepted_iff {absent b : β} : optional key absent check members = .accepted b
    ↔ (key.find? members = none ∧ b = absent)
      ∨ ∃ name value, key.find? members = some (name, value) ∧ check value = .accepted b := by
  rw [optional]
  cases hfind : key.find? members with
  | none => simp [eq_comm]
  | some found =>
    obtain ⟨name, value⟩ := found
    simp

end Attributes

/-- The spellings that an attribute is read under. -/
def Key.spellings (key : Key) : List String := key.name :: key.alternative.toList

/-- What an attribute reads is a member. -/
theorem Key.mem_of_find? {key : Key} {members : Entries α} {name : String} {value : α}
    (h : key.find? members = some (name, value)) : (name, value) ∈ members := by
  rw [find?] at h
  cases hget : Entries.get? members key.name with
  | some v =>
    rw [hget] at h
    cases h
    exact Entries.mem_of_get? hget
  | none =>
    rw [hget, Option.bind_eq_some_iff] at h
    obtain ⟨other, _, hother⟩ := h
    obtain ⟨v, hv, heq⟩ := Option.map_eq_some_iff.mp hother
    cases heq
    exact Entries.mem_of_get? hv

/-- Attributes are found where they were when members are converted one by one. -/
theorem Key.find?_mapValues (key : Key) (f : α → β) (members : Entries α) :
    key.find? (members.map fun m => (m.1, f m.2))
      = (key.find? members).map fun m => (m.1, f m.2) := by
  obtain ⟨name, alternative⟩ := key
  rw [find?, find?, Entries.get?_mapValues]
  cases Entries.get? members name with
  | some value => rfl
  | none =>
    cases alternative with
    | none => rfl
    | some other =>
      simp only [Option.map_none, Option.bind_some, Entries.get?_mapValues, Option.map_map]
      rfl

theorem find?_plain_eq (members : Entries α) (name : String) :
    (Key.plain name).find? members = (Entries.get? members name).map (name, ·) := by
  rw [Key.find?, Key.plain]
  cases Entries.get? members name <;> rfl

section Names

variable {members members' : Entries α}

/-- The spelling in use is the first one that stands for a member. -/
theorem fst_find?_eq (key : Key) : (key.find? members).map (·.1)
    = key.spellings.find? fun name => (Entries.get? members name).isSome := by
  obtain ⟨name, alternative⟩ := key
  rw [Key.find?, Key.spellings]
  cases hname : Entries.get? members name with
  | some value => simp [hname]
  | none =>
    cases alternative with
    | none => simp [hname]
    | some other => cases hother : Entries.get? members other <;> simp [hname, hother]

/-- Which members are unknown depends on their names only. -/
theorem unknownKeys_congr (hnames : Entries.names members = Entries.names members')
    (h : ∀ name, (Entries.get? members name).isSome = (Entries.get? members' name).isSome)
    (keys : List Key) : unknownKeys keys members = unknownKeys keys members' := by
  rw [unknownKeys, unknownKeys, unread, unread, hnames]
  simp only [fst_find?_eq, h]

end Names

/-- A record is closed if every member is read as some attribute. -/
theorem unknownKeys_eq_nil {keys : List Key} {members : Entries α}
    (h : ∀ name ∈ Entries.names members, ∃ key ∈ keys, ∃ value,
      key.find? members = some (name, value)) : unknownKeys keys members = [] := by
  rw [unknownKeys, unread, List.map_eq_nil_iff, List.filter_eq_nil_iff]
  intro name hname
  obtain ⟨key, hkey, value, hfind⟩ := h name hname
  have hused : name ∈ keys.filterMap fun key => (key.find? members).map (·.1) :=
    List.mem_filterMap.mpr ⟨key, hkey, by rw [hfind]; rfl⟩
  simpa using hused

end FormSchema.Intake
