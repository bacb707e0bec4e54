import FormSchema.Proofs.Intake.Accepted

/-!
# FormSchema — faults and refusals of readings

A reading that accepts nothing has faults, or it was refused for one reason. What either is follows
from the parts of the reading: faults add up in order, and the first reason counts. With one
equation for each way to combine readings, the faults of a record are found attribute by attribute.

* **`refusal?_both`**, **`faults_both`** — two readings side by side; the other combinators follow.
* **`refusal?_eachFrom`**, **`faults_eachFrom`** — the items of a list, each at its position.
* **`faultsBelow`** — the faults at a place or below it. **`faultsBelow_required`**,
  **`faultsBelow_optional`** — the faults of an attribute are all at its spellings.
* **`Proper`**, **`Plain`** — a reading that accepts nothing says why; a plain one is never refused.
* **`Carries`** — a reading with one attribute that may be refused; all others stand **`Apart`**.
-/

namespace FormSchema.Intake

variable {α β : Type}

namespace Checked

def faults : Checked α → List Fault
  | .faulty faults => faults
  | _ => []

def refusal? : Checked α → Option Misconfiguration
  | .refused reason => some reason
  | _ => none

@[simp] theorem faults_accepted (a : α) : (accepted a).faults = [] := rfl

@[simp] theorem refusal?_accepted (a : α) : (accepted a).refusal? = none := rfl

@[simp] theorem refusal?_faulty (faults : List Fault) :
    (faulty faults : Checked α).refusal? = none := rfl

@[simp] theorem refusal?_fault (cause : Cause) : (fault cause : Checked α).refusal? = none := rfl

theorem eq_refused_iff {r : Checked α} {reason : Misconfiguration} :
    r = .refused reason ↔ r.refusal? = some reason := by
  cases r <;> simp [refusal?]

/-! ## Combinations of readings -/

@[simp] theorem refusal?_map (f : α → β) (r : Checked α) : (map f r).refusal? = r.refusal? := by
  cases r <;> rfl

@[simp] theorem faults_map (f : α → β) (r : Checked α) : (map f r).faults = r.faults := by
  cases r <;> rfl

@[simp] theorem refusal?_fmap (f : α → β) (r : Checked α) : (f <$> r).refusal? = r.refusal? :=
  refusal?_map f r

@[simp] theorem faults_fmap (f : α → β) (r : Checked α) : (f <$> r).faults = r.faults :=
  faults_map f r

@[simp] theorem refusal?_under (step : Step) (r : Checked α) :
    (r.under step).refusal? = r.refusal? := by
  cases r <;> rfl

@[simp] theorem faults_under (step : Step) (r : Checked α) :
    (r.under step).faults = r.faults.map (·.under step) := by
  cases r <;> rfl

theorem refusal?_both (r : Checked α) (s : Checked β) :
    (both r s).refusal? = r.refusal?.or s.refusal? := by
  cases r <;> cases s <;> rfl

theorem faults_both {r : Checked α} {s : Checked β} (h : (both r s).refusal? = none) :
    (both r s).faults = r.faults ++ s.faults := by
  rw [refusal?_both, Option.or_eq_none_iff] at h
  cases r with
  | refused reason => exact absurd h.1 (by simp [refusal?])
  | accepted a =>
    cases s with
    | refused reason => exact absurd h.2 (by simp [refusal?])
    | _ => rfl
  | faulty faults =>
    cases s with
    | refused reason => exact absurd h.2 (by simp [refusal?])
    | accepted b => simp [both, Checked.faults]
    | faulty more => rfl

@[simp] theorem refusal?_seq (f : Checked (α → β)) (r : Checked α) :
    (f <*> r).refusal? = f.refusal?.or r.refusal? := by
  show (map (fun p => p.1 p.2) (both f r)).refusal? = _
  rw [refusal?_map, refusal?_both]

theorem faults_seq {f : Checked (α → β)} {r : Checked α} (h : (f <*> r).refusal? = none) :
    (f <*> r).faults = f.faults ++ r.faults := by
  have hboth : (both f r).refusal? = none := by
    rw [← h, refusal?_seq, refusal?_both]
  show (map (fun p => p.1 p.2) (both f r)).faults = _
  rw [faults_map, faults_both hboth]

theorem withFaults_eq (r : Checked α) (faults : List Fault) :
    (r.withFaults faults).refusal? = r.refusal?
      ∧ (r.refusal? = none → (r.withFaults faults).faults = r.faults ++ faults) := by
  cases faults <;> cases r <;> simp [withFaults, both, map, Checked.faults, refusal?]

/-- A second look changes the faults of no reading: it finds a reason to refuse, or nothing. -/
theorem faults_verify (r : Checked α) (check : α → Option Misconfiguration) :
    (r.verify check).faults = r.faults := by
  cases r with
  | accepted a =>
    rw [verify]
    cases check a <;> rfl
  | _ => rfl

theorem refusal?_verify (r : Checked α) (check : α → Option Misconfiguration) :
    (r.verify check).refusal? = r.refusal?.or (r.value?.bind check) := by
  cases r with
  | accepted a =>
    show (verify (accepted a) check).refusal? = check a
    rw [verify]
    cases check a <;> rfl
  | _ => rfl

/-- The first item that is refused is what a list is refused for. -/
theorem refusal?_eachFrom (check : α → Checked β) (start : Nat) (items : List α) :
    (eachFrom check start items).refusal? = items.findSome? fun item => (check item).refusal? := by
  induction items generalizing start with
  | nil => rfl
  | cons item rest ih =>
    rw [eachFrom, refusal?_map, refusal?_both, refusal?_under, ih, List.findSome?_cons]
    cases (check item).refusal? <;> rfl

/-- The faults of a list are those of its items, each under its position. -/
theorem faults_eachFrom {check : α → Checked β} {start : Nat} {items : List α}
    (h : (eachFrom check start items).refusal? = none) :
    (eachFrom check start items).faults
      = (items.zipIdx start).flatMap fun p => (check p.1).faults.map (·.under (.index p.2)) := by
  induction items generalizing start with
  | nil => rfl
  | cons item rest ih =>
    rw [eachFrom, refusal?_map] at h
    have hrest : (eachFrom check (start + 1) rest).refusal? = none := by
      rw [refusal?_both, Option.or_eq_none_iff] at h
      exact h.2
    rw [eachFrom, faults_map, faults_both h, faults_under, ih hrest, List.zipIdx_cons,
      List.flatMap_cons]

/-! ## Readings that say why they accept nothing -/

/-- A reading that accepts nothing was refused or has a fault. -/
def Proper (r : Checked α) : Prop := r ≠ .faulty []

theorem Proper.exists_accepted {r : Checked α} (h : r.Proper) (hrefusal : r.refusal? = none)
    (hfaults : r.faults = []) : ∃ a, r = .accepted a := by
  cases r with
  | accepted a => exact ⟨a, rfl⟩
  | faulty faults => exact absurd (congrArg faulty hfaults) h
  | refused reason => exact absurd hrefusal (by simp [refusal?])

theorem proper_accepted (a : α) : (accepted a).Proper := by
  intro h
  cases h

theorem proper_refused (reason : Misconfiguration) : (refused reason : Checked α).Proper := by
  intro h
  cases h

theorem proper_fault (cause : Cause) : (fault cause : Checked α).Proper := by
  intro h
  cases h

theorem Proper.map {r : Checked α} (h : r.Proper) (f : α → β) : (map f r).Proper := by
  cases r with
  | faulty faults =>
    intro hnil
    cases hnil
    exact h rfl
  | accepted a => exact proper_accepted (f a)
  | refused reason => exact proper_refused reason

theorem Proper.both {r : Checked α} {s : Checked β} (hr : r.Proper) (hs : s.Proper) :
    (both r s).Proper := by
  unfold Proper at *
  cases r <;> cases s <;> simp_all [Checked.both]

theorem Proper.fmap {r : Checked α} (h : r.Proper) (f : α → β) : (f <$> r).Proper := h.map f

theorem Proper.seq {f : Checked (α → β)} {r : Checked α} (hf : f.Proper) (hr : r.Proper) :
    (f <*> r).Proper := (hf.both hr).map fun p => p.1 p.2

theorem Proper.under {r : Checked α} (h : r.Proper) (step : Step) : (r.under step).Proper := by
  cases r with
  | faulty faults =>
    intro hnil
    have hmap : faults.map (·.under step) = [] := by simpa [Checked.under] using hnil
    rw [List.map_eq_nil_iff] at hmap
    exact h (congrArg faulty hmap)
  | accepted a => exact proper_accepted a
  | refused reason => exact proper_refused reason

theorem Proper.withFaults {r : Checked α} (h : r.Proper) (faults : List Fault) :
    (r.withFaults faults).Proper := by
  refine (h.both ?_).map _
  split
  · exact proper_accepted ()
  · rename_i hne
    intro hnil
    cases hnil
    exact hne rfl

theorem Proper.verify {r : Checked α} (h : r.Proper) (check : α → Option Misconfiguration) :
    (r.verify check).Proper := by
  cases r with
  | accepted a =>
    rw [Checked.verify]
    cases check a <;> simp [Proper]
  | _ => exact h

theorem proper_eachFrom {check : α → Checked β} (h : ∀ a, (check a).Proper) (start : Nat)
    (items : List α) : (eachFrom check start items).Proper := by
  induction items generalizing start with
  | nil => exact proper_accepted []
  | cons item rest ih => exact (((h item).under _).both (ih (start + 1))).map _

/-- A reading that is never refused: it accepts, or it has a fault. -/
structure Plain (r : Checked α) : Prop where
  refusal? : r.refusal? = none
  proper : r.Proper

theorem plain_accepted (a : α) : (accepted a).Plain := ⟨rfl, proper_accepted a⟩

theorem plain_fault (cause : Cause) : (fault cause : Checked α).Plain := ⟨rfl, proper_fault cause⟩

theorem Plain.map {r : Checked α} (h : r.Plain) (f : α → β) : (Checked.map f r).Plain :=
  ⟨(refusal?_map f r).trans h.refusal?, h.proper.map f⟩

theorem Plain.fmap {r : Checked α} (h : r.Plain) (f : α → β) : (f <$> r).Plain := h.map f

theorem Plain.seq {f : Checked (α → β)} {r : Checked α} (hf : f.Plain) (hr : r.Plain) :
    (f <*> r).Plain := by
  refine ⟨?_, hf.proper.seq hr.proper⟩
  rw [refusal?_seq, hf.refusal?, hr.refusal?]
  rfl

theorem plain_eachFrom {check : α → Checked β} (h : ∀ a, (check a).Plain) (start : Nat)
    (items : List α) : (eachFrom check start items).Plain := by
  refine ⟨?_, proper_eachFrom (fun a => (h a).proper) start items⟩
  rw [refusal?_eachFrom, List.findSome?_eq_none_iff]
  exact fun item _ => (h item).refusal?

theorem plain_ite {p : Prop} [Decidable p] {r s : Checked α} (hr : r.Plain) (hs : s.Plain) :
    (if p then r else s).Plain := by
  split
  · exact hr
  · exact hs

end Checked

section Scalars

open Checked

theorem plain_text (value : Json) : (text value).Plain := by
  cases value with
  | str s => exact plain_accepted s
  | _ => exact plain_fault _

theorem plain_nonEmptyText (value : Json) : (nonEmptyText value).Plain := by
  cases value with
  | str s => exact plain_ite (plain_fault _) (plain_accepted s)
  | _ => exact plain_fault _

theorem plain_orNull {check : Json → Checked α} (h : ∀ value, (check value).Plain)
    (value : Json) : (orNull check value).Plain := by
  cases value with
  | null => exact plain_accepted none
  | _ => exact (h _).map some

theorem plain_word (choices : List (String × α)) (value : Json) : (word choices value).Plain := by
  unfold word
  cases value with
  | str s =>
    dsimp only
    cases choices.lookup s with
    | some a => exact plain_accepted a
    | none => exact plain_fault _
  | _ => exact plain_fault _

theorem plain_exactly (expected : String) (value : Json) : (exactly expected value).Plain :=
  plain_word _ value

theorem plain_flag (value : Json) : (flag value).Plain := by
  cases value with
  | bool b => exact plain_accepted b
  | int n => exact plain_ite (plain_accepted _) (plain_ite (plain_accepted _) (plain_fault _))
  | float x => exact plain_ite (plain_accepted _) (plain_ite (plain_accepted _) (plain_fault _))
  | str s => exact plain_ite (plain_accepted _) (plain_ite (plain_accepted _) (plain_fault _))
  | _ => exact plain_fault _

theorem plain_wholeNumber (x : Float) : (wholeNumber x).Plain := by
  unfold wholeNumber
  cases Number.unpack x with
  | finite negative mantissa exponent =>
    exact plain_ite (plain_fault _) (plain_ite (plain_accepted _) (plain_fault _))
  | _ => exact plain_fault _

theorem plain_integer (value : Json) : (integer value).Plain := by
  cases value with
  | int n => exact plain_accepted n
  | bool b => exact plain_accepted _
  | float x => exact plain_wholeNumber x
  | str s =>
    rw [integer]
    cases Number.integerText? s with
    | some n => exact plain_accepted n
    | none => exact plain_fault _
  | _ => exact plain_fault _

theorem plain_notLimit (asInteger asNumber : Cause) : (notLimit asInteger asNumber).Plain :=
  ⟨rfl, nofun⟩

theorem plain_limit (value : Json) : (limit value).Plain := by
  cases value with
  | int n => exact plain_accepted _
  | float x => exact plain_accepted _
  | bool b => exact plain_accepted _
  | str s =>
    rw [limit]
    cases Number.integerText? s with
    | some n => exact plain_accepted _
    | none =>
      cases Number.numberText? s with
      | some x => exact plain_accepted _
      | none => exact plain_notLimit _ _
  | _ => exact plain_notLimit _ _

theorem plain_texts (value : Json) : (texts value).Plain := by
  cases value with
  | arr items => exact plain_eachFrom plain_text 0 items
  | _ => exact plain_fault _

end Scalars

/-! ## Faults below a place -/

/-- A fault seen from a place further out. -/
def Fault.within (place : List Step) (f : Fault) : Fault := { f with path := place ++ f.path }

theorem within_append (a b : List Step) (f : Fault) :
    f.within (a ++ b) = (f.within b).within a := by
  simp [Fault.within]

/-- The faults that stand at a place or below it. -/
def faultsBelow (place : List Step) (faults : List Fault) : List Fault :=
  faults.filter fun f => place <+: f.path

@[simp] theorem faultsBelow_nil (place : List Step) : faultsBelow place [] = [] := rfl

@[simp] theorem faultsBelow_append (place : List Step) (xs ys : List Fault) :
    faultsBelow place (xs ++ ys) = faultsBelow place xs ++ faultsBelow place ys :=
  List.filter_append ..

/-- Below a place there are the faults found there, seen from further out. -/
theorem faultsBelow_within (a b : List Step) (faults : List Fault) :
    faultsBelow (a ++ b) (faults.map (·.within a)) = (faultsBelow b faults).map (·.within a) := by
  rw [faultsBelow, List.filter_map, faultsBelow]
  congr 2
  funext f
  exact decide_eq_decide.mpr (List.prefix_append_right_inj a)

theorem faultsBelow_within_self (place : List Step) (faults : List Fault) :
    faultsBelow place (faults.map (·.within place)) = faults.map (·.within place) := by
  have h := faultsBelow_within place [] faults
  rw [List.append_nil] at h
  rw [h, faultsBelow, List.filter_eq_self.mpr (by simp)]

/-- What stands below a place stands below every place above it. -/
theorem faultsBelow_faultsBelow (a b : List Step) (faults : List Fault) :
    faultsBelow (a ++ b) (faultsBelow a faults) = faultsBelow (a ++ b) faults := by
  rw [faultsBelow, faultsBelow, List.filter_filter, faultsBelow]
  congr 1
  funext f
  rw [Bool.and_eq_left_iff_imp]
  intro h
  rw [decide_eq_true_eq] at h ⊢
  exact (List.prefix_append a b).trans h

theorem faultsBelow_under_of_ne {step other : Step} (h : other ≠ step) (faults : List Fault) :
    faultsBelow [step] (faults.map (·.under other)) = [] := by
  rw [faultsBelow, List.filter_eq_nil_iff]
  intro f hf
  obtain ⟨g, _, rfl⟩ := List.mem_map.mp hf
  rw [decide_eq_true_eq, Fault.under, List.cons_prefix_cons]
  rintro ⟨heq, _⟩
  exact h heq.symm

theorem Key.mem_spellings_of_find? {key : Key} {members : Entries α} {found : String × α}
    (h : key.find? members = some found) : found.1 ∈ key.spellings := by
  unfold find? at h
  cases hget : Entries.get? members key.name with
  | some value =>
    rw [hget] at h
    cases h
    exact List.mem_cons_self
  | none =>
    rw [hget] at h
    obtain ⟨other, hother, hfound⟩ := Option.bind_eq_some_iff.mp h
    obtain ⟨value, _, rfl⟩ := Option.map_eq_some_iff.mp hfound
    simp [spellings, hother]

section Attributes

variable {key : Key} {check : α → Checked β} {members : Entries α}

theorem proper_required (h : ∀ value, (check value).Proper) :
    (required key check members).Proper := by
  unfold required
  split
  · exact (h _).under _
  · exact nofun

theorem proper_optional {absent : β} (h : ∀ value, (check value).Proper) :
    (optional key absent check members).Proper := by
  unfold optional
  split
  · exact (h _).under _
  · exact nofun

theorem plain_required (h : ∀ value, (check value).Plain) :
    (required key check members).Plain := by
  refine ⟨?_, proper_required fun value => (h value).proper⟩
  unfold required
  split
  · rw [Checked.refusal?_under]
    exact (h _).refusal?
  · rfl

theorem plain_optional {absent : β} (h : ∀ value, (check value).Plain) :
    (optional key absent check members).Plain := by
  refine ⟨?_, proper_optional fun value => (h value).proper⟩
  unfold optional
  split
  · rw [Checked.refusal?_under]
    exact (h _).refusal?
  · rfl

/-- The faults of an attribute are at one of its spellings, and nowhere else. -/
theorem faultsBelow_required {name : String} (h : name ∉ key.spellings) :
    faultsBelow [.key name] (required key check members).faults = [] := by
  unfold required
  cases hfind : key.find? members with
  | none =>
    have hne : key.name ≠ name := by
      rintro rfl
      exact h List.mem_cons_self
    exact faultsBelow_under_of_ne (by simpa using hne) [.here .missing]
  | some found =>
    have hne : found.1 ≠ name := by
      rintro rfl
      exact h (Key.mem_spellings_of_find? hfind)
    show faultsBelow [.key name] ((check found.2).under (.key found.1)).faults = []
    rw [Checked.faults_under, faultsBelow_under_of_ne (by simpa using hne)]

theorem faultsBelow_optional {name : String} {absent : β} (h : name ∉ key.spellings) :
    faultsBelow [.key name] (optional key absent check members).faults = [] := by
  unfold optional
  cases hfind : key.find? members with
  | none => rfl
  | some found =>
    have hne : found.1 ≠ name := by
      rintro rfl
      exact h (Key.mem_spellings_of_find? hfind)
    show faultsBelow [.key name] ((check found.2).under (.key found.1)).faults = []
    rw [Checked.faults_under, faultsBelow_under_of_ne (by simpa using hne)]

end Attributes

/-- A member that an attribute reads is no unknown key. -/
theorem faultsBelow_unknownKeys {keys : List Key} {members : Entries α} {key : Key} {value : α}
    {name : String} (hkey : key ∈ keys) (hfind : key.find? members = some (name, value)) :
    faultsBelow [.key name] (unknownKeys keys members) = [] := by
  rw [faultsBelow, List.filter_eq_nil_iff]
  intro f hf
  obtain ⟨other, hother, rfl⟩ := List.mem_map.mp hf
  have hused : name ∈ keys.filterMap fun key => (key.find? members).map (·.1) :=
    List.mem_filterMap.mpr ⟨key, hkey, by rw [hfind]; rfl⟩
  have hunread := (List.mem_filter.mp hother).2
  have hne : other ≠ name := by
    rintro rfl
    simp [hused] at hunread
  simpa [eq_comm] using hne

/-! ## The attribute with the faults at a key -/

/-- A reading that is never refused and has no faults at a key. -/
structure Apart (key : String) (r : Checked α) : Prop where
  plain : r.Plain
  faults : faultsBelow [.key key] r.faults = []

/-- At a key, a reading has the faults of an inner one, and it is refused if that one is. -/
structure Carries (key : String) (inner : Checked β) (r : Checked α) : Prop where
  refusal? : r.refusal? = inner.refusal?
  faults : inner.refusal? = none →
    faultsBelow [.key key] r.faults = inner.faults.map (·.within [.key key])

section Attributes

variable {γ : Type} {key : String} {other : Key} {members : Entries γ}

theorem apart_required {check : γ → Checked α} (hcheck : ∀ value, (check value).Plain)
    (h : key ∉ other.spellings) : Apart key (required other check members) :=
  ⟨plain_required hcheck, faultsBelow_required h⟩

theorem apart_optional {absent : α} {check : γ → Checked α} (hcheck : ∀ value, (check value).Plain)
    (h : key ∉ other.spellings) : Apart key (optional other absent check members) :=
  ⟨plain_optional hcheck, faultsBelow_optional h⟩

theorem Apart.fmap {r : Checked α} (h : Apart key r) (f : α → β) : Apart key (f <$> r) :=
  ⟨h.plain.fmap f, (congrArg _ (Checked.faults_fmap f r)).trans h.faults⟩

theorem Apart.seq {f : Checked (α → β)} {r : Checked α} (hf : Apart key f) (hr : Apart key r) :
    Apart key (f <*> r) := by
  have hplain := hf.plain.seq hr.plain
  refine ⟨hplain, ?_⟩
  rw [Checked.faults_seq hplain.refusal?, faultsBelow_append, hf.faults, hr.faults]
  rfl

variable {inner : Checked γ}

theorem Carries.fmap {r : Checked α} (h : Carries key inner r) (f : α → β) :
    Carries key inner (f <$> r) :=
  ⟨(Checked.refusal?_fmap f r).trans h.refusal?,
    fun hnone => (congrArg _ (Checked.faults_fmap f r)).trans (h.faults hnone)⟩

/-- An attribute in front that has nothing to do with the key changes nothing at the key. -/
theorem Apart.seq_carries {f : Checked (α → β)} {r : Checked α} (hf : Apart key f)
    (hr : Carries key inner r) : Carries key inner (f <*> r) := by
  have hrefusal : (f <*> r).refusal? = inner.refusal? := by
    rw [Checked.refusal?_seq, hf.plain.refusal?, hr.refusal?, Option.none_or]
  refine ⟨hrefusal, fun hnone => ?_⟩
  rw [Checked.faults_seq (hrefusal.trans hnone), faultsBelow_append, hf.faults, hr.faults hnone]
  rfl

/-- And neither does one behind. -/
theorem Carries.seq_apart {f : Checked (α → β)} {r : Checked α} (hf : Carries key inner f)
    (hr : Apart key r) : Carries key inner (f <*> r) := by
  have hrefusal : (f <*> r).refusal? = inner.refusal? := by
    rw [Checked.refusal?_seq, hr.plain.refusal?, hf.refusal?, Option.or_none]
  refine ⟨hrefusal, fun hnone => ?_⟩
  rw [Checked.faults_seq (hrefusal.trans hnone), faultsBelow_append, hf.faults hnone, hr.faults,
    List.append_nil]

theorem Carries.withFaults {r : Checked α} {faults : List Fault} (h : Carries key inner r)
    (hfaults : faultsBelow [.key key] faults = []) : Carries key inner (r.withFaults faults) := by
  obtain ⟨hrefusal, hadded⟩ := Checked.withFaults_eq r faults
  refine ⟨hrefusal.trans h.refusal?, fun hnone => ?_⟩
  rw [hadded (h.refusal?.trans hnone), faultsBelow_append, h.faults hnone, hfaults,
    List.append_nil]

end Attributes

end FormSchema.Intake
