import FormSchema.Proofs.Form.Containers

/-!
# FormSchema — loading is compositional

A list of elements is loaded as its elements are loaded one by one, and so is the list of children
of every container, wherever it stands. Faults are collected from everywhere, each under its place;
a misconfiguration ends the loading, and of several the first one does.

* **`loadAlone`** — the loading of a single element, by which those of lists are measured.
* **`load_eq_ok_iff`**, **`misconfiguration?_load`**, **`loadFaults_load`** — the three ways in
  which a loading ends, each as a fact about the reading of the elements.
* **`separateFaults`** — the faults of elements that are loaded alone, each moved to its place.
* **`load_composes`** — the statement about whole forms.
-/

namespace FormSchema

open Intake Checked

/-! ## Loading -/

/-- The misconfiguration that ended a loading. -/
def misconfiguration? : Except LoadError Form → Option Misconfiguration
  | .error (.record (.misconfigured reason)) => some reason
  | _ => none

/-- The faults that were found while loading. -/
def loadFaults : Except LoadError Form → List Fault
  | .error (.record (.invalid _ faults)) => faults
  | _ => []

/-- What a list with a single element is loaded as. -/
def loadAlone (x : Json) : Except LoadError Form := Form.load (.arr [x])

/-- A fault of an element that was loaded alone, seen where the element stands. -/
def Intake.Fault.movedTo (place : List Step) : Fault → Fault
  | ⟨.key "elements" :: .index 0 :: rest, cause⟩ => ⟨place ++ rest, cause⟩
  | f => f

theorem load_arr (items : List Json) : Form.load (.arr items)
    = (((Form.mk <$> readList items).withFaults []).toExcept "FormSpec").mapError .record := by
  have hread : Form.read (.obj [("elements", .arr items)])
      = (Form.mk <$> readList items).withFaults [] := by
    rw [Form.read, Form.readMembers, readMembers, readMembers, readElements]
    rfl
  show ((Form.read (.obj [("elements", .arr items)])).toExcept "FormSpec").mapError _ = _
  rw [hread]

theorem load_eq_ok_iff {items : List Json} {form : Form} :
    Form.load (.arr items) = .ok form ↔ readItems 0 items = .accepted form.elements := by
  rw [load_arr, toExcept_mapError_eq_ok_iff, withFaults_eq_accepted_iff, fmap_eq_accepted_iff]
  simp only [readList, under_eq_accepted_iff, and_true]
  constructor
  · rintro ⟨es, hes, rfl⟩
    exact hes
  · intro h
    exact ⟨form.elements, h, rfl⟩

theorem misconfiguration?_load (items : List Json) :
    misconfiguration? (Form.load (.arr items)) = (readItems 0 items).refusal? := by
  rw [load_arr, readList]
  cases readItems 0 items <;> rfl

theorem loadFaults_load (items : List Json) :
    loadFaults (Form.load (.arr items)) = (readList items).faults := by
  rw [load_arr, readList]
  cases readItems 0 items <;> rfl

theorem load_eq_misconfigured_iff {items : List Json} {reason : Misconfiguration} :
    Form.load (.arr items) = .error (.record (.misconfigured reason))
      ↔ misconfiguration? (Form.load (.arr items)) = some reason := by
  constructor
  · intro h
    rw [h]
    rfl
  · intro h
    rw [misconfiguration?_load, ← eq_refused_iff] at h
    rw [load_arr, readList, h]
    rfl

theorem loadAlone_eq_ok_iff {x : Json} {e : Element} :
    loadAlone x = .ok ⟨[e]⟩ ↔ readElement x = .accepted e := by
  rw [loadAlone, load_eq_ok_iff, readItems_eq_accepted_iff]
  simp

theorem loadAlone_eq_ok_iff_exists {x : Json} {form : Form} :
    loadAlone x = .ok form ↔ ∃ e, readElement x = .accepted e ∧ form = ⟨[e]⟩ := by
  rw [loadAlone, load_eq_ok_iff, readItems_eq_accepted_iff, List.forall₂_cons_left_iff]
  simp only [List.forall₂_nil_left_iff]
  constructor
  · rintro ⟨e, _, he, rfl, hform⟩
    exact ⟨e, he, congrArg Form.mk hform⟩
  · rintro ⟨e, he, rfl⟩
    exact ⟨e, [], he, rfl, rfl⟩

theorem misconfiguration?_loadAlone (x : Json) :
    misconfiguration? (loadAlone x) = (readElement x).refusal? := by
  rw [loadAlone, misconfiguration?_load, refusal?_readItems, List.findSome?_cons,
    List.findSome?_nil]
  cases (readElement x).refusal? <;> rfl

/-- The faults of an element alone, moved to a place, are those of its reading at the place. -/
theorem map_movedTo_loadFaults {x : Json} (h : misconfiguration? (loadAlone x) = none)
    (place : List Step) : (loadFaults (loadAlone x)).map (·.movedTo place)
      = (readElement x).faults.map (·.within place) := by
  rw [loadAlone, misconfiguration?_load] at h
  have hfaults : loadFaults (loadAlone x)
      = (readElement x).faults.map (·.within [.key "elements", .index 0]) := by
    rw [loadAlone, loadFaults_load, readList, faults_under, faults_readItems h, List.zipIdx_cons,
      List.zipIdx_nil, List.flatMap_cons, List.flatMap_nil, List.append_nil, List.map_map]
    rfl
  rw [hfaults, List.map_map]
  rfl

/-- The misconfiguration of the first element that has one when it is loaded alone. -/
def firstMisconfiguration? (items : List Json) : Option Misconfiguration :=
  items.findSome? fun x => misconfiguration? (loadAlone x)

theorem firstMisconfiguration?_eq (items : List Json) :
    firstMisconfiguration? items = (readItems 0 items).refusal? := by
  rw [firstMisconfiguration?, refusal?_readItems]
  simp only [misconfiguration?_loadAlone]

/-- The faults of elements that are loaded one by one, each below a place and at its position. -/
def separateFaults (place : List Step) (items : List Json) : List Fault :=
  items.zipIdx.flatMap fun p =>
    (loadFaults (loadAlone p.1)).map (·.movedTo (place ++ [.index p.2]))

theorem separateFaults_eq {items : List Json} (h : (readItems 0 items).refusal? = none)
    (place : List Step) :
    separateFaults place items = (readItems 0 items).faults.map (·.within place) := by
  rw [separateFaults, faults_readItems h, List.map_flatMap]
  refine List.flatMap_congr fun p hp => ?_
  have hitem : misconfiguration? (loadAlone p.1) = none := by
    rw [misconfiguration?_loadAlone]
    exact refusal?_of_mem h (List.mem_zipIdx_iff_getElem?.mp hp)
  rw [map_movedTo_loadFaults hitem, List.map_map]
  refine List.map_congr_left fun f _ => ?_
  exact within_append place [.index p.2] f

theorem separately_iff {items : List Json} {es : List Element} :
    List.Forall₂ (fun x e => loadAlone x = .ok ⟨[e]⟩) items es
      ↔ readItems 0 items = .accepted es := by
  rw [readItems_eq_accepted_iff]
  simp only [loadAlone_eq_ok_iff]

/-- Elements that are neither refused nor have a fault are loaded one by one. -/
theorem exists_separately_iff {items : List Json} :
    (∃ es, List.Forall₂ (fun x e => loadAlone x = .ok ⟨[e]⟩) items es)
      ↔ firstMisconfiguration? items = none ∧ ∀ place, separateFaults place items = [] := by
  simp only [separately_iff, firstMisconfiguration?_eq]
  constructor
  · rintro ⟨es, hes⟩
    rw [hes]
    refine ⟨rfl, fun place => ?_⟩
    rw [separateFaults_eq (by rw [hes]; rfl), hes]
    rfl
  · rintro ⟨hnone, hfaults⟩
    have hnil := hfaults []
    rw [separateFaults_eq hnone, List.map_eq_nil_iff] at hnil
    exact (proper_readItems items 0).exists_accepted hnone hnil

/-- Elements that cannot be loaded together have faults, unless one of them is misconfigured. -/
theorem load_eq_invalid {items : List Json} (hfail : ∀ form, Form.load (.arr items) ≠ .ok form)
    (h : firstMisconfiguration? items = none) : Form.load (.arr items)
      = .error (.record (.invalid "FormSpec" (separateFaults [.key "elements"] items))) := by
  rw [firstMisconfiguration?_eq] at h
  rw [separateFaults_eq h, load_arr, readList]
  cases hread : readItems 0 items with
  | accepted es => exact absurd (load_eq_ok_iff.mpr hread) (hfail ⟨es⟩)
  | faulty faults => rfl
  | refused reason => exact absurd h (by rw [hread]; simp [refusal?])

section Containers

variable {items children : List Json} {address : List Nat} {place : List Step} {container : Json}
  {tag : Tag} {key : String}

theorem load_container_of_misconfigured (hchildren : ListsChildren container tag key children)
    {reason : Misconfiguration} (h : firstMisconfiguration? children = some reason) :
    loadAlone container = .error (.record (.misconfigured reason)) := by
  have hrefused := (readElement_container hchildren).refused reason
  rw [← firstMisconfiguration?_eq] at hrefused
  rw [loadAlone, load_eq_misconfigured_iff]
  exact (misconfiguration?_loadAlone container).trans (hrefused h)

/-- What stands below the key of the children of a container are their own faults. -/
theorem faultsBelow_children (hinside : Inside items address place container)
    (hchildren : ListsChildren container tag key children)
    (h : firstMisconfiguration? items = none) : firstMisconfiguration? children = none
      ∧ faultsBelow (place ++ [.key tag.name, .key key]) (loadFaults (Form.load (.arr items)))
        = separateFaults (place ++ [.key tag.name, .key key]) children := by
  rw [firstMisconfiguration?_eq] at h ⊢
  obtain ⟨hrefusal, hbelow⟩ := (readItems_inside hinside).1 h
  have hcontainer := readElement_container hchildren
  have hinner : (readItems 0 children).refusal? = none := by
    cases hreason : (readItems 0 children).refusal? with
    | none => rfl
    | some reason => exact absurd (hcontainer.refused reason hreason) (by simp [hrefusal])
  refine ⟨hinner, ?_⟩
  rw [loadFaults_load, separateFaults_eq hinner, ← faultsBelow_faultsBelow, hbelow,
    faultsBelow_within, hcontainer.faults hinner, List.map_map]
  refine List.map_congr_left fun f _ => ?_
  exact (within_append _ _ f).symm

end Containers

/-- **Loading is compositional.** A list of elements is loaded exactly if each element is loaded
alone, and then as these elements; it is misconfigured exactly as the first element that is
misconfigured alone; and in all other cases its faults are those of the elements alone, in order.
The same holds for the children of every container at any depth: a misconfiguration among them ends
the loading of the container, as the first of them would, and of the whole form; and as long as
nothing ends the loading, the faults of the form below the children's key are those of the children
alone, so that there are none exactly if each child is loaded alone, and a form that is loaded has
these children. -/
theorem load_composes (items : List Json) :
    (∀ form, Form.load (.arr items) = .ok form
        ↔ List.Forall₂ (fun x e => loadAlone x = .ok ⟨[e]⟩) items form.elements)
      ∧ (∀ reason, Form.load (.arr items) = .error (.record (.misconfigured reason))
        ↔ firstMisconfiguration? items = some reason)
      ∧ ((∀ form, Form.load (.arr items) ≠ .ok form) → firstMisconfiguration? items = none →
        Form.load (.arr items)
          = .error (.record (.invalid "FormSpec" (separateFaults [.key "elements"] items))))
      ∧ ∀ {address place container tag key children}, Inside items address place container →
        ListsChildren container tag key children →
          (∀ reason, firstMisconfiguration? children = some reason →
            loadAlone container = .error (.record (.misconfigured reason))
              ∧ ∃ first, Form.load (.arr items) = .error (.record (.misconfigured first)))
          ∧ (firstMisconfiguration? items = none →
            faultsBelow (place ++ [.key tag.name, .key key]) (loadFaults (Form.load (.arr items)))
                = separateFaults (place ++ [.key tag.name, .key key]) children
              ∧ (faultsBelow (place ++ [.key tag.name, .key key])
                  (loadFaults (Form.load (.arr items))) = []
                ↔ ∃ es, List.Forall₂ (fun x e => loadAlone x = .ok ⟨[e]⟩) children es))
          ∧ ∀ form, Form.load (.arr items) = .ok form →
            ∃ e, elementAt? form.elements address = some e
              ∧ List.Forall₂ (fun x e => loadAlone x = .ok ⟨[e]⟩) children e.inner := by
  refine ⟨fun form => ?_, fun reason => ?_, load_eq_invalid, ?_⟩
  · rw [load_eq_ok_iff, separately_iff]
  · rw [load_eq_misconfigured_iff, misconfiguration?_load, firstMisconfiguration?_eq]
  · intro address place container tag key children hinside hchildren
    refine ⟨fun reason hreason => ?_, fun hnone => ?_, fun form hform => ?_⟩
    · refine ⟨load_container_of_misconfigured hchildren hreason, ?_⟩
      cases hfirst : firstMisconfiguration? items with
      | none =>
        have hinner := (faultsBelow_children hinside hchildren hfirst).1
        exact absurd hreason (by simp [hinner])
      | some first =>
        rw [firstMisconfiguration?_eq, ← misconfiguration?_load] at hfirst
        exact ⟨first, load_eq_misconfigured_iff.mpr hfirst⟩
    · obtain ⟨hinner, hbelow⟩ := faultsBelow_children hinside hchildren hnone
      refine ⟨hbelow, ?_⟩
      rw [hbelow, exists_separately_iff]
      refine ⟨fun hnil => ⟨hinner, fun other => ?_⟩, fun h => h.2 _⟩
      -- whether children have faults does not depend on where they stand
      rw [firstMisconfiguration?_eq] at hinner
      rw [separateFaults_eq hinner, List.map_eq_nil_iff] at hnil ⊢
      exact hnil
    · obtain ⟨e, he, hread⟩ := (readItems_inside hinside).2 _ (load_eq_ok_iff.mp hform)
      exact ⟨e, he, separately_iff.mpr ((readElement_container hchildren).inner e hread)⟩

/-- A group without a label that holds an object with two broken fields: three faults in all. The
faults below the object are those of the fields alone. -/
theorem load_composes_nested :
    let broken : Json := .obj [("type", .str "field"), ("kind", .str "text")]
    let object : Json := .obj [("type", .str "field"), ("kind", .str "object"), ("name", .str "o"),
      ("properties", .arr [broken, broken])]
    let group : Json := .obj [("type", .str "group"), ("elements", .arr [object])]
    let place : List Step := [.key "elements", .index 0, .key "group", .key "elements", .index 0,
      .key "object", .key "properties"]
    let missing (i : Nat) : Fault := ⟨place ++ [.index i, .key "text", .key "name"], .missing⟩
    (loadFaults (Form.load (.arr [group]))).length = 3
      ∧ Form.load (.arr [group])
        = .error (.record (.invalid "FormSpec" (separateFaults [.key "elements"] [group])))
      ∧ faultsBelow place (loadFaults (Form.load (.arr [group]))) = [missing 0, missing 1]
      ∧ separateFaults place [broken, broken] = [missing 0, missing 1] := by
  intro broken object group place missing
  obtain ⟨-, -, hinvalid, hcontainer⟩ := load_composes [group]
  have hnone : firstMisconfiguration? [group] = none := by rfl
  have hcount : (loadFaults (Form.load (.arr [group]))).length = 3 := by rfl
  have hfail : ∀ form, Form.load (.arr [group]) ≠ .ok form := by
    intro form h
    rw [h] at hcount
    exact absurd hcount (by simp [loadFaults])
  have hgroup : Inside [group] [0] [.key "elements", .index 0] group := .item rfl
  have hgroupLists : ListsChildren group .group "elements" [object] := ⟨rfl, rfl, rfl⟩
  have hobjectLists : ListsChildren object (.field .object) "properties" [broken, broken] :=
    ⟨rfl, rfl, rfl⟩
  have hfirst : [object][0]? = some object := rfl
  have hobject := Inside.child hgroup hgroupLists hfirst
  have hbelow := ((hcontainer hobject hobjectLists).2.1 hnone).1
  have hseparate : separateFaults place [broken, broken] = [missing 0, missing 1] := by rfl
  exact ⟨hcount, hinvalid hfail hnone, hbelow.trans hseparate, hseparate⟩

end FormSchema
