import FormSchema.Entries
import Mathlib.Algebra.GroupWithZero.Nat
import Mathlib.Data.List.Induction
import Mathlib.Data.List.Nodup

/-!
# FormSchema — merging and grouping ordered entries

Two ways to collect entries give the same list: setting all of them one by one, and setting some
of them in a list of their own which is then merged. Names may repeat, within either part and
across both; the first place and the last value come out the same.

* **`merge_put`** — setting a name commutes with merging the list it is set in.
* **`merge_ofList`** — the transport: entries may be collected in a list of their own first.
* **`ofList_of_nodup`** — where no name repeats, nothing is lost and nothing moves.
* **`total_ofList_eq_iff`** — where a name repeats, something is lost.
* **`get?_ofList`** — what is found at a name is the last value given for it.
* **`group_eq`** — grouping by name lists the distinct names at their first occurrence, each with
  all its values in order.
-/

namespace FormSchema

/-! ## First occurrences -/

section FirstOccurrences

variable {α : Type} [DecidableEq α]

theorem firstOccurrences_concat (xs : List α) (x : α) :
    firstOccurrences (xs ++ [x])
      = if x ∈ firstOccurrences xs then firstOccurrences xs else firstOccurrences xs ++ [x] := by
  rw [firstOccurrences, List.foldl_append]
  rfl

@[simp] theorem mem_firstOccurrences {xs : List α} {x : α} : x ∈ firstOccurrences xs ↔ x ∈ xs := by
  induction xs using List.reverseRecOn with
  | nil => rfl
  | append_singleton xs y ih =>
    rw [firstOccurrences_concat]
    by_cases hy : y ∈ firstOccurrences xs
    · rw [if_pos hy, ih, List.mem_append, List.mem_singleton]
      constructor
      · exact Or.inl
      · rintro (hx | rfl)
        · exact hx
        · exact ih.mp hy
    · rw [if_neg hy, List.mem_append, List.mem_append, ih]

theorem isEmpty_firstOccurrences (xs : List α) : (firstOccurrences xs).isEmpty = xs.isEmpty := by
  rw [Bool.eq_iff_iff, List.isEmpty_iff, List.isEmpty_iff, List.eq_nil_iff_forall_not_mem,
    List.eq_nil_iff_forall_not_mem]
  simp only [mem_firstOccurrences]

theorem nodup_firstOccurrences (xs : List α) : (firstOccurrences xs).Nodup := by
  induction xs using List.reverseRecOn with
  | nil => exact List.nodup_nil
  | append_singleton xs y ih =>
    rw [firstOccurrences_concat]
    split
    · exact ih
    · next hy =>
      rw [← List.concat_eq_append]
      exact ih.concat hy

/-- First occurrences are listed in the order of their places. Induction from the end: a value that is
new has its place behind all values that are not. -/
theorem pairwise_idxOf_firstOccurrences (xs : List α) :
    (firstOccurrences xs).Pairwise fun x y => xs.idxOf x < xs.idxOf y := by
  induction xs using List.reverseRecOn with
  | nil => exact List.Pairwise.nil
  | append_singleton xs z ih =>
    have hkept : (firstOccurrences xs).Pairwise
        fun x y => (xs ++ [z]).idxOf x < (xs ++ [z]).idxOf y := by
      refine ih.imp_of_mem ?_
      intro x y hx hy hlt
      rw [mem_firstOccurrences] at hx hy
      rwa [List.idxOf_append_of_mem hx, List.idxOf_append_of_mem hy]
    rw [firstOccurrences_concat]
    split
    · exact hkept
    · next hz =>
      rw [mem_firstOccurrences] at hz
      refine List.pairwise_append.mpr ⟨hkept, List.pairwise_singleton _ _, ?_⟩
      intro x hx y hy
      rw [mem_firstOccurrences] at hx
      rw [List.mem_singleton] at hy
      subst hy
      rw [List.idxOf_append_of_mem hx, List.idxOf_append_of_notMem hz]
      have hlt := List.idxOf_lt_length_of_mem hx
      omega

/-- Different values stay different under an injective function, so their first occurrences are at
the same places. -/
theorem firstOccurrences_map {β : Type} [DecidableEq β] {f : α → β} (hf : Function.Injective f)
    (xs : List α) : firstOccurrences (xs.map f) = (firstOccurrences xs).map f := by
  induction xs using List.reverseRecOn with
  | nil => rfl
  | append_singleton xs x ih =>
    rw [List.map_append, List.map_singleton, firstOccurrences_concat, firstOccurrences_concat, ih]
    by_cases hx : x ∈ firstOccurrences xs
    · rw [if_pos hx, if_pos (List.mem_map_of_mem hx)]
    · have hfx : f x ∉ (firstOccurrences xs).map f := by
        rwa [List.mem_map_of_injective hf]
      rw [if_neg hx, if_neg hfx, List.map_append, List.map_singleton]

end FirstOccurrences

namespace Entries

variable {α : Type}

/-! ## Looking names up -/

theorem names_map {β : Type} (name : β → String) (value : β → α) (xs : List β) :
    names (xs.map fun x => (name x, value x)) = xs.map name := by
  rw [names, List.map_map]
  rfl

theorem mem_of_get? {es : Entries α} {name : String} {value : α}
    (h : get? es name = some value) : (name, value) ∈ es := by
  induction es with
  | nil => simp [get?] at h
  | cons e es ih =>
    obtain ⟨n, v⟩ := e
    rw [get?_cons] at h
    by_cases hn : name = n
    · rw [if_pos hn, Option.some.injEq] at h
      rw [hn, h]
      exact List.mem_cons_self
    · rw [if_neg hn] at h
      exact List.mem_cons_of_mem _ (ih h)

theorem mem_names_iff {es : Entries α} {name : String} :
    name ∈ names es ↔ ∃ v, get? es name = some v := by
  induction es with
  | nil => simp [get?]
  | cons e es ih =>
    obtain ⟨n, w⟩ := e
    rw [names_cons, get?_cons, List.mem_cons]
    by_cases hn : name = n
    · simp [hn]
    · simp [hn, ih]

/-- Converting all values leaves them under their names. -/
theorem get?_mapValues {β : Type} (f : α → β) (es : Entries α) (name : String) :
    get? (es.map fun e => (e.1, f e.2)) name = (get? es name).map f := by
  induction es with
  | nil => rfl
  | cons e es ih =>
    rw [List.map_cons, get?_cons, get?_cons, ih]
    split <;> rfl

/-- A name is looked up in the first part, and then in the second. -/
theorem get?_append (es more : Entries α) (name : String) :
    get? (es ++ more) name = (get? es name).or (get? more name) := by
  induction es with
  | nil => rfl
  | cons e es ih =>
    obtain ⟨n, v⟩ := e
    rw [List.cons_append, get?_cons, get?_cons, ih]
    split <;> rfl

/-- Where no name is repeated the order of entries does not matter to a look-up. -/
theorem get?_eq_of_perm {es es' : Entries α} (h : es.Perm es') (hnames : (names es).Nodup)
    (name : String) : get? es name = get? es' name := by
  induction h with
  | nil => rfl
  | cons e _ ih =>
    rw [names_cons, List.nodup_cons] at hnames
    rw [get?_cons, get?_cons, ih hnames.2]
  | swap e e' es =>
    rw [get?_cons, get?_cons, get?_cons, get?_cons]
    by_cases he : name = e.1
    · have hne : name ≠ e'.1 := by
        intro he'
        rw [names_cons, names_cons, ← he', ← he, List.nodup_cons] at hnames
        exact hnames.1 List.mem_cons_self
      rw [if_pos he, if_neg hne, if_pos he]
    · rw [if_neg he, if_neg he]
  | trans h _ ih ih' => exact (ih hnames).trans (ih' ((h.map _).nodup_iff.mp hnames))

/-! ## Setting names -/

/-- A new name goes to the end. -/
theorem put_of_not_mem {es : Entries α} {name : String} (h : name ∉ names es) (value : α) :
    put es name value = es ++ [(name, value)] := by
  induction es with
  | nil => rfl
  | cons e es ih =>
    obtain ⟨n, v⟩ := e
    simp only [names_cons, List.mem_cons, not_or] at h
    have hn : ¬ n = name := fun heq => h.1 heq.symm
    rw [put, if_neg hn, ih h.2, List.cons_append]

/-- Of two values set at one name the second stays. -/
theorem put_put (es : Entries α) (name : String) (v w : α) :
    put (put es name v) name w = put es name w := by
  induction es with
  | nil => simp [put]
  | cons e es ih =>
    obtain ⟨n, u⟩ := e
    by_cases hn : n = name
    · simp [put, hn]
    · simp [put, hn, ih]

/-- The order in which two names are set does not matter once the first of them has a place. -/
theorem put_comm {es : Entries α} {name other : String} (hmem : name ∈ names es)
    (hne : name ≠ other) (v w : α) :
    put (put es other w) name v = put (put es name v) other w := by
  induction es with
  | nil => simp at hmem
  | cons e es ih =>
    obtain ⟨n, u⟩ := e
    by_cases hn : n = name
    · subst hn
      simp [put, hne]
    · have hes : name ∈ names es := by
        simpa [Ne.symm hn] using hmem
      by_cases ho : n = other
      · subst ho
        simp [put, hn]
      · simp [put, hn, ho, ih hes]

theorem mem_names_put_self (es : Entries α) (name : String) (value : α) :
    name ∈ names (put es name value) := by
  rw [names_put]
  split
  · assumption
  · simp

theorem nodup_names_put {es : Entries α} (h : (names es).Nodup) (name : String) (value : α) :
    (names (put es name value)).Nodup := by
  rw [names_put]
  split
  · exact h
  · next hmem =>
    rw [List.nodup_append]
    refine ⟨h, List.nodup_singleton name, ?_⟩
    intro a ha b hb
    rw [List.mem_singleton] at hb
    subst hb
    exact fun heq => hmem (heq ▸ ha)

/-! ## Merging -/

theorem nodup_names_merge {es : Entries α} (h : (names es).Nodup) (more : Entries α) :
    (names (merge es more)).Nodup := by
  induction more generalizing es with
  | nil => exact h
  | cons e more ih =>
    rw [merge_cons]
    exact ih (nodup_names_put h e.1 e.2)

/-- A list collected from nothing names nothing twice. -/
theorem nodup_names_ofList (pairs : List (String × α)) : (names (ofList pairs)).Nodup := by
  have hempty : (names ([] : Entries α)).Nodup := List.nodup_nil
  exact nodup_names_merge hempty pairs

/-- A value set before entries of other names are merged may be set after them. -/
theorem put_merge_of_not_mem {es more : Entries α} {name : String} (hmem : name ∈ names es)
    (hmore : name ∉ names more) (value : α) :
    put (merge es more) name value = merge (put es name value) more := by
  induction more generalizing es with
  | nil => rfl
  | cons e more ih =>
    simp only [names_cons, List.mem_cons, not_or] at hmore
    have hplace : name ∈ names (put es e.1 e.2) := by
      rw [names_put]
      split
      · exact hmem
      · exact List.mem_append_left _ hmem
    rw [merge_cons, merge_cons, ih hplace hmore.2, put_comm hmem hmore.1]

/-- Setting a name in a list and merging the list, or merging the list and setting the name. -/
theorem merge_put {more : Entries α} (hmore : (names more).Nodup) (es : Entries α) (name : String)
    (value : α) : merge es (put more name value) = put (merge es more) name value := by
  induction more generalizing es with
  | nil => rfl
  | cons e more ih =>
    obtain ⟨n, v⟩ := e
    rw [names_cons, List.nodup_cons] at hmore
    by_cases hn : n = name
    · -- the name has its place before the rest of the list, which does not name it again
      subst hn
      have hplace : n ∈ names (put es n v) := mem_names_put_self es n v
      rw [put, if_pos rfl, merge_cons, merge_cons,
        put_merge_of_not_mem hplace hmore.1, put_put]
    · rw [put, if_neg hn, merge_cons, merge_cons, ih hmore.2]

theorem ofList_concat (pairs : List (String × α)) (e : String × α) :
    ofList (pairs ++ [e]) = put (ofList pairs) e.1 e.2 := by
  rw [ofList, merge_append]
  rfl

/-- **Collecting apart.** Entries may be collected in a list of their own before they are merged,
whatever names they repeat. -/
theorem merge_ofList (es : Entries α) (pairs : List (String × α)) :
    merge es (ofList pairs) = merge es pairs := by
  induction pairs using List.reverseRecOn with
  | nil => rfl
  | append_singleton pairs e ih =>
    rw [ofList_concat, merge_put (nodup_names_ofList pairs), ih, merge_append]
    rfl

theorem mem_of_mem_put {es : Entries α} {name : String} {value : α} {e : String × α}
    (h : e ∈ put es name value) : e = (name, value) ∨ e ∈ es := by
  induction es with
  | nil => exact .inl (List.mem_singleton.mp h)
  | cons first es ih =>
    obtain ⟨n, v⟩ := first
    rw [put] at h
    by_cases hn : n = name
    · rw [if_pos hn, List.mem_cons, hn] at h
      exact h.imp_right (List.mem_cons_of_mem _)
    · rw [if_neg hn, List.mem_cons] at h
      rcases h with rfl | h
      · exact .inr List.mem_cons_self
      · exact (ih h).imp_right (List.mem_cons_of_mem _)

/-- Nothing is collected that is not there. -/
theorem mem_of_mem_ofList {pairs : List (String × α)} {e : String × α} (h : e ∈ ofList pairs) :
    e ∈ pairs := by
  induction pairs using List.reverseRecOn with
  | nil => exact h
  | append_singleton pairs last ih =>
    rw [ofList_concat] at h
    rcases mem_of_mem_put h with rfl | h
    · exact List.mem_append_right _ (List.mem_singleton_self _)
    · exact List.mem_append_left _ (ih h)

/-- Names are collected in order of first occurrence. -/
theorem names_ofList (pairs : List (String × α)) :
    names (ofList pairs) = firstOccurrences (names pairs) := by
  induction pairs using List.reverseRecOn with
  | nil => rfl
  | append_singleton pairs e ih =>
    have hnames : names (pairs ++ [e]) = names pairs ++ [e.1] := by simp [names]
    rw [ofList_concat, names_put, hnames, firstOccurrences_concat, ih]

/-! ## Lists without repeated names -/

theorem merge_of_nodup {es more : Entries α} (h : (names (es ++ more)).Nodup) :
    merge es more = es ++ more := by
  induction more generalizing es with
  | nil => simp
  | cons e more ih =>
    have hsplit : es ++ e :: more = (es ++ [e]) ++ more := by simp
    have hnew : e.1 ∉ names es := by
      intro hmem
      simp only [names, List.map_append, List.map_cons] at h
      exact (List.nodup_append.mp h).2.2 e.1 hmem e.1 (by simp) rfl
    rw [merge_cons, put_of_not_mem hnew, ih (hsplit ▸ h), hsplit]

/-- Entries whose names are all different are collected as they are. -/
theorem ofList_of_nodup {pairs : List (String × α)} (h : (names pairs).Nodup) :
    ofList pairs = pairs := by
  have happend : (names ([] ++ pairs)).Nodup := h
  exact merge_of_nodup happend

/-! ## Sums over entries -/

section Sums

variable (w : α → Nat)

/-- The values of all entries, weighed and summed up. -/
def total (es : Entries α) : Nat := (es.map fun e => w e.2).sum

@[simp] theorem total_nil : total w [] = 0 := rfl

@[simp] theorem total_cons (e : String × α) (es : Entries α) :
    total w (e :: es) = w e.2 + total w es := by
  simp [total]

theorem total_put_of_not_mem {es : Entries α} {name : String} (h : name ∉ names es) (value : α) :
    total w (put es name value) = total w es + w value := by
  rw [put_of_not_mem h]
  simp [total]

/-- A value that is replaced weighs no longer. -/
theorem total_put_lt {es : Entries α} {name : String} (hw : ∀ a, 0 < w a) (h : name ∈ names es)
    (value : α) : total w (put es name value) < total w es + w value := by
  induction es with
  | nil => simp at h
  | cons e es ih =>
    obtain ⟨n, v⟩ := e
    by_cases hn : n = name
    · have hv := hw v
      rw [put, if_pos hn, total_cons, total_cons]
      simp only
      omega
    · have hes : name ∈ names es := by simpa [Ne.symm hn] using h
      have hlt := ih hes
      rw [put, if_neg hn, total_cons, total_cons]
      omega

/-- Merging loses weight unless all names are new. Induction on the entries that are merged, which
meet those that were set before them. -/
theorem total_merge (hw : ∀ a, 0 < w a) (es more : Entries α) :
    total w (merge es more) ≤ total w es + total w more
      ∧ (total w (merge es more) = total w es + total w more
        ↔ (names more).Nodup ∧ ∀ name ∈ names more, name ∉ names es) := by
  induction more generalizing es with
  | nil => simp
  | cons e more ih =>
    obtain ⟨hle, heq⟩ := ih (put es e.1 e.2)
    rw [merge_cons, total_cons, names_cons, List.nodup_cons]
    by_cases hmem : e.1 ∈ names es
    · -- the first entry is in place already, and its old value is lost
      have hlt := total_put_lt w hw hmem e.2
      refine ⟨by omega, ?_⟩
      constructor
      · intro h
        omega
      · rintro ⟨_, hnew⟩
        exact absurd hmem (hnew e.1 List.mem_cons_self)
    · rw [total_put_of_not_mem w hmem] at hle heq
      rw [names_put, if_neg hmem] at heq
      refine ⟨by omega, ?_⟩
      rw [← Nat.add_assoc, heq]
      constructor
      · rintro ⟨hnodup, hnew⟩
        refine ⟨⟨?_, hnodup⟩, ?_⟩
        · intro hrest
          exact hnew e.1 hrest (by simp)
        · intro name hname
          rcases List.mem_cons.mp hname with rfl | hname
          · exact hmem
          · exact fun h => hnew name hname (List.mem_append_left _ h)
      · rintro ⟨⟨hfirst, hnodup⟩, hnew⟩
        refine ⟨hnodup, ?_⟩
        intro name hname h
        rcases List.mem_append.mp h with h | h
        · exact hnew name (List.mem_cons_of_mem _ hname) h
        · rw [List.mem_singleton] at h
          exact hfirst (h ▸ hname)

theorem total_ofList_le (hw : ∀ a, 0 < w a) (pairs : List (String × α)) :
    total w (ofList pairs) ≤ total w pairs := by
  have hle := (total_merge w hw [] pairs).1
  simpa [ofList] using hle

/-- **Collecting loses weight exactly if a name is repeated.** -/
theorem total_ofList_eq_iff (hw : ∀ a, 0 < w a) (pairs : List (String × α)) :
    total w (ofList pairs) = total w pairs ↔ (names pairs).Nodup := by
  have heq := (total_merge w hw [] pairs).2
  simpa [ofList] using heq

end Sums

/-! ## Grouping by name -/

/-- Setting a name in a list that is written down name by name. -/
theorem put_map_of_mem {ns : List String} (hns : ns.Nodup) {name : String} (hmem : name ∈ ns)
    (values : String → α) (value : α) :
    put (ns.map fun n => (n, values n)) name value
      = ns.map fun n => (n, if n = name then value else values n) := by
  induction ns with
  | nil => simp at hmem
  | cons n ns ih =>
    rw [List.nodup_cons] at hns
    by_cases hn : n = name
    · subst hn
      have hrest : ∀ m ∈ ns, (m, values m) = (m, if m = n then value else values m) := by
        intro m hm
        have hne : m ≠ n := fun heq => hns.1 (heq ▸ hm)
        rw [if_neg hne]
      simp [put, List.map_congr_left hrest]
    · have hns' : name ∈ ns := by simpa [Ne.symm hn] using hmem
      simp [put, hn, ih hns.2 hns']

theorem get?_map (ns : List String) (values : String → α) (name : String) :
    get? (ns.map fun n => (n, values n)) name = if name ∈ ns then some (values name) else none := by
  induction ns with
  | nil => rfl
  | cons n ns ih =>
    rw [List.map_cons, get?_cons, ih]
    by_cases hn : name = n
    · simp [hn]
    · simp [hn]

/-- The values given for a name, in order. -/
def valuesAt (pairs : List (String × α)) (name : String) : List α :=
  (pairs.filter fun pair => pair.1 = name).map (·.2)

theorem valuesAt_concat (pairs : List (String × α)) (pair : String × α) (name : String) :
    valuesAt (pairs ++ [pair]) name
      = if name = pair.1 then valuesAt pairs name ++ [pair.2] else valuesAt pairs name := by
  by_cases h : pair.1 = name
  · simp [valuesAt, h]
  · simp [valuesAt, h, Ne.symm h]

theorem valuesAt_of_not_mem {pairs : List (String × α)} {name : String}
    (h : name ∉ pairs.map (·.1)) : valuesAt pairs name = [] := by
  rw [valuesAt, List.map_eq_nil_iff, List.filter_eq_nil_iff]
  intro pair hpair hname
  exact h (List.mem_map.mpr ⟨pair, hpair, by simpa using hname⟩)

theorem length_valuesAt (pairs : List (String × α)) (name : String) :
    (valuesAt pairs name).length = (pairs.map (·.1)).count name := by
  induction pairs with
  | nil => rfl
  | cons pair pairs ih =>
    rw [valuesAt, List.length_map] at ih ⊢
    by_cases h : pair.1 = name
    · simp [h, ih]
    · simp [h, ih]

/-- **The last value stays** of those set at one name. -/
theorem get?_ofList (pairs : List (String × α)) (name : String) :
    get? (ofList pairs) name = (valuesAt pairs name).getLast? := by
  induction pairs using List.reverseRecOn with
  | nil => rfl
  | append_singleton pairs pair ih =>
    rw [ofList_concat, get?_put, valuesAt_concat, ih]
    split
    · rw [List.getLast?_concat]
    · rfl

/-- Of entries that are made from a list, each under a name of its own, those of the list are
found. -/
theorem get?_ofList_map {β : Type} [DecidableEq β] {name : β → String}
    (hname : Function.Injective name) (value : β → α) (xs : List β) (x : β) :
    get? (ofList (xs.map fun y => (name y, value y))) (name x)
      = if x ∈ xs then some (value x) else none := by
  induction xs using List.reverseRecOn with
  | nil => rfl
  | append_singleton xs y ih =>
    rw [List.map_append, List.map_singleton, ofList_concat, get?_put, ih]
    by_cases h : x = y
    · simp [h]
    · have hne : name x ≠ name y := fun heq => h (hname heq)
      simp [h, hne]

theorem get?_ofList_of_not_mem {pairs : List (String × α)} {name : String}
    (h : name ∉ pairs.map (·.1)) : get? (ofList pairs) name = none := by
  rw [get?_ofList, valuesAt_of_not_mem h]
  rfl

/-- **Grouping keeps every value**, under its name and in order. Induction from the end, which is
where a value is pushed. -/
theorem group_eq (pairs : List (String × α)) :
    group pairs = (firstOccurrences (pairs.map (·.1))).map fun n => (n, valuesAt pairs n) := by
  induction pairs using List.reverseRecOn with
  | nil => rfl
  | append_singleton pairs pair ih =>
    have hpush : group (pairs ++ [pair]) = (group pairs).push pair.1 pair.2 := by
      simp [group, List.foldl_append]
    rw [hpush, ih, push, get?_map, List.map_append, List.map_cons, List.map_nil,
      firstOccurrences_concat]
    by_cases hmem : pair.1 ∈ firstOccurrences (pairs.map (·.1))
    · -- a known name: its values grow in place
      rw [if_pos hmem, if_pos hmem, Option.getD_some,
        put_map_of_mem (nodup_firstOccurrences _) hmem]
      apply List.map_congr_left
      intro n _
      rw [valuesAt_concat]
      by_cases hn : n = pair.1 <;> simp [hn]
    · -- a new name: it comes last, with its first value
      have hnew : pair.1 ∉ names
          ((firstOccurrences (pairs.map (·.1))).map fun n => (n, valuesAt pairs n)) := by
        simpa [names] using hmem
      have hnone : valuesAt pairs pair.1 = [] :=
        valuesAt_of_not_mem (fun h => hmem (mem_firstOccurrences.mpr h))
      rw [if_neg hmem, if_neg hmem, put_of_not_mem hnew, List.map_append, List.map_cons,
        List.map_nil, valuesAt_concat, if_pos rfl, hnone]
      congr 1
      apply List.map_congr_left
      intro n hn
      have hne : n ≠ pair.1 := fun heq => hmem (heq ▸ hn)
      rw [valuesAt_concat, if_neg hne]

end Entries

end FormSchema
