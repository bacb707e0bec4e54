import FormSchema.Proofs.Form.Places
import FormSchema.Proofs.Partitions
import FormSchema.Proofs.Strict.Structure

/-!
# FormSchema — scopes are kept apart

Paths are for messages and say nothing about identity: an array `a` and an object `a[]` open scopes
of one path, and so do two objects of one name. What tells scopes apart are their addresses, which
are those of different nodes.

* **`nodup_addresses_scopes`** — no two scopes of a resolution have one address, since the walk of
  a tree comes by every node once.
* **`ScopesApart`** — what scopes that are kept apart amount to: the fields are dealt out to them.
* **`NamesScopes`** — a table of names that has a row for each scope, and the names of its fields
  there; by `Strict.nameTable_eq` entering all fields one by one gives such a table.
* **`scopes_kept_apart`** — the statement about whole forms.
-/

namespace FormSchema

/-! ## Addresses of scopes -/

/-- The scopes that nodes open have the addresses of these nodes. -/
theorem addresses_openedScopes (ns : List TreeNode) :
    (ns.filterMap TreeNode.openedScope?).map (·.address)
      = (ns.filter fun n => n.element.opensScope).map (·.address) := by
  induction ns with
  | nil => rfl
  | cons n ns ih =>
    cases hopens : n.element.opensScope with
    | true =>
      have hscope : n.openedScope? = some
          ⟨n.address, joinSegments (Trail.segments (n.above ++ [(n.address, n.element)]))⟩ :=
        if_pos hopens
      rw [List.filterMap_cons, hscope, List.filter_cons, if_pos hopens, List.map_cons, ih,
        List.map_cons]
    | false =>
      have hscope : n.openedScope? = none := if_neg (by simp [hopens])
      rw [List.filterMap_cons, hscope, List.filter_cons, if_neg (by simp [hopens]), ih]

theorem nodup_addresses_nodes (es : List Element) : ((nodes es).map (·.address)).Nodup :=
  (listsTree_nodes es).increasing.imp fun hlt => ne_of_lt hlt

theorem address_ne_nil_of_mem_nodes {es : List Element} {n : TreeNode} (h : n ∈ nodes es) :
    n.address ≠ [] :=
  ne_nil_of_elementAt? (((listsTree_nodes es).mem_iff n).mp h).1

theorem isRoot_of_mem_openedScopes {es : List Element} {s : Scope}
    (h : s ∈ (nodes es).filterMap TreeNode.openedScope?) : s.isRoot = false := by
  have haddress : s.address ∈ ((nodes es).filter fun n => n.element.opensScope).map (·.address) := by
    rw [← addresses_openedScopes]
    exact List.mem_map_of_mem h
  obtain ⟨n, hn, heq⟩ := List.mem_map.mp haddress
  have hne : s.address ≠ [] := heq ▸ address_ne_nil_of_mem_nodes (List.mem_filter.mp hn).1
  rw [Scope.isRoot, List.isEmpty_eq_false_iff]
  exact hne

/-- **No two scopes have one address.** -/
theorem nodup_addresses_scopes (es : List Element) :
    ((resolve es).scopes.map (·.address)).Nodup := by
  rw [scopes_resolve, List.map_cons, List.nodup_cons]
  constructor
  · intro hroot
    obtain ⟨s, hs, hempty⟩ := List.mem_map.mp hroot
    have hnested := isRoot_of_mem_openedScopes hs
    rw [Scope.isRoot, hempty] at hnested
    cases hnested
  · rw [addresses_openedScopes]
    exact (nodup_addresses_nodes es).sublist (List.filter_sublist.map _)

/-! ## Whole forms -/

/-- `ScopesApart r`: the scopes of a resolution have different addresses, and the first one and no
other is the form's own. Each field and each conditional is in a listed scope, and the fields are
dealt out to the scopes, with their order. -/
structure ScopesApart (r : Resolution) : Prop where
  addresses : (r.scopes.map (·.address)).Nodup
  root : ∃ opened, r.scopes = .root :: opened ∧ ∀ s ∈ opened, s.isRoot = false
  listed : Strict.Listed r
  partition : Partitions (r.scopes.map r.fieldsIn) r.fields

/-- `NamesScopes r table`: the keys of the table are the scopes of the resolution, and looking one
up finds the names of its fields, each once. -/
structure NamesScopes (r : Resolution) (table : Strict.NameTable) : Prop where
  keys : table.map (·.1) = r.scopes
  names : ∀ s ∈ r.scopes, ∃ names, table.names s = .ok names ∧ names.Nodup
    ∧ ∀ name, name ∈ names ↔ ∃ p ∈ r.fieldsIn s, p.field.name = name

theorem scopesApart_resolve (es : List Element) : ScopesApart (resolve es) := by
  have hnodup := nodup_addresses_scopes es
  have hlisted := Strict.listed_resolve es
  refine ⟨hnodup, ?_, hlisted, ?_⟩
  · exact ⟨_, scopes_resolve es, fun s hs => isRoot_of_mem_openedScopes hs⟩
  · exact partitions_filter hnodup.of_map hlisted.fields

theorem namesScopes_namesByScope (r : Resolution) : NamesScopes r r.namesByScope := by
  refine ⟨?_, ?_⟩
  · rw [Resolution.namesByScope, List.map_map]
    exact List.map_id _
  · intro s hs
    refine ⟨r.namesIn s, Strict.names_namesByScope hs, nodup_firstOccurrences _, ?_⟩
    intro name
    rw [Resolution.namesIn, mem_firstOccurrences, List.mem_map]

/-- **Scopes are kept apart.** In the resolution of a form no two scopes have one address, whatever
their names and paths, only the first is the form's own, and every field is in exactly one of them.
The table of names that is filled field by field has a row for each scope, so no look-up of the
structure check fails. -/
theorem scopes_kept_apart (form : Form) :
    ScopesApart (resolve form.elements)
      ∧ (∃ table, Strict.nameTable (resolve form.elements) = .ok table
        ∧ table = (resolve form.elements).namesByScope
        ∧ NamesScopes (resolve form.elements) table
        ∧ ∀ c ∈ (resolve form.elements).conditionals, ∃ names, table.names c.scope = .ok names)
      ∧ Strict.checkStructure form = .ok form.checkStructure := by
  have hlisted := Strict.listed_resolve form.elements
  refine ⟨scopesApart_resolve form.elements, ?_, Strict.checkStructure_eq form⟩
  refine ⟨_, Strict.nameTable_eq hlisted, rfl, namesScopes_namesByScope _, ?_⟩
  intro c hc
  exact ⟨_, Strict.names_namesByScope (hlisted.conditionals c hc)⟩

/-- An array and two objects whose scopes have one path, with a test in the last of them. -/
theorem scopes_kept_apart_same_path :
    let x : Element := .leaf ⟨"x", none, false⟩ .boolean
    let rows : Element := .array ⟨"a", none, false⟩ ⟨none, none⟩ [x]
    let box : List Element → Element := .object ⟨"a[]", none, false⟩
    let form : Form := ⟨[rows, box [x], box [.group "G" [.conditional ⟨"x", .null⟩ [x]]]]⟩
    let r : Resolution := resolve form.elements
    r.scopes = [.root, ⟨[0], "a[]"⟩, ⟨[1], "a[]"⟩, ⟨[2], "a[]"⟩]
      ∧ Partitions [r.fieldsIn .root, r.fieldsIn ⟨[0], "a[]"⟩, r.fieldsIn ⟨[1], "a[]"⟩,
        r.fieldsIn ⟨[2], "a[]"⟩] r.fields
      ∧ ∃ c ∈ r.conditionals, c.scope = ⟨[2], "a[]"⟩
        ∧ ∃ names, Strict.NameTable.names r.namesByScope c.scope = .ok names := by
  intro x rows box form r
  obtain ⟨hapart, ⟨table, _, htable, _, hfound⟩, _⟩ := scopes_kept_apart form
  have hscopes : r.scopes = [.root, ⟨[0], "a[]"⟩, ⟨[1], "a[]"⟩, ⟨[2], "a[]"⟩] := rfl
  refine ⟨hscopes, hapart.partition, ?_⟩
  rw [htable] at hfound
  have hmem : (⟨⟨"x", .null⟩, [x], ⟨[2], "a[]"⟩, [], "a[].[G].when(x)"⟩ : ConditionalPlacement)
      ∈ r.conditionals := List.mem_singleton_self _
  exact ⟨_, hmem, rfl, hfound _ hmem⟩

end FormSchema
