import FormSchema.Form.Scope
import Mathlib.Data.List.DropRight
import Mathlib.Data.List.Lex

/-!
# FormSchema — the tree of a form

The nodes of a form, told apart by the child indices that lead to them. Arrays, objects, groups and
conditionals are all nodes with children here; what a walk has to keep track of on its way to a node
is read off the nodes above it.

* **`elementAt?`** — the element at an address. **`ancestors`** — the elements at the addresses
  above one, which are its shorter prefixes, outermost first.
* **`nodes`** — all nodes in one walk, each with its ancestors.
* **`ListsTree`** — what it means to list the nodes of a tree once each and in pre-order: the nodes
  are those that addresses lead to, and the addresses increase.
* **`tree_induction`** — induction over siblings, with the induction hypothesis for the children of
  the first and for the rest.
* **`listsTree_nodes`** — the walk lists the tree.
-/

namespace FormSchema

/-! ## Addresses -/

/-- The elements directly inside an element. -/
def Element.inner : Element → List Element
  | .leaf _ _ => []
  | .array _ _ items => items
  | .object _ properties => properties
  | .group _ elements => elements
  | .conditional _ elements => elements

theorem inner_toElement (f : Field) : f.toElement.inner = f.children := by
  obtain ⟨head, body⟩ := f
  cases body <;> rfl

/-- The element that child indices lead to from an element. -/
def Element.at? (e : Element) : List Nat → Option Element
  | [] => some e
  | i :: rest => e.inner[i]?.bind fun child => child.at? rest

/-- The element at an address, which starts with the index of a sibling. -/
def elementAt? (es : List Element) : List Nat → Option Element
  | [] => none
  | i :: rest => es[i]?.bind fun e => e.at? rest

/-- Elements one inside the other, outermost first, each with its address. -/
abbrev Trail := List (List Nat × Element)

/-- The elements strictly above an address: those at its shorter prefixes. -/
def ancestors (es : List Element) (address : List Nat) : Trail :=
  (List.range address.length).filterMap fun k =>
    (elementAt? es (address.take k)).map fun e => (address.take k, e)

theorem Element.at?_append (e : Element) (a b : List Nat) :
    e.at? (a ++ b) = (e.at? a).bind fun inner => inner.at? b := by
  induction a generalizing e with
  | nil => rfl
  | cons i rest ih =>
    rw [List.cons_append, Element.at?, Element.at?]
    cases e.inner[i]? with
    | none => rfl
    | some child => exact ih child

theorem elementAt?_singleton (es : List Element) (i : Nat) : elementAt? es [i] = es[i]? := by
  show (es[i]?.bind fun e => some e) = es[i]?
  cases es[i]? <;> rfl

theorem ne_nil_of_elementAt? {es : List Element} {a : List Nat} {e : Element}
    (h : elementAt? es a = some e) : a ≠ [] := by
  rintro rfl
  cases h

/-- An address goes on inside the element that it leads to. -/
theorem elementAt?_append {es : List Element} {a b : List Nat} {e : Element}
    (h : elementAt? es a = some e) (hb : b ≠ []) :
    elementAt? es (a ++ b) = elementAt? e.inner b := by
  cases a with
  | nil => cases h
  | cons i rest =>
    obtain ⟨top, htop, hrest⟩ := Option.bind_eq_some_iff.mp h
    rw [List.cons_append, elementAt?, htop, Option.bind_some, Element.at?_append, hrest,
      Option.bind_some]
    cases b with
    | nil => exact absurd rfl hb
    | cons j more => rfl

/-- A child of the element at an address. -/
theorem elementAt?_concat {es : List Element} {a : List Nat} {e : Element}
    (h : elementAt? es a = some e) (i : Nat) : elementAt? es (a ++ [i]) = e.inner[i]? := by
  rw [elementAt?_append h (by simp), elementAt?_singleton]

theorem ancestors_singleton (es : List Element) (i : Nat) : ancestors es [i] = [] := rfl

/-- Above a child there are the element itself and what is above it. -/
theorem ancestors_concat {es : List Element} {a : List Nat} {e : Element}
    (h : elementAt? es a = some e) (i : Nat) :
    ancestors es (a ++ [i]) = ancestors es a ++ [(a, e)] := by
  have hshorter : ∀ k ∈ List.range a.length, (a ++ [i]).take k = a.take k := by
    intro k hk
    have hlt : k < a.length := List.mem_range.mp hk
    exact List.take_append_of_le_length (by omega)
  have hlast : (a ++ [i]).take a.length = a := by
    rw [List.take_append_of_le_length (Nat.le_refl _), List.take_length]
  unfold ancestors
  rw [List.length_append, List.length_singleton, List.range_succ, List.filterMap_append]
  have habove : (List.range a.length).filterMap (fun k =>
        (elementAt? es ((a ++ [i]).take k)).map fun e => ((a ++ [i]).take k, e))
      = (List.range a.length).filterMap fun k =>
        (elementAt? es (a.take k)).map fun e => (a.take k, e) := by
    apply List.filterMap_congr
    intro k hk
    rw [hshorter k hk]
  rw [habove, List.filterMap_cons, hlast, h]
  rfl

theorem elementAt?_of_mem_ancestors {es : List Element} {a b : List Nat} {e : Element}
    (h : (b, e) ∈ ancestors es a) : elementAt? es b = some e := by
  obtain ⟨k, _, hk⟩ := List.mem_filterMap.mp h
  obtain ⟨found, hfound, heq⟩ := Option.map_eq_some_iff.mp hk
  cases heq
  exact hfound

/-! ## Nodes -/

/-- A node of a tree: its address, the element there, and the elements above it. -/
structure TreeNode where
  address : List Nat
  element : Element
  above : Trail

mutual

/-- An element at an address and all nodes inside it, in pre-order. -/
def Element.nodes (above : Trail) (address : List Nat) : Element → List TreeNode
  | .leaf head kind => [⟨address, .leaf head kind, above⟩]
  | .array head bounds items =>
    ⟨address, .array head bounds items, above⟩
      :: nodesFrom (above ++ [(address, .array head bounds items)]) address 0 items
  | .object head properties =>
    ⟨address, .object head properties, above⟩
      :: nodesFrom (above ++ [(address, .object head properties)]) address 0 properties
  | .group label elements =>
    ⟨address, .group label elements, above⟩
      :: nodesFrom (above ++ [(address, .group label elements)]) address 0 elements
  | .conditional test elements =>
    ⟨address, .conditional test elements, above⟩
      :: nodesFrom (above ++ [(address, .conditional test elements)]) address 0 elements

/-- The nodes among the children of an address, counted from an index on. -/
def nodesFrom (above : Trail) (address : List Nat) (index : Nat) : List Element → List TreeNode
  | [] => []
  | e :: es => e.nodes above (address ++ [index]) ++ nodesFrom above address (index + 1) es

end

/-- All nodes of a form in pre-order. -/
def nodes (es : List Element) : List TreeNode := nodesFrom [] [] 0 es

/-- Every element is listed in front of what is inside it. -/
theorem Element.nodes_eq (above : Trail) (address : List Nat) (e : Element) :
    e.nodes above address
      = ⟨address, e, above⟩ :: nodesFrom (above ++ [(address, e)]) address 0 e.inner := by
  cases e <;> rfl

theorem nodesFrom_cons (above : Trail) (address : List Nat) (index : Nat) (e : Element)
    (es : List Element) : nodesFrom above address index (e :: es)
      = ⟨address ++ [index], e, above⟩
        :: nodesFrom (above ++ [(address ++ [index], e)]) (address ++ [index]) 0 e.inner
        ++ nodesFrom above address (index + 1) es := by
  rw [nodesFrom, Element.nodes_eq]

/-! ## Induction over trees -/

section TreeInduction

variable {P : List Element → Prop}

mutual

private theorem inner_of_steps (nil : P [])
    (cons : ∀ e es, P e.inner → P es → P (e :: es)) : ∀ e : Element, P e.inner
  | .leaf _ _ => nil
  | .array _ _ items => siblings_of_steps nil cons items
  | .object _ properties => siblings_of_steps nil cons properties
  | .group _ elements => siblings_of_steps nil cons elements
  | .conditional _ elements => siblings_of_steps nil cons elements

private theorem siblings_of_steps (nil : P [])
    (cons : ∀ e es, P e.inner → P es → P (e :: es)) : ∀ es : List Element, P es
  | [] => nil
  | e :: es => cons e es (inner_of_steps nil cons e) (siblings_of_steps nil cons es)

end

/-- **Induction over trees.** What follows for siblings from the children of the first and from the
rest holds of all siblings. -/
theorem tree_induction (nil : P []) (cons : ∀ e es, P e.inner → P es → P (e :: es))
    (es : List Element) : P es := siblings_of_steps nil cons es

end TreeInduction

/-! ## The walk lists the tree -/

/-- `ListsTree es ns`: the list has every node of the tree once, in pre-order. Its nodes are those
that addresses lead to, with the elements above them, and the addresses increase: a node stands in
front of what is inside it, and that in front of the siblings after it. -/
structure ListsTree (es : List Element) (ns : List TreeNode) : Prop where
  mem_iff : ∀ n : TreeNode,
    n ∈ ns ↔ elementAt? es n.address = some n.element ∧ n.above = ancestors es n.address
  increasing : (ns.map (·.address)).Pairwise (· < ·)

/-- Some siblings stand in a tree from a child of an address on. -/
structure StandIn (whole : List Element) (above : Trail) (address : List Nat) (index : Nat)
    (es : List Element) : Prop where
  elements : ∀ k, elementAt? whole (address ++ [index + k]) = es[k]?
  above_eq : ∀ i, ancestors whole (address ++ [i]) = above

namespace StandIn

variable {whole : List Element} {above : Trail} {address : List Nat} {index : Nat} {e : Element}
  {es : List Element}

theorem root (es : List Element) : StandIn es [] [] 0 es := by
  refine ⟨?_, ancestors_singleton es⟩
  intro k
  show elementAt? es [0 + k] = es[k]?
  rw [Nat.zero_add, elementAt?_singleton]

theorem head (h : StandIn whole above address index (e :: es)) :
    elementAt? whole (address ++ [index]) = some e := h.elements 0

theorem tail (h : StandIn whole above address index (e :: es)) :
    StandIn whole above address (index + 1) es := by
  refine ⟨?_, h.above_eq⟩
  intro k
  have hk : index + 1 + k = index + (k + 1) := by omega
  rw [hk]
  exact h.elements (k + 1)

/-- The children of the first sibling stand below it. -/
theorem inner (h : StandIn whole above address index (e :: es)) :
    StandIn whole (above ++ [(address ++ [index], e)]) (address ++ [index]) 0 e.inner := by
  refine ⟨?_, ?_⟩
  · intro k
    rw [Nat.zero_add]
    exact elementAt?_concat h.head k
  · intro i
    rw [ancestors_concat h.head, h.above_eq]

end StandIn

/-- A node of a walk is where its address leads to, below the elements at shorter addresses. -/
theorem sound_nodesFrom {whole : List Element} (es : List Element) :
    ∀ above address index, StandIn whole above address index es →
      ∀ n ∈ nodesFrom above address index es,
        elementAt? whole n.address = some n.element ∧ n.above = ancestors whole n.address := by
  induction es using tree_induction with
  | nil => intro above address index _ n hn; simp [nodesFrom] at hn
  | cons e es ihinner ihtail =>
    intro above address index h n hn
    rw [nodesFrom_cons, List.mem_append, List.mem_cons] at hn
    rcases hn with (rfl | hn) | hn
    · exact ⟨h.head, (h.above_eq index).symm⟩
    · exact ihinner _ _ _ h.inner n hn
    · exact ihtail _ _ _ h.tail n hn

/-- The walk comes by every address that leads to an element. -/
theorem complete_nodesFrom (es : List Element) :
    ∀ above address index i rest, (elementAt? es (i :: rest)).isSome →
      ∃ n ∈ nodesFrom above address index es, n.address = address ++ (index + i) :: rest := by
  induction es using tree_induction with
  | nil => intro above address index i rest h; simp [elementAt?] at h
  | cons e es ihinner ihtail =>
    intro above address index i rest h
    rw [nodesFrom_cons]
    cases i with
    | zero =>
      cases rest with
      | nil => exact ⟨_, List.mem_append_left _ List.mem_cons_self, rfl⟩
      | cons j rest =>
        -- the address goes on inside the first sibling
        have hinner : (elementAt? e.inner (j :: rest)).isSome := h
        obtain ⟨n, hn, haddress⟩ := ihinner (above ++ [(address ++ [index], e)])
          (address ++ [index]) 0 j rest hinner
        refine ⟨n, List.mem_append_left _ (List.mem_cons_of_mem _ hn), ?_⟩
        rw [haddress, Nat.zero_add, List.append_assoc]
        rfl
    | succ i =>
      have htail : (elementAt? es (i :: rest)).isSome := h
      obtain ⟨n, hn, haddress⟩ := ihtail above address (index + 1) i rest htail
      refine ⟨n, List.mem_append_right _ hn, ?_⟩
      have hi : index + 1 + i = index + (i + 1) := by omega
      rw [haddress, hi]

/-- The addresses among the children of an address extend it by an index. -/
theorem exists_address_eq (es : List Element) :
    ∀ above address index, ∀ n ∈ nodesFrom above address index es,
      ∃ i rest, n.address = address ++ (index + i) :: rest := by
  induction es using tree_induction with
  | nil => intro above address index n hn; simp [nodesFrom] at hn
  | cons e es ihinner ihtail =>
    intro above address index n hn
    rw [nodesFrom_cons, List.mem_append, List.mem_cons] at hn
    rcases hn with (rfl | hn) | hn
    · exact ⟨0, [], rfl⟩
    · obtain ⟨i, rest, haddress⟩ := ihinner _ _ _ n hn
      exact ⟨0, (0 + i) :: rest, by rw [haddress, List.append_assoc]; rfl⟩
    · obtain ⟨i, rest, haddress⟩ := ihtail _ _ _ n hn
      refine ⟨i + 1, rest, ?_⟩
      have hi : index + (i + 1) = index + 1 + i := by omega
      rw [haddress, hi]

theorem append_lt_append_left (a : List Nat) {b c : List Nat} (h : b < c) : a ++ b < a ++ c := by
  show List.Lex (· < ·) (a ++ b) (a ++ c)
  exact List.Lex.append_left _ h a

/-- The addresses of a walk increase. -/
theorem increasing_nodesFrom (es : List Element) :
    ∀ above address index,
      ((nodesFrom above address index es).map (·.address)).Pairwise (· < ·) := by
  induction es using tree_induction with
  | nil => intro above address index; exact .nil
  | cons e es ihinner ihtail =>
    intro above address index
    rw [nodesFrom_cons, List.map_append, List.map_cons, List.pairwise_append, List.pairwise_cons]
    refine ⟨⟨?_, ihinner _ _ _⟩, ihtail _ _ _, ?_⟩
    · -- what is inside the first sibling has a longer address
      intro a ha
      obtain ⟨n, hn, rfl⟩ := List.mem_map.mp ha
      obtain ⟨i, rest, haddress⟩ := exists_address_eq _ _ _ _ n hn
      have hlt : address ++ [index] ++ [] < address ++ [index] ++ (0 + i) :: rest :=
        append_lt_append_left _ (List.nil_lt_cons _ _)
      rw [List.append_nil] at hlt
      rw [haddress]
      exact hlt
    · -- what comes after it has a greater index at this depth
      intro a ha b hb
      obtain ⟨m, hm, rfl⟩ := List.mem_map.mp hb
      obtain ⟨j, after, hafter⟩ := exists_address_eq _ _ _ _ m hm
      have hfirst : ∃ rest, a = address ++ index :: rest := by
        rcases List.mem_cons.mp ha with rfl | ha
        · exact ⟨[], rfl⟩
        · obtain ⟨n, hn, rfl⟩ := List.mem_map.mp ha
          obtain ⟨i, rest, haddress⟩ := exists_address_eq _ _ _ _ n hn
          exact ⟨(0 + i) :: rest, by rw [haddress, List.append_assoc]; rfl⟩
      obtain ⟨rest, rfl⟩ := hfirst
      rw [hafter]
      apply append_lt_append_left
      rw [List.cons_lt_cons_iff]
      left
      omega

/-- **The walk lists the tree**: every node once, in pre-order, with the elements above it. -/
theorem listsTree_nodes (es : List Element) : ListsTree es (nodes es) := by
  have hsound := sound_nodesFrom es [] [] 0 (StandIn.root es)
  refine ⟨?_, increasing_nodesFrom es [] [] 0⟩
  intro n
  constructor
  · exact hsound n
  · rintro ⟨helement, habove⟩
    obtain ⟨address, element, above⟩ := n
    cases address with
    | nil => cases helement
    | cons i rest =>
      obtain ⟨m, hm, haddress⟩ := complete_nodesFrom es [] [] 0 i rest
        (by rw [helement]; rfl)
      rw [Nat.zero_add, List.nil_append] at haddress
      -- the node found there has the same element and the same ancestors
      obtain ⟨hmelement, hmabove⟩ := hsound m hm
      rw [haddress] at hmelement hmabove
      have heq : m = ⟨i :: rest, element, above⟩ := by
        obtain ⟨maddress, melement, mabove⟩ := m
        have hsame : melement = element := Option.some.inj (hmelement.symm.trans helement)
        have htrail : mabove = above := hmabove.trans habove.symm
        rw [hsame, htrail, show maddress = i :: rest from haddress]
      exact heq ▸ hm

end FormSchema
