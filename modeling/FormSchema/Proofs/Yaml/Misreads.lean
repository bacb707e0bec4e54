import Mathlib.Data.List.MinMax
import FormSchema.Proofs.Yaml.LexerErrors
import FormSchema.Yaml.Value

/-!
# FormSchema — what cannot be read of a document

All misreads of a node are listed in reading order, wherever they stand in the document. A node is
read if there is none, and otherwise the first one of least depth is reported.

* **`misreads`** — the list; **`reports_ofNode`** — the one of it that is reported.
* **`explained_misreads`** — a misread is about the form of the document, or about one of its
  scalars that is no value of its kind.
* **`read_fails_iff`** — so a text that is not malformed is read unless it asks for a character that
  does not exist, or reports such a scalar.
-/

namespace FormSchema.Yaml

variable {α β : Type}

/-- The misread that a reading ends with, if it does. -/
def Reading.error? : Reading α → Option Misread
  | .ok _ => none
  | .error m => some m

/-- The misread that is reported of several: of those of least depth the first. -/
def reported? (misreads : List Misread) : Option Misread := misreads.argmin (·.depth)

/-- Of two lists, the misread of the second counts only if it is nearer to the top. -/
theorem reported?_append (a b : List Misread) :
    reported? (a ++ b) =
      match reported? a, reported? b with
      | some m, some n => some (if n.depth < m.depth then n else m)
      | some m, none => some m
      | none, n => n := by
  induction a with
  | nil => rfl
  | cons m a ih =>
    unfold reported? at ih ⊢
    rw [List.cons_append, List.argmin_cons, List.argmin_cons, ih]
    cases List.argmin (fun x : Misread => x.depth) a <;>
      cases List.argmin (fun x : Misread => x.depth) b <;> dsimp only <;> grind

/-! ## Readings of parts -/

/-- A reading reports one of several misreads, and succeeds if there is none. -/
def Reports (x : Reading α) (misreads : List Misread) : Prop := x.error? = reported? misreads

namespace Reports

theorem ok (a : α) : Reports (.ok a) [] := rfl

theorem malformed (depth : Nat) (reason : Malformed) :
    Reports (Reading.malformed depth reason : Reading α) [⟨depth, .malformed reason⟩] := rfl

theorem map {x : Reading α} {misreads : List Misread} (h : Reports x misreads) (f : α → β) :
    Reports (x.map f) misreads := by
  cases x with
  | ok a => exact h
  | error m => exact h

theorem both {x : Reading α} {y : Reading β} {a b : List Misread} (hx : Reports x a)
    (hy : Reports y b) : Reports (Reading.both x y) (a ++ b) := by
  unfold Reports at hx hy ⊢
  rw [reported?_append, ← hx, ← hy]
  cases x <;> cases y <;> rfl

theorem cons {x : Reading α} {rest : Reading (List α)} {a b : List Misread} (hx : Reports x a)
    (hrest : Reports rest b) : Reports (Reading.cons x rest) (a ++ b) :=
  (hx.both hrest).map _

theorem append {x y : Reading (List α)} {a b : List Misread} (hx : Reports x a)
    (hy : Reports y b) : Reports (Reading.append x y) (a ++ b) :=
  (hx.both hy).map _

end Reports

namespace Value

/-! ## All misreads -/

/-- The misread of a scalar that is no value of its kind. -/
def scalarMisreads (depth : Nat) (tag : Tag) (content : String) : List Misread :=
  (ofScalar depth tag content).error?.toList

def keyMisreads (depth : Nat) (key : Node) : List Misread := (ofKey depth key).error?.toList

/-- The misread of a node that is malformed itself, whatever stands in it. -/
def malformation (depth : Nat) (reason : Malformed) : List Misread := [⟨depth, .malformed reason⟩]

mutual

/-- All misreads of a node that stands in a number of collections. -/
def misreads (depth : Nat) : Node → List Misread
  | .scalar tag content => scalarMisreads depth tag content
  | .sequence tag items =>
    match tag with
    | .sequence => itemMisreads (depth + 1) items
    | .orderedMap => entryMisreads (depth + 1) items
    | .pairs => entryMisreads (depth + 1) items
    | .mapping => malformation (depth + 1) .arrangement
    | .set => malformation (depth + 1) .arrangement
    | .other => malformation depth .unknownTag
    | _ => malformation depth .arrangement
  | .mapping tag pairs =>
    if tag = .mapping ∨ tag = .set then
      if isMisMerged pairs then malformation (depth + 1) .merge
      else mergedMisreads (depth + 1) pairs ++ ownMisreads (depth + 1) pairs
    else
      match tag with
      | .sequence => malformation (depth + 1) .arrangement
      | .orderedMap => malformation (depth + 1) .arrangement
      | .pairs => malformation (depth + 1) .arrangement
      | .other => malformation depth .unknownTag
      | _ => malformation depth .arrangement
  | .around _ => malformation depth .alias

def itemMisreads (depth : Nat) : List Node → List Misread
  | [] => []
  | node :: rest => misreads depth node ++ itemMisreads depth rest

/-- The misreads of a list of single pairs. What is not a single pair ends the list. -/
def entryMisreads (depth : Nat) : List Node → List Misread
  | [] => []
  | .mapping _ [(key, value)] :: rest =>
    (misreads depth key ++ misreads depth value) ++ entryMisreads depth rest
  | _ :: _ => malformation depth .arrangement

/-- The misreads of a mapping's own pairs. -/
def ownMisreads (depth : Nat) : List (Node × Node) → List Misread
  | [] => []
  | (key, value) :: rest =>
    if isMergeKey key then ownMisreads depth rest
    else (keyMisreads depth key ++ misreads depth value) ++ ownMisreads depth rest

/-- The misreads of the pairs that merge keys add. -/
def mergedMisreads (depth : Nat) : List (Node × Node) → List Misread
  | [] => []
  | (key, value) :: rest =>
    if isMergeKey key then mergeMisreads depth value ++ mergedMisreads depth rest
    else mergedMisreads depth rest

/-- The misreads of what one merge key adds. -/
def mergeMisreads (depth : Nat) : Node → List Misread
  | .mapping _ pairs => mergedMisreads depth pairs ++ ownMisreads depth pairs
  | .sequence _ items => mergeItemMisreads depth items
  | _ => malformation depth .merge

/-- The misreads of several mappings that are merged; the last one is read first. -/
def mergeItemMisreads (depth : Nat) : List Node → List Misread
  | [] => []
  | .mapping _ pairs :: rest =>
    mergeItemMisreads depth rest ++ (mergedMisreads depth pairs ++ ownMisreads depth pairs)
  | _ :: _ => malformation depth .merge

end

/-! ## What is reported -/

theorem reports_toList (x : Reading α) : Reports x x.error?.toList := by
  cases x with
  | ok a => rfl
  | error m => rfl

mutual

/-- **The misread of a node.** A node is read if nothing in it is misread, and otherwise the first
misread of least depth is reported. -/
theorem reports_ofNode (depth : Nat) : (node : Node) →
    Reports (ofNode depth node) (misreads depth node)
  | .scalar tag content => reports_toList (ofScalar depth tag content)
  | .sequence tag items => by
    cases tag with
    | sequence => exact (reports_ofItems (depth + 1) items).map list
    | orderedMap => exact (reports_ofEntries (depth + 1) items).map list
    | pairs => exact (reports_ofEntries (depth + 1) items).map list
    | _ => exact .malformed _ _
  | .mapping tag pairs => by
    have hjoin (make : List (Value × Value) → Value) :
        Reports (if isMisMerged pairs then .malformed (depth + 1) .merge
            else (Pairs.join (ofPairs (depth + 1) pairs)).map make)
          (if isMisMerged pairs then malformation (depth + 1) .merge
            else mergedMisreads (depth + 1) pairs ++ ownMisreads (depth + 1) pairs) := by
      split
      · exact .malformed _ _
      · obtain ⟨hmerged, hown⟩ := reports_ofPairs (depth + 1) pairs
        exact (hmerged.append hown).map make
    cases tag with
    | mapping => exact hjoin .map
    | set => exact hjoin fun _ => .set
    | _ => exact .malformed _ _
  | .around _ => .malformed depth .alias

theorem reports_ofItems (depth : Nat) : (items : List Node) →
    Reports (ofItems depth items) (itemMisreads depth items)
  | [] => .ok []
  | node :: rest => (reports_ofNode depth node).cons (reports_ofItems depth rest)

theorem reports_ofEntries (depth : Nat) : (items : List Node) →
    Reports (ofEntries depth items) (entryMisreads depth items)
  | [] => .ok []
  | .mapping _ [(key, value)] :: rest =>
    (((reports_ofNode depth key).both (reports_ofNode depth value)).map _).cons
      (reports_ofEntries depth rest)
  | .mapping _ [] :: _ => .malformed depth .arrangement
  | .mapping _ (_ :: _ :: _) :: _ => .malformed depth .arrangement
  | .scalar _ _ :: _ => .malformed depth .arrangement
  | .sequence _ _ :: _ => .malformed depth .arrangement
  | .around _ :: _ => .malformed depth .arrangement

theorem reports_ofPairs (depth : Nat) : (pairs : List (Node × Node)) →
    Reports (ofPairs depth pairs).merged (mergedMisreads depth pairs)
      ∧ Reports (ofPairs depth pairs).own (ownMisreads depth pairs)
  | [] => ⟨.ok [], .ok []⟩
  | (key, value) :: rest => by
    obtain ⟨hmerged, hown⟩ := reports_ofPairs depth rest
    unfold ofPairs mergedMisreads ownMisreads
    split
    · exact ⟨(reports_merged depth value).append hmerged, hown⟩
    · exact ⟨hmerged,
        ((reports_toList (ofKey depth key)).both (reports_ofNode depth value)).cons hown⟩

theorem reports_merged (depth : Nat) : (node : Node) →
    Reports (merged depth node) (mergeMisreads depth node)
  | .mapping _ pairs => by
    obtain ⟨hmerged, hown⟩ := reports_ofPairs depth pairs
    exact hmerged.append hown
  | .sequence _ items => reports_mergedItems depth items
  | .scalar _ _ => .malformed depth .merge
  | .around _ => .malformed depth .merge

theorem reports_mergedItems (depth : Nat) : (items : List Node) →
    Reports (mergedItems depth items) (mergeItemMisreads depth items)
  | [] => .ok []
  | .mapping _ pairs :: rest => by
    obtain ⟨hmerged, hown⟩ := reports_ofPairs depth pairs
    exact (reports_mergedItems depth rest).append (hmerged.append hown)
  | .scalar _ _ :: _ => .malformed depth .merge
  | .sequence _ _ :: _ => .malformed depth .merge
  | .around _ :: _ => .malformed depth .merge

end

/-! ## Where misreads come from -/

/-- Whether a scalar is no value of its kind: truth values, numbers and timestamps have a form. -/
def Misfit (content : String) (fault : ScalarFault) : Tag → Prop
  | .bool => readFlag content = .error fault
  | .int => readInteger content = .error fault
  | .float => readFloat content = .error fault
  | .timestamp => readTimestamp content = .error fault
  | _ => False

/-- A scalar is misread because of its tag alone, or it is no value of its kind. -/
theorem error_ofScalar {depth : Nat} {tag : Tag} {content : String} {m : Misread}
    (h : ofScalar depth tag content = .error m) :
    (∃ reason, m.error = .malformed reason) ∨ ∃ fault, Misfit content fault tag
      ∧ m.error = .scalar fault := by
  have hlift {γ : Type} (make : γ → Value) (x : Except ScalarFault γ)
      (hx : (x.map make).mapError (fun fault => (⟨depth, .scalar fault⟩ : Misread)) = .error m) :
      ∃ fault, x = .error fault ∧ m.error = .scalar fault := by
    cases x with
    | ok a => cases hx
    | error fault =>
      cases hx
      exact ⟨fault, rfl, rfl⟩
  cases tag with
  | bool => exact .inr (hlift .bool _ h)
  | int => exact .inr (hlift .int _ h)
  | float => exact .inr (hlift .float _ h)
  | timestamp => exact .inr (hlift .timestamp _ h)
  | binary =>
    change (if isBinary content then _ else _) = _ at h
    split at h <;> cases h
    exact .inl ⟨_, rfl⟩
  | null => cases h
  | text => cases h
  | _ =>
    cases h
    exact .inl ⟨_, rfl⟩

/-- A node has a scalar in it. -/
inductive Has (tag : Tag) (content : String) : Node → Prop
  | here : Has tag content (.scalar tag content)
  | item {kind : Tag} {items : List Node} {node : Node} (hmem : node ∈ items)
      (hnode : Has tag content node) : Has tag content (.sequence kind items)
  | key {kind : Tag} {pairs : List (Node × Node)} {key value : Node} (hmem : (key, value) ∈ pairs)
      (hkey : Has tag content key) : Has tag content (.mapping kind pairs)
  | value {kind : Tag} {pairs : List (Node × Node)} {key value : Node}
      (hmem : (key, value) ∈ pairs) (hvalue : Has tag content value) :
      Has tag content (.mapping kind pairs)

/-- A misread is about the form of a document, or about a scalar of some sort. -/
def Explained (scalars : Tag → String → Prop) (m : Misread) : Prop :=
  (∃ reason, m.error = .malformed reason) ∨ ∃ tag content fault,
    scalars tag content ∧ Misfit content fault tag ∧ m.error = .scalar fault

theorem Explained.mono {scalars others : Tag → String → Prop} {m : Misread}
    (h : Explained scalars m) (hsub : ∀ tag content, scalars tag content → others tag content) :
    Explained others m := by
  rcases h with h | ⟨tag, content, fault, hscalar, hrest⟩
  · exact .inl h
  · exact .inr ⟨tag, content, fault, hsub tag content hscalar, hrest⟩

theorem explained_malformation {scalars : Tag → String → Prop} {depth : Nat} {reason : Malformed}
    {m : Misread} (h : m ∈ malformation depth reason) : Explained scalars m := by
  obtain rfl := List.mem_singleton.mp h
  exact .inl ⟨reason, rfl⟩

/-- A scalar among the items of a list. -/
abbrev HasItem (items : List Node) (tag : Tag) (content : String) : Prop :=
  ∃ node ∈ items, Has tag content node

/-- A scalar in a key or in a value among some pairs. -/
abbrev HasPair (pairs : List (Node × Node)) (tag : Tag) (content : String) : Prop :=
  ∃ pair ∈ pairs, Has tag content pair.1 ∨ Has tag content pair.2

theorem has_of_hasPair {kind tag : Tag} {pairs : List (Node × Node)} {content : String}
    (h : HasPair pairs tag content) : Has tag content (.mapping kind pairs) := by
  obtain ⟨pair, hmem, hkey | hvalue⟩ := h
  · exact .key hmem hkey
  · exact .value hmem hvalue

theorem explained_scalarMisreads {depth : Nat} {tag : Tag} {content : String} {m : Misread}
    (h : m ∈ scalarMisreads depth tag content) :
    Explained (fun t c => t = tag ∧ c = content) m := by
  unfold scalarMisreads at h
  cases hread : ofScalar depth tag content with
  | ok value => simp [hread, Reading.error?] at h
  | error n =>
    simp only [hread, Reading.error?, Option.toList_some, List.mem_singleton] at h
    subst h
    rcases error_ofScalar hread with hform | ⟨fault, hmisfit, herror⟩
    · exact .inl hform
    · exact .inr ⟨tag, content, fault, ⟨rfl, rfl⟩, hmisfit, herror⟩

theorem explained_keyMisreads {depth : Nat} {key : Node} {m : Misread}
    (h : m ∈ keyMisreads depth key) : Explained (fun tag content => Has tag content key) m := by
  have hnone {reason : Malformed}
      (h : m ∈ (Reading.malformed depth reason : Reading Value).error?.toList) :
      Explained (fun tag content => Has tag content key) m := explained_malformation h
  cases key with
  | scalar tag content =>
    have hscalar (h : m ∈ scalarMisreads depth tag content) :
        Explained (fun t c => Has t c (.scalar tag content)) m :=
      (explained_scalarMisreads h).mono fun _ _ hsame => by
        rw [hsame.1, hsame.2]
        exact .here
    cases tag with
    | value => cases h
    | sequence => exact hnone h
    | mapping => exact hnone h
    | set => exact hnone h
    | orderedMap => exact hnone h
    | pairs => exact hnone h
    | _ => exact hscalar h
  | sequence tag items => exact hnone h
  | mapping tag pairs => exact hnone h
  | around anchor => exact hnone h

mutual

/-- Every misread of a node is about the form of the document or about a scalar in the node. -/
theorem explained_misreads (depth : Nat) (m : Misread) : (node : Node) → m ∈ misreads depth node →
    Explained (fun tag content => Has tag content node) m
  | .scalar tag content, h => (explained_scalarMisreads h).mono fun _ _ hsame => by
    rw [hsame.1, hsame.2]
    exact .here
  | .sequence tag items, h => by
    have hitems {m : Misread} (h : Explained (HasItem items) m) :
        Explained (fun t c => Has t c (.sequence tag items)) m :=
      h.mono fun _ _ ⟨_, hmem, hhas⟩ => .item hmem hhas
    cases tag with
    | sequence => exact hitems (explained_itemMisreads (depth + 1) m items h)
    | orderedMap => exact hitems (explained_entryMisreads (depth + 1) m items h)
    | pairs => exact hitems (explained_entryMisreads (depth + 1) m items h)
    | _ => exact explained_malformation h
  | .mapping tag pairs, h => by
    unfold misreads at h
    split at h
    · split at h
      · exact explained_malformation h
      · exact (explained_pairMisreads (depth + 1) m pairs (List.mem_append.mp h)).mono
          fun _ _ => has_of_hasPair
    · cases tag <;> exact explained_malformation h
  | .around _, h => explained_malformation h

theorem explained_itemMisreads (depth : Nat) (m : Misread) : (items : List Node) →
    m ∈ itemMisreads depth items → Explained (HasItem items) m
  | [], h => by cases h
  | node :: rest, h => by
    rcases List.mem_append.mp h with h | h
    · exact (explained_misreads depth m node h).mono fun _ _ hhas => ⟨node, .head _, hhas⟩
    · exact (explained_itemMisreads depth m rest h).mono fun _ _ ⟨other, hmem, hhas⟩ =>
        ⟨other, .tail _ hmem, hhas⟩

theorem explained_entryMisreads (depth : Nat) (m : Misread) : (items : List Node) →
    m ∈ entryMisreads depth items → Explained (HasItem items) m
  | [], h => by cases h
  | .mapping tag [(key, value)] :: rest, h => by
    rcases List.mem_append.mp h with h | h
    · rcases List.mem_append.mp h with h | h
      · exact (explained_misreads depth m key h).mono fun _ _ hhas =>
          ⟨_, .head _, .key (.head _) hhas⟩
      · exact (explained_misreads depth m value h).mono fun _ _ hhas =>
          ⟨_, .head _, .value (.head _) hhas⟩
    · exact (explained_entryMisreads depth m rest h).mono fun _ _ ⟨other, hmem, hhas⟩ =>
        ⟨other, .tail _ hmem, hhas⟩
  | .mapping _ [] :: _, h => explained_malformation h
  | .mapping _ (_ :: _ :: _) :: _, h => explained_malformation h
  | .scalar _ _ :: _, h => explained_malformation h
  | .sequence _ _ :: _, h => explained_malformation h
  | .around _ :: _, h => explained_malformation h

/-- The misreads of a mapping, of its own pairs and of those that are merged into it. -/
theorem explained_pairMisreads (depth : Nat) (m : Misread) : (pairs : List (Node × Node)) →
    m ∈ mergedMisreads depth pairs ∨ m ∈ ownMisreads depth pairs → Explained (HasPair pairs) m
  | [], h => by rcases h with h | h <;> cases h
  | (key, value) :: rest, h => by
    have hrest (h : m ∈ mergedMisreads depth rest ∨ m ∈ ownMisreads depth rest) :
        Explained (HasPair ((key, value) :: rest)) m :=
      (explained_pairMisreads depth m rest h).mono fun _ _ ⟨other, hmem, hhas⟩ =>
        ⟨other, .tail _ hmem, hhas⟩
    have hvalue (h : Explained (fun tag content => Has tag content value) m) :
        Explained (HasPair ((key, value) :: rest)) m :=
      h.mono fun _ _ hhas => ⟨_, .head _, .inr hhas⟩
    unfold mergedMisreads ownMisreads at h
    split at h
    · rcases h with h | h
      · rcases List.mem_append.mp h with h | h
        · exact hvalue (explained_mergeMisreads depth m value h)
        · exact hrest (.inl h)
      · exact hrest (.inr h)
    · rcases h with h | h
      · exact hrest (.inl h)
      · rcases List.mem_append.mp h with h | h
        · rcases List.mem_append.mp h with h | h
          · exact (explained_keyMisreads h).mono fun _ _ hhas => ⟨_, .head _, .inl hhas⟩
          · exact hvalue (explained_misreads depth m value h)
        · exact hrest (.inr h)

theorem explained_mergeMisreads (depth : Nat) (m : Misread) : (node : Node) →
    m ∈ mergeMisreads depth node → Explained (fun tag content => Has tag content node) m
  | .mapping _ pairs, h =>
    (explained_pairMisreads depth m pairs (List.mem_append.mp h)).mono fun _ _ => has_of_hasPair
  | .sequence _ items, h =>
    (explained_mergeItemMisreads depth m items h).mono fun _ _ ⟨_, hmem, hhas⟩ => .item hmem hhas
  | .scalar _ _, h => explained_malformation h
  | .around _, h => explained_malformation h

theorem explained_mergeItemMisreads (depth : Nat) (m : Misread) : (items : List Node) →
    m ∈ mergeItemMisreads depth items → Explained (HasItem items) m
  | [], h => by cases h
  | .mapping tag pairs :: rest, h => by
    rcases List.mem_append.mp h with h | h
    · exact (explained_mergeItemMisreads depth m rest h).mono fun _ _ ⟨other, hmem, hhas⟩ =>
        ⟨other, .tail _ hmem, hhas⟩
    · exact (explained_pairMisreads depth m pairs (List.mem_append.mp h)).mono fun _ _ hhas =>
        ⟨_, .head _, has_of_hasPair hhas⟩
  | .scalar _ _ :: _, h => explained_malformation h
  | .sequence _ _ :: _, h => explained_malformation h
  | .around _ :: _, h => explained_malformation h

end

end Value

/-! ## Texts -/

/-- A text asks for something that cannot be made: for a character that does not exist, or, as the
misread that is reported, for a value that does not. -/
inductive Unmakable (text : List Char) : Prop
  | character (code : Nat) (htokens : tokens text = .error (.noCharacter code))
  | scalar (node : Node) (m : Misread) (fault : ScalarFault)
      (hnode : readNode? text = .ok (some node))
      (hreported : reported? (Value.misreads 0 node) = some m) (hfault : m.error = .scalar fault)

/-- What such a text holds: an escape beyond the last character, or a scalar that has not the form
of its kind. -/
theorem Unmakable.cause {text : List Char} (h : Unmakable text) :
    (∃ code, 0x110000 ≤ code ∧ tokens text = .error (.noCharacter code))
      ∨ ∃ node tag content fault, readNode? text = .ok (some node) ∧ Value.Has tag content node
        ∧ Value.Misfit content fault tag := by
  rcases h with ⟨code, htokens⟩ | ⟨node, m, fault, hnode, hreported, hfault⟩
  · exact .inl ⟨code, failsLexically_tokens text _ htokens, htokens⟩
  · have hmem : m ∈ Value.misreads 0 node := List.argmin_mem hreported
    rcases Value.explained_misreads 0 m node hmem with
      ⟨reason, hreason⟩ | ⟨tag, content, fault', hhas, hmisfit, -⟩
    · rw [hfault] at hreason
      cases hreason
    · exact .inr ⟨node, tag, content, fault', hnode, hhas, hmisfit⟩

/-- A text that has no node is malformed, or has no tokens. -/
theorem readNode?_error {text : List Char} {e : ReadError} (h : readNode? text = .error e) :
    (∃ reason, e = .malformed reason) ∨ ∃ code, tokens text = .error (.noCharacter code) := by
  unfold readNode? at h
  cases htokens : tokens text with
  | error e' =>
    rw [htokens] at h
    cases h
    have hlexical := failsLexically_tokens text e htokens
    cases e with
    | malformed reason => exact .inl ⟨reason, rfl⟩
    | noCharacter code => exact .inr ⟨code, rfl⟩
    | scalar fault => exact hlexical.elim
  | ok tokens =>
    simp only [htokens, bind, Except.bind] at h
    split at h
    · cases h
    · cases h
      exact .inl ⟨_, rfl⟩

/-- A text is not read if it has no node, or for the misread of its node that is reported. -/
theorem read_eq_error_iff {text : List Char} {e : ReadError} :
    read text = .error e ↔ readNode? text = .error e
      ∨ ∃ node m, readNode? text = .ok (some node)
        ∧ reported? (Value.misreads 0 node) = some m ∧ m.error = e := by
  unfold read
  cases hnode : readNode? text with
  | error e' => simp [bind, Except.bind]
  | ok node? =>
    cases node? with
    | none => simp [bind, Except.bind, pure, Except.pure]
    | some node =>
      have hreports := Value.reports_ofNode 0 node
      rw [Reports] at hreports
      simp only [bind, Except.bind, Except.ok.injEq, Option.some.injEq, reduceCtorEq, false_or,
        exists_eq_left', exists_and_left, ← hreports]
      cases Value.ofNode 0 node with
      | ok value => simp [Except.mapError, Reading.error?]
      | error m => simp [Except.mapError, Reading.error?]

/-- **What else can go wrong.** Reading a text fails for another reason than its form exactly if the
text asks for something that cannot be made. -/
theorem read_fails_iff (text : List Char) :
    (∃ e, read text = .error e ∧ ∀ reason, e ≠ .malformed reason) ↔ Unmakable text := by
  constructor
  · rintro ⟨e, he, hform⟩
    rcases read_eq_error_iff.mp he with hnode | ⟨node, m, hnode, hreported, rfl⟩
    · rcases readNode?_error hnode with ⟨reason, hreason⟩ | ⟨code, htokens⟩
      · exact absurd hreason (hform reason)
      · exact .character code htokens
    · have hmem : m ∈ Value.misreads 0 node := List.argmin_mem hreported
      rcases Value.explained_misreads 0 m node hmem with
        ⟨reason, hreason⟩ | ⟨_, _, fault, _, _, hfault⟩
      · exact absurd hreason (hform reason)
      · exact .scalar node m fault hnode hreported hfault
  · rintro (⟨code, htokens⟩ | ⟨node, m, fault, hnode, hreported, hfault⟩)
    · have hnode : readNode? text = .error (.noCharacter code) := by
        unfold readNode?
        rw [htokens]
        rfl
      exact ⟨.noCharacter code, read_eq_error_iff.mpr (.inl hnode), nofun⟩
    · exact ⟨.scalar fault,
        read_eq_error_iff.mpr (.inr ⟨node, m, hnode, hreported, hfault⟩), nofun⟩

end FormSchema.Yaml
