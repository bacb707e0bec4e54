import FormSchema.Proofs.Yaml.Numeral
import FormSchema.Proofs.Yaml.Outline.Nodes
import FormSchema.Yaml.Value

/-!
# FormSchema — what an outline says

The value of an outline is put together from those of its words. No key of it is a merge key, so a
block is the mapping of its entries, in their order.

* **`Outline.Says`** — an outline has a value, wherever it stands.
* **`says_text`**, **`says_toString`**, **`says_nothing`** — the values of words and of nothing.
* **`says_block`** — the value of a block whose entries are made from a list.
* **`read_entriesText`** — a document in block style is read as the value of its outline.
-/

namespace FormSchema.Yaml

namespace Outline

/-- An outline has a value, however deep it stands in a document. -/
def Says (outline : Outline) (value : Value) : Prop :=
  ∀ depth, Value.ofNode depth outline.node = .ok value

theorem says_text {w : String} (h : Tag.ofPlain w = .text) : Says (.word w) (.text w) := by
  intro depth
  rw [node, h]
  rfl

theorem says_flag {w : String} (h : Tag.ofPlain w = .bool) {b : Bool} (hb : readFlag w = .ok b) :
    Says (.word w) (.bool b) := by
  intro depth
  rw [node, h]
  show ((readFlag w).map Value.bool).mapError _ = _
  rw [hb]
  rfl

theorem says_toString (n : Nat) : Says (.word (toString n)) (.int n) := by
  intro depth
  rw [node, Tag.ofPlain_toString]
  show ((readInteger (toString n)).map Value.int).mapError _ = _
  rw [readInteger_toString]
  rfl

theorem says_nothing : Says (.block []) .null := fun _ => rfl

section Block

variable {α : Type} {name : α → String} {outline : α → Outline} {value : α → Value}

theorem entryNodes_map (xs : List α) (hname : ∀ x ∈ xs, Tag.ofPlain (name x) = .text) :
    entryNodes (xs.map fun x => (name x, outline x))
      = xs.map fun x => (.scalar .text (name x), (outline x).node) := by
  induction xs with
  | nil => rfl
  | cons x xs ih =>
    rw [List.map_cons, entryNodes, hname x List.mem_cons_self,
      ih fun y hy => hname y (List.mem_cons_of_mem x hy)]
    rfl

/-- No text is a merge key, so nothing is merged into the pairs. -/
theorem isMisMerged_texts (xs : List α) :
    Value.isMisMerged (xs.map fun x => (.scalar .text (name x), (outline x).node)) = false := by
  induction xs with
  | nil => rfl
  | cons x xs ih =>
    rw [List.map_cons, Value.isMisMerged, ih]
    rfl

theorem ofPairs_texts (depth : Nat) (xs : List α) (h : ∀ x ∈ xs, (outline x).Says (value x)) :
    Value.ofPairs depth (xs.map fun x => (.scalar .text (name x), (outline x).node))
      = ⟨.ok [], .ok (xs.map fun x => (.text (name x), value x))⟩ := by
  induction xs with
  | nil => rfl
  | cons x xs ih =>
    have hkey : Value.ofKey depth (.scalar .text (name x)) = .ok (.text (name x)) := rfl
    rw [List.map_cons, Value.ofPairs, ih fun y hy => h y (List.mem_cons_of_mem x hy), hkey,
      h x List.mem_cons_self depth]
    rfl

/-- **The value of a block** is the mapping of its entries. -/
theorem says_block {xs : List α} (hne : xs ≠ []) (hname : ∀ x ∈ xs, Tag.ofPlain (name x) = .text)
    (h : ∀ x ∈ xs, (outline x).Says (value x)) :
    Says (.block (xs.map fun x => (name x, outline x)))
      (.map (xs.map fun x => (.text (name x), value x))) := by
  intro depth
  have hnode : (Outline.block (xs.map fun x => (name x, outline x))).node
      = .mapping .mapping (xs.map fun x => (.scalar .text (name x), (outline x).node)) := by
    rw [← entryNodes_map xs hname]
    cases xs with
    | nil => exact absurd rfl hne
    | cons x xs => rfl
  rw [hnode]
  show (if Value.isMisMerged _ then _ else _) = _
  rw [isMisMerged_texts, if_neg (by decide), ofPairs_texts (depth + 1) xs h]
  rfl

theorem says_entry {key : String} (hkey : Tag.ofPlain key = .text) {inner : Outline} {v : Value}
    (h : inner.Says v) : Says (.block [(key, inner)]) (.map [(.text key, v)]) :=
  @says_block Unit (fun _ => key) (fun _ => inner) (fun _ => v) [()] (List.cons_ne_nil _ _)
    (fun _ _ => hkey) fun _ _ => h

theorem toJson_texts (xs : List α) :
    (Value.map (xs.map fun x => (.text (name x), value x))).toJson
      = .ofMembers (xs.map fun x => (name x, (value x).toJson)) := by
  have hmembers : Value.membersToJson (xs.map fun x => (.text (name x), value x))
      = xs.map fun x => (name x, (value x).toJson) := by
    induction xs with
    | nil => rfl
    | cons x xs ih =>
      rw [List.map_cons, Value.membersToJson, ih]
      rfl
  rw [Value.toJson, hmembers]

end Block

end Outline

open Outline

/-- **Reading an outline.** A document in block style is read as the value of its outline. -/
theorem read_entriesText {width : Nat} (hwidth : 0 < width) {entries : List (String × Outline)}
    (hne : entries ≠ []) (hplain : PlainEntries entries) {value : Value}
    (h : (Outline.block entries).Says value) : read (entriesText width 0 entries) = .ok value := by
  unfold read
  rw [readNode?_entriesText hwidth hne hplain]
  show (Value.ofNode 0 (Outline.block entries).node).mapError (·.error) = .ok value
  rw [h 0]
  rfl

end FormSchema.Yaml
