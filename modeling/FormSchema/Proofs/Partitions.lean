import Mathlib.Data.List.Basic
import Mathlib.Data.List.Perm.Basic

/-!
# FormSchema — parts of a list

A list is dealt out to parts: fields to scopes, and issues to severities or paths. Parts that have a
key each are found by filtering, and none of the list is lost or doubled as long as the keys are
different and no entry has another one.
-/

namespace FormSchema

/-- `Partitions parts xs`: every entry of the list is in exactly one of the parts, as often as it is
in the list, and each part has its entries in the order of the list. -/
structure Partitions {α : Type} (parts : List (List α)) (xs : List α) : Prop where
  complete : parts.flatten.Perm xs
  disjoint : parts.Pairwise List.Disjoint
  ordered : ∀ part ∈ parts, part.Sublist xs

variable {α κ : Type} [DecidableEq κ] {key : α → κ}

/-- The entries with the keys of a list are all entries. Induction on the keys: those with the first
key are taken out, and the other keys share the rest. -/
theorem flatMap_filter_perm {keys : List κ} (hkeys : keys.Nodup) {xs : List α}
    (h : ∀ x ∈ xs, key x ∈ keys) :
    (keys.flatMap fun k => xs.filter fun x => key x = k).Perm xs := by
  induction keys generalizing xs with
  | nil =>
    have hnil : xs = [] := List.eq_nil_iff_forall_not_mem.mpr fun x hx =>
      absurd (h x hx) List.not_mem_nil
    rw [hnil]
    exact .refl _
  | cons k keys ih =>
    rw [List.nodup_cons] at hkeys
    have hrest : ∀ x ∈ xs.filter (fun x => !decide (key x = k)), key x ∈ keys := by
      intro x hx
      obtain ⟨hmem, hother⟩ := List.mem_filter.mp hx
      exact (List.mem_cons.mp (h x hmem)).resolve_left (by simpa using hother)
    -- taking the first key out leaves what the other keys have
    have hkeep : ∀ k' ∈ keys, (xs.filter fun x => !decide (key x = k)).filter
          (fun x => decide (key x = k')) = xs.filter fun x => key x = k' := by
      intro k' hk'
      rw [List.filter_filter]
      apply List.filter_congr
      intro x _
      by_cases hx : key x = k'
      · have hne : key x ≠ k := fun heq => hkeys.1 (heq ▸ hx ▸ hk')
        simp [hx, hx ▸ hne]
      · simp [hx]
    have hothers := ih hkeys.2 hrest
    rw [List.flatMap_congr hkeep] at hothers
    rw [List.flatMap_cons]
    exact (hothers.append_left _).trans (List.filter_append_perm _ xs)

/-- Entries are dealt out by their keys. -/
theorem partitions_filter {keys : List κ} (hkeys : keys.Nodup) {xs : List α}
    (h : ∀ x ∈ xs, key x ∈ keys) :
    Partitions (keys.map fun k => xs.filter fun x => key x = k) xs := by
  refine ⟨?_, ?_, ?_⟩
  · rw [← List.flatMap_def]
    exact flatMap_filter_perm hkeys h
  · rw [List.pairwise_map]
    refine hkeys.imp ?_
    intro k k' hne x hx hx'
    have hk : key x = k := by simpa using (List.mem_filter.mp hx).2
    have hk' : key x = k' := by simpa using (List.mem_filter.mp hx').2
    exact hne (hk.symm.trans hk')
  · intro part hpart
    obtain ⟨k, _, rfl⟩ := List.mem_map.mp hpart
    exact List.filter_sublist

end FormSchema
