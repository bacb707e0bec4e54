import FormSchema.Issue
import FormSchema.Proofs.Entries
import FormSchema.Proofs.Partitions

/-!
# FormSchema — merging reports

Reports on parts of the work are merged two by two. Whatever is merged with what first, and wherever
reports without issues come in between, the outcome is the report on all issues in their order, and
every view of it has each of them.

* **`Merging`** — reports merged in some bracketing; `report_eq_ofIssues` says what comes of it.
* **`FirstSeen`** — the members of a list in the order in which they are first seen.
* **`Report.KeepsIssues`** — the views of a report lose nothing and change no order.
* **`keepsIssues_ofIssues`** — so it is for every report that is made from its issues.
* **`reports_merge`** — the statement about all mergings.
-/

namespace FormSchema

/-! ## Bracketings -/

/-- Reports that are merged two by two: each on issues of its own, or without issues. -/
inductive Merging
  | blank
  | single (issues : List Issue)
  | pair (first second : Merging)

namespace Merging

def report : Merging → Report
  | blank => .ofIssues []
  | single issues => .ofIssues issues
  | pair first second => first.report.merge second.report

/-- The lists of issues whose reports are merged, in order. -/
def groups : Merging → List (List Issue)
  | blank => []
  | single issues => [issues]
  | pair first second => first.groups ++ second.groups

/-- The bracketing does not count: what is merged is the report on all issues. -/
theorem report_eq_ofIssues (m : Merging) : m.report = .ofIssues m.groups.flatten := by
  induction m with
  | blank => rfl
  | single issues =>
    rw [report, groups, List.flatten_singleton]
  | pair first second ihfirst ihsecond =>
    rw [report, groups, ihfirst, ihsecond, List.flatten_append]
    rfl

end Merging

/-! ## Views of a report -/

/-- `FirstSeen xs ys`: the members of `xs`, in the order in which they are first seen there. -/
structure FirstSeen {α : Type} [DecidableEq α] (xs ys : List α) : Prop where
  mem_iff : ∀ x, x ∈ ys ↔ x ∈ xs
  ordered : ys.Pairwise fun x y => xs.idxOf x < xs.idxOf y

theorem firstSeen_firstOccurrences {α : Type} [DecidableEq α] (xs : List α) :
    FirstSeen xs (firstOccurrences xs) :=
  ⟨fun _ => mem_firstOccurrences, pairwise_idxOf_firstOccurrences xs⟩

/-- The views of a report have all its issues, each once and in order: those by severity, and the
messages by path. -/
structure Report.KeepsIssues (r : Report) : Prop where
  valid_iff : r.valid = true ↔ r.errorCount = 0
  separated : Partitions [r.errors, r.warnings] r.issues
  errors : ∀ i ∈ r.errors, i.severity = .error
  warnings : ∀ i ∈ r.warnings, i.severity = .warning
  paths : FirstSeen (r.issues.map (·.path)) r.byPath.names
  messages : ∀ entry ∈ r.byPath,
    entry.2 = (r.issues.filter fun i => i.path = entry.1).map (·.message)
  total : (r.byPath.map fun entry => entry.2.length).sum = r.issues.length

namespace Report

theorem warnings_eq (r : Report) :
    r.warnings = r.issues.filter fun i => i.severity = .warning := by
  unfold warnings
  apply List.filter_congr
  intro i _
  unfold Issue.isError
  cases i.severity <;> rfl

theorem partitions_errors_warnings (r : Report) : Partitions [r.errors, r.warnings] r.issues := by
  have hkeys : [Severity.error, .warning].Nodup := by decide
  have hseverity : ∀ i ∈ r.issues, i.severity ∈ [Severity.error, .warning] := by
    intro i _
    cases i.severity <;> decide
  rw [warnings_eq]
  exact partitions_filter hkeys hseverity

theorem valid_ofIssues_iff_errorCount (issues : List Issue) :
    (ofIssues issues).valid = true ↔ (ofIssues issues).errorCount = 0 := by
  unfold errorCount errors
  rw [List.length_eq_zero_iff, List.filter_eq_nil_iff]
  simp [ofIssues]

/-- The messages at each path are those of the issues there. -/
theorem byPath_eq (r : Report) :
    r.byPath = (firstOccurrences (r.issues.map (·.path))).map fun path =>
      (path, (r.issues.filter fun i => i.path = path).map (·.message)) := by
  have hvalues (path : String) :
      Entries.valuesAt (r.issues.map fun i => (i.path, i.message)) path
        = (r.issues.filter fun i => i.path = path).map (·.message) := by
    rw [Entries.valuesAt, List.filter_map, List.map_map]
    rfl
  rw [byPath, Entries.group_eq, List.map_map]
  simp only [hvalues]
  rfl

theorem names_byPath (r : Report) :
    r.byPath.names = firstOccurrences (r.issues.map (·.path)) := by
  rw [byPath_eq]
  exact (Entries.names_map id _ _).trans (List.map_id _)

/-- There are as many messages as issues, since every issue is at one of the paths. -/
theorem total_byPath (r : Report) :
    (r.byPath.map fun entry => entry.2.length).sum = r.issues.length := by
  have hpaths := nodup_firstOccurrences (r.issues.map (·.path))
  have hmem : ∀ i ∈ r.issues, i.path ∈ firstOccurrences (r.issues.map (·.path)) := by
    intro i hi
    exact mem_firstOccurrences.mpr (List.mem_map_of_mem hi)
  calc (r.byPath.map fun entry => entry.2.length).sum
      = ((firstOccurrences (r.issues.map (·.path))).map fun path =>
          (r.issues.filter fun i => i.path = path).length).sum := by
        rw [byPath_eq, List.map_map]
        simp only [Function.comp_def, List.length_map]
    _ = ((firstOccurrences (r.issues.map (·.path))).flatMap fun path =>
          r.issues.filter fun i => i.path = path).length := by
        rw [List.length_flatMap]
    _ = r.issues.length := (flatMap_filter_perm hpaths hmem).length_eq

theorem keepsIssues_ofIssues (issues : List Issue) : KeepsIssues (ofIssues issues) where
  valid_iff := valid_ofIssues_iff_errorCount issues
  separated := partitions_errors_warnings _
  errors i hi := by
    obtain ⟨_, herror⟩ := List.mem_filter.mp hi
    exact of_decide_eq_true herror
  warnings i hi := by
    rw [warnings_eq] at hi
    obtain ⟨_, hwarning⟩ := List.mem_filter.mp hi
    exact of_decide_eq_true hwarning
  paths := by
    rw [names_byPath]
    exact firstSeen_firstOccurrences _
  messages entry hentry := by
    rw [byPath_eq] at hentry
    obtain ⟨path, _, rfl⟩ := List.mem_map.mp hentry
    rfl
  total := total_byPath _

end Report

/-- **Merging reports loses nothing.** In any bracketing, and with reports without issues put in
anywhere, merging gives the report on all issues in order. It is valid exactly if it has no errors,
its errors and warnings make up its issues, and by path it has all messages, under the paths in the
order in which they are first seen. -/
theorem reports_merge (m : Merging) :
    m.report = .ofIssues m.groups.flatten ∧ m.report.KeepsIssues := by
  refine ⟨m.report_eq_ofIssues, ?_⟩
  rw [m.report_eq_ofIssues]
  exact Report.keepsIssues_ofIssues _

end FormSchema
