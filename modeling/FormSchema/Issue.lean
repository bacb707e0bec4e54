import FormSchema.Form.Dump
import FormSchema.Intake.Scalar
import FormSchema.Intake.Record

/-!
# FormSchema — issues and reports

Checking a form gives a report: the issues found, and whether the form is valid in spite of them.
Only errors make it invalid; warnings do not.
-/

namespace FormSchema

open Intake

inductive Severity
  | warning
  | error
  deriving DecidableEq, Repr

def Severity.name : Severity → String
  | .warning => "warning"
  | .error => "error"

structure Issue where
  severity : Severity
  message : String
  path : String
  code : Option String
  category : Option String
  fieldName : Option String
  deriving DecidableEq, Repr

namespace Issue

/-- Whether the issue is an error. -/
def isError (i : Issue) : Bool := i.severity == .error

/-- Reads an issue; other members are ignored. -/
def read : Json → Checked Issue
  | .obj members =>
    Issue.mk
      <$> required (.plain "severity") (word [("warning", .warning), ("error", .error)]) members
      <*> required (.plain "message") text members
      <*> optional (.plain "path") "" text members
      <*> optional (.plain "code") none (orNull text) members
      <*> optional (.plain "category") none (orNull text) members
      <*> optional (.plain "field_name") none (orNull text) members
  | _ => .fault (.notRecord "ValidationIssue")

def dump (style : DumpStyle) (i : Issue) : Json :=
  .obj ([("severity", .str i.severity.name), ("message", .str i.message), ("path", .str i.path)]
    ++ style.member "code" (.ofText? i.code)
    ++ style.member "category" (.ofText? i.category)
    ++ style.member "field_name" (.ofText? i.fieldName))

end Issue

def readIssues : Json → Checked (List Issue)
  | .arr items => Checked.each Issue.read items
  | _ => .fault .notList

structure Report where
  valid : Bool
  issues : List Issue
  deriving DecidableEq, Repr

namespace Report

/-- The report on some issues: valid when none of them is an error. -/
def ofIssues (issues : List Issue) : Report := ⟨issues.all fun i => !i.isError, issues⟩

theorem valid_ofIssues_iff (issues : List Issue) :
    (ofIssues issues).valid = true ↔ ∀ i ∈ issues, i.severity ≠ .error := by
  simp [ofIssues, Issue.isError]

def errors (r : Report) : List Issue := r.issues.filter (·.isError)

def warnings (r : Report) : List Issue := r.issues.filter fun i => !i.isError

def errorCount (r : Report) : Nat := r.errors.length

def merge (r s : Report) : Report := ofIssues (r.issues ++ s.issues)

def byPath (r : Report) : Entries (List String) :=
  Entries.group (r.issues.map fun i => (i.path, i.message))

/-- Reads a report; other members are ignored. -/
def read : Json → Checked Report
  | .obj members =>
    Report.mk <$> required (.plain "valid") flag members
      <*> optional (.plain "issues") [] readIssues members
  | _ => .fault (.notRecord "ValidationResult")

def dump (style : DumpStyle) (r : Report) : Json :=
  .obj [("valid", .bool r.valid), ("issues", .arr (r.issues.map (·.dump style)))]

end Report

end FormSchema
