import FormSchema.Form.Scope
import FormSchema.Issue

/-!
# FormSchema — the structure of a form

Two things can be wrong with how a form hangs together: a name that is declared more than once in a
scope, which is a warning, and a conditional that tests a field its scope does not declare, which
is an error. It does not matter where in the scope the field is declared.
-/

namespace FormSchema

inductive StructuralFault
  | duplicateName (name : String) (scope : Scope) (paths : List String)
  | unknownField (name : String) (scope : Scope) (path : String)
  deriving DecidableEq, Repr

/-- The issue that reports a problem. A repeated name is reported at its first occurrence. -/
def StructuralFault.issue : StructuralFault → Issue
  | .duplicateName name scope paths =>
    { severity := .warning
      message := s!"Duplicate field name \"{name}\" found {paths.length} times in "
        ++ s!"{scope.describe} at: " ++ ", ".intercalate paths
      path := paths.headD ""
      code := some "DUPLICATE_FIELD_NAME"
      category := none
      fieldName := some name }
  | .unknownField name scope path =>
    { severity := .error
      message := s!"Conditional references non-existent field \"{name}\" in {scope.describe}"
      path
      code := some "UNKNOWN_CONDITIONAL_FIELD"
      category := none
      fieldName := some name }

namespace Resolution

/-- The names that occur more than once in a scope, in order of first occurrence. -/
def duplicatesIn (r : Resolution) (scope : Scope) : List StructuralFault :=
  let paths := Entries.group ((r.fieldsIn scope).map fun p => (p.field.name, p.path))
  (paths.filter fun entry => 2 ≤ entry.2.length).map fun entry =>
    .duplicateName entry.1 scope entry.2

def duplicates (r : Resolution) : List StructuralFault := r.scopes.flatMap r.duplicatesIn

/-- Whether a conditional tests a field of its scope. -/
def declares (r : Resolution) (placement : ConditionalPlacement) : Bool :=
  placement.test.field ∈ r.namesIn placement.scope

/-- The conditionals that test a field their scope does not declare. -/
def unknownFields (r : Resolution) : List StructuralFault :=
  (r.conditionals.filter fun placement => !r.declares placement).map fun placement =>
    .unknownField placement.test.field placement.scope placement.path

end Resolution

/-- All structural problems of a list of elements: repeated names first, scope by scope. -/
def structuralFaults (elements : List Element) : List StructuralFault :=
  (resolve elements).duplicates ++ (resolve elements).unknownFields

def Form.checkStructure (form : Form) : Report :=
  .ofIssues ((structuralFaults form.elements).map (·.issue))

end FormSchema
