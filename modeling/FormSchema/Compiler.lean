import FormSchema.Layout
import FormSchema.Mode
import FormSchema.Policy.Check
import FormSchema.Settings

/-!
# FormSchema — compiling forms

Compiling a form checks it, as the mode asks for, and writes its schema and its layout. What is
written does not depend on the issues found.
-/

namespace FormSchema

open Intake

structure Compiler where
  mode : Mode
  version : Json
  policy : Option Policy
  formName : Option String

/-- The issues of a form together with its schema and its layout. -/
structure Output where
  valid : Bool
  issues : List Issue
  schema : Json
  layout : Json

namespace Output

/-- Reads an output; other members are ignored. -/
def read : Json → Checked Output
  | .obj members =>
    Output.mk <$> optional (.plain "valid") true flag members
      <*> optional (.plain "issues") [] readIssues members
      <*> required ⟨"jsonSchema", some "json_schema"⟩ (fun v => .obj <$> mapping v) members
      <*> required ⟨"uiSchema", some "ui_schema"⟩ (fun v => .obj <$> mapping v) members
  | _ => .fault (.notRecord "BuildResult")

def dump (style : DumpStyle) (o : Output) : Json :=
  .obj ([("valid", .bool o.valid), ("issues", .arr (o.issues.map (·.dump style)))]
    ++ style.spelled "jsonSchema" "json_schema" o.schema
    ++ style.spelled "uiSchema" "ui_schema" o.layout)

def formConfig (o : Output) : Json := .obj [("schema", o.schema), ("uiSchema", o.layout)]

end Output

/-- The first of two values that counts as given, or else the second. -/
def orSetting (given setting : Json) : Json := if given.isSet then given else setting

/-- The schema of a form for a version; the settings name the usual one. -/
def Form.schema (form : Form) (settings : Settings) (version : Json) : Schema.Node :=
  Schema.ofForm form (orSetting version settings.schemaVersion)

namespace Compiler

/-- A compiler for a mode and a version. The settings stand in for what is not given. -/
def make (settings : Settings) (mode version : Json) (policy : Option Policy)
    (formName : Option String) : Except ModeError Compiler := do
  let mode ← Mode.ofJson (match mode with
    | .null => settings.validationMode
    | mode => mode)
  return ⟨mode, orSetting version settings.schemaVersion, policy, formName⟩

/-- The report on a form: its structure, and then its use of restricted features. -/
def check (c : Compiler) (form : Form) : Report :=
  match c.policy with
  | none => form.checkStructure
  | some policy => form.checkStructure.merge (policy.check form)

def compile (c : Compiler) (form : Form) : Logged Rejection Output := do
  let report ← match c.mode with
    -- a form that is not checked counts as valid
    | .skip => pure ⟨true, []⟩
    | mode => (c.check form).enforce mode c.formName
  return {
    valid := report.valid
    issues := report.issues
    schema := (Schema.ofForm form c.version).toJson
    layout := Layout.ofForm form }

end Compiler

def Form.build (form : Form) (settings : Settings) (mode : Json) (policy : Option Policy) :
    Logged ValidationError Output := do
  let compiler ← Logged.ofExcept ((Compiler.make settings mode .null policy none).mapError .mode)
  (compiler.compile form).mapError .rejected

end FormSchema
