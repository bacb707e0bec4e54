import FormSchema.Compiler
import FormSchema.Form.Reader
import FormSchema.Service.Tool

/-!
# FormSchema — answering tool calls

A tool answers every call. Whatever stops it, from text that is no JSON to a form that is rejected,
becomes an answer that tells the reason, and the reason is logged.
-/

namespace FormSchema.Service

open Intake

inductive ToolError
  | form (error : LoadError)
  | policy (error : RecordError)
  | mode (error : ModeError)
  | rejected (rejection : Rejection)

def ToolError.message : ToolError → String
  | .form error => error.message
  | .policy error => error.message
  | .mode error => error.message
  | .rejected rejection => rejection.message

def failure (message : String) : Json := .obj [("error", .bool true), ("message", .str message)]

/-- The policy for a call: its own one if it has one, and else the one of the service. -/
def policyFor (usual : Option Policy) (arguments : Json) :
    Except RecordError (Option Policy) :=
  match arguments.getD "constraints" with
  | .null => .ok usual
  | value => ((Policy.read value).toExcept "ConstraintConfig").map some

def formIn (arguments : Json) : Except ToolError Form :=
  (Form.load (arguments.getD "formspec")).mapError .form

def buildSchemas (settings : Settings) (usual : Option Policy) (arguments : Json) :
    Logged ToolError Json := do
  let form ← Logged.ofExcept (formIn arguments)
  let policy ← Logged.ofExcept ((policyFor usual arguments).mapError .policy)
  let compiler ← Logged.ofExcept
    ((Compiler.make settings (arguments.getD "validation_mode") .null policy
      (arguments.getD "name").asName).mapError .mode)
  let output ← (compiler.compile form).mapError .rejected
  return output.dump {}

def validateForm (usual : Option Policy) (arguments : Json) : Logged ToolError Json := do
  let form ← Logged.ofExcept (formIn arguments)
  let policy ← Logged.ofExcept ((policyFor usual arguments).mapError .policy)
  let compiler : Compiler := ⟨.skip, .null, policy, none⟩
  return (compiler.check form).dump {}

def Tool.run (tool : Tool) (settings : Settings) (usual : Option Policy) (arguments : Json) :
    Logged ToolError Json :=
  match tool with
  | .build => buildSchemas settings usual arguments
  | .validate => validateForm usual arguments

/-- The answer of a tool to a call, and what is logged on the way. -/
def Tool.answer (tool : Tool) (settings : Settings) (usual : Option Policy) (arguments : Json) :
    List LogRecord × Json :=
  let run := tool.run settings usual arguments
  match run.outcome with
  | .ok value => (run.log, value)
  | .error e =>
    let message := s!"{tool.name} failed: {e.message}"
    (run.log ++ [⟨.error, .server, message⟩], failure e.message)

end FormSchema.Service
