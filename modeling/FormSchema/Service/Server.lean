import FormSchema.Json.Writer
import FormSchema.Policy.Source
import FormSchema.Service.Answer

/-!
# FormSchema — the server

A server has one policy for all calls that bring none of their own. A call is answered with text:
the tool's answer as JSON, laid out as the settings say.
-/

namespace FormSchema.Service

structure Server where
  policy : Option Policy

structure Reply where
  isError : Bool
  text : String
  deriving DecidableEq, Repr

/-- An indent setting that no text can be laid out by. -/
structure IndentError where
  typeWord : String
  deriving DecidableEq, Repr

def IndentError.message (e : IndentError) : String :=
  s!"can't multiply sequence by non-int of type '{e.typeWord}'"

def blanks (count : Int) : String := String.ofList (List.replicate count.toNat ' ')

/-- The layout that an indent setting asks for: a number of blanks, or a text, for each level. -/
def layoutFor : Json → Except IndentError Json.Layout
  | .null => .ok .oneLine
  | .int count => .ok (.lines (blanks count))
  | .bool flag => .ok (.lines (blanks flag.toInt))
  | .str unit => .ok (.lines unit)
  | value => .error ⟨value.typeWord⟩

namespace Server

/-- Creates a server with a policy, or with the one found in the workspace. -/
def create (settings : Settings) (workspace : Workspace) (policy : Option Policy) :
    Logged PolicyError Server := do
  match policy with
  | some policy => return ⟨some policy⟩
  | none =>
    let loaded ← Policy.loadHere settings workspace
    return ⟨if loaded.path.isSome then some loaded.policy else none⟩

def answer (server : Server) (settings : Settings) (name : String) (arguments : Json) :
    List LogRecord × Json :=
  match Tool.ofName? name with
  | none => ([], failure s!"Unknown tool: {name}")
  | some tool => tool.answer settings server.policy arguments

/-- Replies to a call. Inputs that do not fit the tool are refused before anything is logged. -/
def call (server : Server) (settings : Settings) (name : String) (arguments : Entries Json) :
    List LogRecord × Reply :=
  match (Tool.ofName? name).bind (·.violation? arguments) with
  | some violation => ([], ⟨true, s!"Input validation error: {violation}"⟩)
  | none =>
    let (log, value) := server.answer settings name (.obj arguments)
    -- an answer that cannot be laid out was worked out all the same, and logged
    let records := ⟨.info, .server, s!"Tool call: {name}"⟩ :: log
    match layoutFor settings.indent with
    | .ok layout => (records, ⟨false, value.write layout⟩)
    | .error e => (records, ⟨true, e.message⟩)

end Server

end FormSchema.Service
