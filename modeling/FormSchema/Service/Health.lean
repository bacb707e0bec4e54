import FormSchema.Json.Writer
import FormSchema.Service.Tool

/-!
# FormSchema — the health page

The one page of the service that is not part of its protocol tells that the service is there, and
which tools it has.
-/

namespace FormSchema.Service

structure Page where
  status : Nat
  body : String
  deriving DecidableEq, Repr

def healthStatus : Json :=
  .obj [("status", .str "healthy"), ("service", .str "formspec-mcp"), ("transport", .str "sse"),
    ("tools", .ofStrings (Tool.all.map Tool.name))]

def healthPath : String := "/health"

def withoutSlashes (path : String) : String :=
  String.ofList ((path.toList.reverse.dropWhile (· == '/')).reverse)

/-- The page for a request. The health page can only be read, and with slashes behind its path the
reader is sent on to it. -/
def page (method path : String) : Page :=
  if path == healthPath then
    if method == "GET" || method == "HEAD" then ⟨200, healthStatus.write .compact⟩
    else ⟨405, "Method Not Allowed"⟩
  else if withoutSlashes path == healthPath then ⟨307, ""⟩
  else ⟨404, "Not Found"⟩

end FormSchema.Service
