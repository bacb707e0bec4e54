import FormSchema.Proofs.Strict.Documents
import FormSchema.Proofs.Strict.Policy
import FormSchema.Proofs.Strict.Structure

/-!
# FormSchema — loaded forms have all that the passes look up

* **`passes_find_of_load`** — a loaded form makes sense at every depth, and none of the passes over
  it ends at a look-up that finds nothing.
-/

namespace FormSchema

/-- **Nothing partial is left for the passes.** Whatever the data, a form that was loaded from it
makes sense at every depth: names are not empty, static choices have options of one kind, limits and
bounds leave room for a value. So the structure check, both compilers and the check of any policy
find everything that they look up, and give what the total ones give. -/
theorem passes_find_of_load {data : Json} {form : Form} (h : Form.load data = .ok form)
    (policy : Policy) (version : Json) :
    form.WellFormed
      ∧ Strict.checkStructure form = .ok form.checkStructure
      ∧ Strict.schema form version = .ok (Schema.ofForm form version)
      ∧ Strict.layout form = .ok (Layout.ofForm form)
      ∧ Strict.check policy form = .ok (policy.check form) := by
  have hform : form.WellFormed := wellFormed_of_load h
  exact ⟨hform, Strict.checkStructure_eq form, Strict.schema_eq hform version,
    Strict.layout_eq form, Strict.check_eq policy form⟩

/-- Bounds that are written as a truth value and as a text, and an object of options that stands for
the list of its keys, are checked as what they are read as. -/
theorem passes_find_of_load_coerced :
    let form : Form := ⟨[
      .array ⟨"rows", none, false⟩ ⟨some 1, some 2⟩
        [.leaf ⟨"n", none, false⟩ (.number (some (.int 1)) none),
          .conditional ⟨"n", .int 1⟩
            [.leaf ⟨"c", none, false⟩ (.staticEnum (.plain ["x", "y"]))]]]⟩
    let data : Json := .arr [.obj [("type", .str "field"), ("kind", .str "array"),
      ("name", .str "rows"), ("minItems", .bool true), ("maxItems", .str "2"),
      ("items", .arr [
        .obj [("type", .str "field"), ("kind", .str "number"), ("name", .str "n"),
          ("min", .int 1)],
        .obj [("type", .str "conditional"), ("field", .str "n"), ("value", .int 1),
          ("elements", .arr [.obj [("type", .str "field"), ("kind", .str "static_enum"),
            ("name", .str "c"), ("options", .obj [("x", .null), ("y", .null)])]])]])]]
    Form.load data = .ok form ∧ form.WellFormed
      ∧ Strict.schema form .null = .ok (Schema.ofForm form .null) := by
  intro form data
  have hload : Form.load data = .ok form := rfl
  obtain ⟨hform, _, hschema, _, _⟩ := passes_find_of_load hload {} .null
  exact ⟨hload, hform, hschema⟩

end FormSchema
