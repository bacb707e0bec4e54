import FormSchema.Compiler
import FormSchema.Proofs.Layout.Controls
import FormSchema.Proofs.Schema.Members

/-!
# FormSchema — layouts and schemas name the same fields

The layout of a form has a control for each declaration in the root scope, and its schema a property
for each name there. Up to repetitions both list the same names in the same order, since both follow
the contents of the form.

* **`pointers_controls`** — the controls point at the fields of the contents, one for each.
* **`names_properties`** — the schema describes each name at its first occurrence.
* **`layout_names_properties`** — the statement about whole documents.
-/

namespace FormSchema

/-! ## Controls -/

namespace Layout

theorem pointer_injective : Function.Injective pointer := by
  intro name other h
  exact (String.append_right_inj "#/properties/").mp h

theorem fields_root (es : List Element) :
    ((resolve es).fieldsIn .root).map (·.field) = contents es := by
  rw [← fst_guardedContents, ← guardedIn_root, Resolution.guardedIn, List.map_map]
  rfl

/-- The controls of a form point at the fields of its contents, one for each and in order. -/
theorem pointers_controls (form : Form) :
    (controls (ofForm form)).map (·.get? "scope")
      = ((contents form.elements).map fun f => pointer f.name).map fun p => some (.str p) := by
  rw [controls_eq_map_placedControl, ← fields_root, List.map_map, List.map_map, List.map_map]
  apply List.map_congr_left
  intro p _
  exact (controlFor_placedControl p).scope

end Layout

/-! ## Properties -/

namespace Schema

/-- The schema of a form lists the names of its contents, each at its first occurrence. -/
theorem names_properties (form : Form) (version : Json) :
    ∃ properties : Entries Json,
      (ofForm form version).toJson.get? "properties" = some (.obj properties)
        ∧ properties.names = firstOccurrences ((contents form.elements).map (·.name)) := by
  refine ⟨propertiesToJson (members form.elements .root).properties, rfl, ?_⟩
  rw [names_propertiesToJson, members_eq, Members.ofFields, Entries.names_ofList,
    Entries.names_map]

end Schema

/-- **Layout and schema name the same fields.** Read depth first and without repetitions, the
pointers of a form's controls are those to the properties of its schema, in the order of the
properties. -/
theorem layout_names_properties (settings : Settings) (version : Json) (form : Form) :
    ∃ (pointers : List String) (properties : Entries Json),
      (Layout.controls (Layout.ofForm form)).map (·.get? "scope")
          = pointers.map (fun pointer => some (.str pointer))
        ∧ (form.schema settings version).toJson.get? "properties" = some (.obj properties)
        ∧ firstOccurrences pointers = properties.names.map fun name => "#/properties/" ++ name := by
  obtain ⟨properties, hproperties, hnames⟩ :=
    Schema.names_properties form (orSetting version settings.schemaVersion)
  refine ⟨_, properties, Layout.pointers_controls form, hproperties, ?_⟩
  have hmap : (contents form.elements).map (fun f => Layout.pointer f.name)
      = ((contents form.elements).map (·.name)).map Layout.pointer := by
    rw [List.map_map]
    rfl
  rw [hmap, firstOccurrences_map Layout.pointer_injective, hnames]
  rfl

end FormSchema
