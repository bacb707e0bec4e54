import FormSchema.Compiler
import FormSchema.Proofs.Form.Erasure
import FormSchema.Proofs.Schema.Members

/-!
# FormSchema — wrappers are transparent to schemas

The schema of a form is the schema of the form without its groups and conditionals, down to the
order of properties and required names, and also where wrapped fields repeat names.

* **`ofFields_eraseAll`** — erasing wrappers changes nothing about the members of any scope.
* **`schema_transparent`** — the statement about whole forms.
-/

namespace FormSchema

namespace Schema

mutual

theorem ofFields_erase : ∀ e : Element,
    Members.ofFields (contents e.erase) = Members.ofFields e.content
  | .leaf head kind => rfl
  | .array head bounds items => by
    -- one field on either side; its items have the same members
    have hitems : members (eraseAll items) .root = members items .root := by
      rw [members_eq, members_eq, ofFields_eraseAll items]
    rw [Element.erase, contents_cons, contents_nil, List.append_nil, Element.content,
      Element.content, Members.ofFields_singleton, Members.ofFields_singleton, fieldNode_array,
      fieldNode_array, hitems]
  | .object head properties => by
    have hprops : members (eraseAll properties) .root = members properties .root := by
      rw [members_eq, members_eq, ofFields_eraseAll properties]
    rw [Element.erase, contents_cons, contents_nil, List.append_nil, Element.content,
      Element.content, Members.ofFields_singleton, Members.ofFields_singleton, fieldNode_object,
      fieldNode_object, hprops]
  | .group label elements => by
    rw [Element.erase, Element.content, ofFields_eraseAll elements]
  | .conditional test elements => by
    rw [Element.erase, Element.content, ofFields_eraseAll elements]

/-- The contents of a scope have the same members with and without wrappers, at every depth. -/
theorem ofFields_eraseAll : ∀ es : List Element,
    Members.ofFields (contents (eraseAll es)) = Members.ofFields (contents es)
  | [] => rfl
  | e :: es => by
    rw [eraseAll_cons, contents_append, contents_cons, Members.ofFields_append,
      Members.ofFields_append, ofFields_erase e, ofFields_eraseAll es]

end

end Schema

theorem Form.schema_erase (form : Form) (settings : Settings) (version : Json) :
    form.erase.schema settings version = form.schema settings version := by
  rw [Form.schema, Form.schema, Schema.ofForm, Schema.ofForm, Schema.compile, Schema.compile,
    Schema.members_eq, Schema.members_eq, Form.erase, Schema.ofFields_eraseAll]

/-- **Wrappers are transparent.** A form has the schema of its erasure, for every version; so forms
of one erasure have one schema, and among them are all forms that come from one another by wrapping
runs of siblings. Nodes are compared as they are, with the order of their properties and of their
required names. -/
theorem schema_transparent (settings : Settings) (version : Json) (form : Form) :
    form.schema settings version = form.erase.schema settings version
      ∧ (∀ other : Form, other.erase = form.erase →
          other.schema settings version = form.schema settings version)
      ∧ (∀ other : Form, Wraps form.elements other.elements →
          other.schema settings version = form.schema settings version) := by
  have hsame : ∀ other : Form, other.erase = form.erase →
      other.schema settings version = form.schema settings version := by
    intro other h
    rw [← other.schema_erase, h, form.schema_erase]
  refine ⟨(form.schema_erase settings version).symm, hsame, ?_⟩
  intro other h
  apply hsame
  rw [Form.erase, Form.erase, eraseAll_eq_of_wraps h]

/-- A name that is declared again inside two wrappers, and a wrapper inside an array. -/
theorem schema_transparent_repeated_name :
    let first : Element := .leaf ⟨"a", none, true⟩ (.text none)
    let second : Element := .leaf ⟨"a", some "A", false⟩ (.number (some (.int 0)) none)
    let flag : Element := .leaf ⟨"b", none, false⟩ .boolean
    let rows (items : List Element) : Element := .array ⟨"rows", none, true⟩ ⟨some 1, none⟩ items
    let flat : Form := ⟨[first, rows [flag, first], flag, second]⟩
    let wrapped : Form :=
      ⟨[first, rows [.group "Row" [flag], first],
        .group "More" [flag, .conditional ⟨"b", .bool true⟩ [second]]]⟩
    (wrapped.erase = flat.erase ∧ wrapped.schema {} .null = flat.schema {} .null)
      ∧ Wraps flat.elements wrapped.elements
      ∧ wrapped.schema {} (.str "later") = flat.schema {} (.str "later") := by
  intro first second flag rows flat wrapped
  have hrow : Wraps [flag, first] [.group "Row" [flag], first] :=
    .among [] [first] (.group "Row" [flag])
  have hinner : Wraps [flag, second] [flag, .conditional ⟨"b", .bool true⟩ [second]] :=
    .among [flag] [] (.conditional ⟨"b", .bool true⟩ [second])
  have hmore : Wraps [flag, second]
      [.group "More" [flag, .conditional ⟨"b", .bool true⟩ [second]]] :=
    hinner.trans (.group "More" _)
  have hwraps : Wraps flat.elements wrapped.elements :=
    (Wraps.among [first] [flag, second] (.inItems _ _ hrow)).trans
      (.among [first, rows [.group "Row" [flag], first]] [] hmore)
  have herase : wrapped.erase = flat.erase := rfl
  exact ⟨⟨herase, (schema_transparent {} .null flat).2.1 wrapped herase⟩, hwraps,
    (schema_transparent {} (.str "later") flat).2.2 wrapped hwraps⟩

end FormSchema
