import FormSchema.Form.Dump
import FormSchema.Form.Reader

/-!
# FormSchema — drafts of declarations

Data in which some parts are already built. A part that is built is taken as it is where one of its
kind is expected; everywhere else it counts as the data that it would be written as.
-/

namespace FormSchema

open Intake

inductive Draft
  | data (value : Json)
  | list (items : List Draft)
  | record (members : List (String × Draft))
  | element (built : Element)
  | option (built : EnumOption)
  | form (built : Form)

namespace Draft

mutual

def toJson : Draft → Json
  | .data value => value
  | .list items => .arr (itemsToJson items)
  | .record members => .obj (membersToJson members)
  | .element built => built.dump {}
  | .option built => built.toJson
  | .form built => built.dump {}

def itemsToJson : List Draft → List Json
  | [] => []
  | item :: rest => item.toJson :: itemsToJson rest

def membersToJson : List (String × Draft) → List (String × Json)
  | [] => []
  | (key, value) :: rest => (key, value.toJson) :: membersToJson rest

end

def toOption : Draft → OptionDraft
  | .option built => .made built
  | draft => .data draft.toJson

def options? : Draft → Option (List OptionDraft)
  | .list items => some (items.map toOption)
  | draft => OptionDraft.ofJson? draft.toJson

mutual

def readElement : Draft → Checked Element
  | .data value => FormSchema.readElement value
  | .record members => readByTag (tagValue (.obj (membersToJson members))) (readMembers members)
  | .element built => .accepted built
  | _ => .fault .untagged

def readElements : Draft → Checked (List Element)
  | .data value => FormSchema.readElements value
  | .list items => readItems 0 items
  | _ => .fault .notTuple

/-- Reads the elements of a list from a position on. -/
def readItems (position : Nat) : List Draft → Checked (List Element)
  | [] => .accepted []
  | item :: rest =>
    Checked.map (fun p => p.1 :: p.2)
      (Checked.both ((readElement item).under (.index position)) (readItems (position + 1) rest))

def readMembers : List (String × Draft) → List (String × Member)
  | [] => []
  | (key, value) :: rest =>
    (key, ⟨value.toJson, readElements value, value.options?⟩) :: readMembers rest

end

end Draft

end FormSchema
