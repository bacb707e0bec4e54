import FormSchema.Form.Element
import FormSchema.Json.Display

/-!
# FormSchema — misconfigured fields

Fields whose attributes are well typed and yet make no sense. Such a fault ends the reading of a
form at once, whatever else is wrong with it.
-/

namespace FormSchema

open Number (Limit)

/-- An option as a declaration gives it: data, or an option that is already made. -/
inductive OptionDraft
  | data (value : Json)
  | made (option : EnumOption)

def OptionDraft.display : OptionDraft → String
  | .data value => value.display
  | .made option => s!"EnumOption(id={Text.quoted option.id}, label={Text.quoted option.label})"

/-- What makes no sense about a field; each case starts with the field's name. -/
inductive Misconfiguration
  | optionsNotListed (name : String)
  | noOptions (name : String)
  | mixedOptions (name : String)
  | unlabelledOption (name : String) (received : OptionDraft)
  | emptyRange (name : String) (min max : Limit)
  | negativeBound (name : String)
  | emptyBounds (name : String) (min max : Int)

def Misconfiguration.message : Misconfiguration → String
  | .optionsNotListed name =>
    s!"field.enum(\"{name}\"): options must be a list of strings or \x7bid, label\x7d objects"
  | .noOptions name => s!"field.enum(\"{name}\"): options must not be empty"
  | .mixedOptions name =>
    s!"field.enum(\"{name}\"): options must be all strings or all objects with \x7bid, label\x7d, "
      ++ "not mixed. Received mixed types in options array."
  | .unlabelledOption name received =>
    s!"field.enum(\"{name}\"): object options must have non-empty string \"id\" and \"label\" "
      ++ s!"properties. Received: {received.display}"
  | .emptyRange name min max =>
    s!"field.number(\"{name}\"): min ({min.toJson.display}) must not exceed max "
      ++ s!"({max.toJson.display})"
  | .negativeBound name => s!"field.array(\"{name}\"): item bounds must not be negative"
  | .emptyBounds name min max =>
    s!"field.array(\"{name}\"): minItems ({min}) must not exceed maxItems ({max})"

end FormSchema
