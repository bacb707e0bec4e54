import FormSchema.Intake.Scalar
import FormSchema.Intake.Record

/-!
# FormSchema — reading the options of a static choice

Options are first checked for making sense, which refuses the whole form when they do not, and then
read. An object of options counts as the list of its keys.
-/

namespace FormSchema

open Intake

namespace OptionDraft

/-- The text, when the draft is one. -/
def text? : OptionDraft → Option String
  | .data (.str s) => some s
  | _ => none

def idAndLabel? : OptionDraft → Option (String × String)
  | .made option => some (option.id, option.label)
  | .data value =>
    match value.getD "id", value.getD "label" with
    | .str id, .str label => some (id, label)
    | _, _ => none

/-- The option that a draft stands for, provided that it has an id and a label and neither is
empty. -/
def option? (draft : OptionDraft) : Option EnumOption := do
  let (id, label) ← draft.idAndLabel?
  if id.isEmpty ∨ label.isEmpty then none else some ⟨id, label⟩

/-- The keys of a draft that an option has no use for. -/
def otherKeys : OptionDraft → List String
  | .data (.obj members) => (Entries.names members).filter (· ∉ ["id", "label"])
  | _ => []

end OptionDraft

/-- The drafts that a value lists: the items of a list or the keys of an object. -/
def OptionDraft.ofJson? : Json → Option (List OptionDraft)
  | .arr items => some (items.map .data)
  | .obj members => some (members.map fun member => .data (.str member.1))
  | _ => none

/-- What makes no sense about a list of options, if anything. -/
def optionsMisconfiguration? (name : String) (drafts : List OptionDraft) :
    Option Misconfiguration :=
  match drafts with
  | [] => some (.noOptions name)
  | first :: _ =>
    -- the first option settles which kind all of them have to be
    if drafts.any fun draft => draft.text?.isSome != first.text?.isSome then
      some (.mixedOptions name)
    else if first.text?.isSome then none
    else
      (drafts.find? fun draft => draft.option?.isNone).map fun draft =>
        .unlabelledOption name draft

/-- The options as given, provided that they make sense. -/
def checkOptions (name : String) (drafts : Option (List OptionDraft)) :
    Except Misconfiguration (List OptionDraft) :=
  match drafts with
  | none => .error (.optionsNotListed name)
  | some drafts =>
    match optionsMisconfiguration? name drafts with
    | some reason => .error reason
    | none => .ok drafts

/-- The faults of options with unknown keys. They are reported for both kinds of options: as plain
values all of them are wrong, as labelled ones those with unknown keys. -/
def optionFaults (drafts : List OptionDraft) : List Fault :=
  let indexed := drafts.zipIdx
  indexed.map (fun (_, i) => ⟨[.key "tuple[str, ...]", .index i], .notText⟩)
    ++ indexed.flatMap fun (draft, i) => draft.otherKeys.map fun key =>
      ⟨[.key "tuple[EnumOption, ...]", .index i, .key key], .unknownKey⟩

def readChoices (name : String) (drafts : Option (List OptionDraft)) : Checked Choices :=
  match checkOptions name drafts with
  | .error reason => .refused reason
  | .ok drafts =>
    match drafts.mapM OptionDraft.text? with
    | some values => .accepted (.plain values)
    | none =>
      if drafts.any fun draft => !draft.otherKeys.isEmpty then .faulty (optionFaults drafts)
      else .accepted (.labelled (drafts.filterMap OptionDraft.option?))

def EnumOption.read : Json → Checked EnumOption
  | .obj members =>
    let keys := [Key.plain "id", Key.plain "label"]
    Checked.withFaults
      (EnumOption.mk <$> required (.plain "id") text members
        <*> required (.plain "label") text members)
      (unknownKeys keys members)
  | _ => .fault (.notRecord "EnumOption")

def EnumOption.toJson (option : EnumOption) : Json :=
  .obj [("id", .str option.id), ("label", .str option.label)]

end FormSchema
