import FormSchema.Intake.Checked
import FormSchema.Entries

/-!
# FormSchema — reading records

The attributes of a record are read one by one from the members of an object. An attribute may have
two spellings; the documented one counts first. Faults are reported under the spelling that was
found, or the documented one when the attribute is missing.
-/

namespace FormSchema.Intake

structure Key where
  name : String
  alternative : Option String := none

def Key.plain (name : String) : Key := ⟨name, none⟩

variable {α β : Type}

/-- The spelling in use and the value found there. -/
def Key.find? (key : Key) (members : Entries α) : Option (String × α) :=
  match Entries.get? members key.name with
  | some value => some (key.name, value)
  | none => key.alternative.bind fun name => (Entries.get? members name).map (name, ·)

def required (key : Key) (check : α → Checked β) (members : Entries α) : Checked β :=
  match key.find? members with
  | some (name, value) => (check value).under (.key name)
  | none => .faulty [⟨[.key key.name], .missing⟩]

/-- An attribute that has a value of its own when it is not there. -/
def optional (key : Key) (absent : β) (check : α → Checked β) (members : Entries α) : Checked β :=
  match key.find? members with
  | some (name, value) => (check value).under (.key name)
  | none => .accepted absent

/-- The members that no attribute has read, in their order. -/
def unread (keys : List Key) (members : Entries α) : List String :=
  let used := keys.filterMap fun key => (key.find? members).map (·.1)
  (Entries.names members).filter (· ∉ used)

/-- The faults of a closed record: its unread members. -/
def unknownKeys (keys : List Key) (members : Entries α) : List Fault :=
  (unread keys members).map fun name => ⟨[.key name], .unknownKey⟩

end FormSchema.Intake
