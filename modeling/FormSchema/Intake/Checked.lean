import FormSchema.Form.Misconfiguration
import FormSchema.Intake.Fault

/-!
# FormSchema — checked readings

Reading data gives a value, or all the faults found, or the one misconfiguration that ended it.
Readings are combined side by side and not in sequence: the faults of all parts add up in order,
and the first misconfiguration of any part is the misconfiguration of the whole.
-/

namespace FormSchema.Intake

inductive Checked (α : Type)
  | accepted (value : α)
  | faulty (faults : List Fault)
  | refused (reason : Misconfiguration)

namespace Checked

variable {α β : Type}

def fault (cause : Cause) : Checked α := .faulty [.here cause]

/-- The value, if the reading was accepted. -/
def value? : Checked α → Option α
  | .accepted value => some value
  | _ => none

def map (f : α → β) : Checked α → Checked β
  | .accepted value => .accepted (f value)
  | .faulty faults => .faulty faults
  | .refused reason => .refused reason

def both : Checked α → Checked β → Checked (α × β)
  | .refused reason, _ => .refused reason
  | _, .refused reason => .refused reason
  | .faulty faults, .faulty more => .faulty (faults ++ more)
  | .faulty faults, .accepted _ => .faulty faults
  | .accepted _, .faulty faults => .faulty faults
  | .accepted a, .accepted b => .accepted (a, b)

instance : Functor Checked := ⟨map, fun a => map fun _ => a⟩

instance : Pure Checked := ⟨.accepted⟩

instance : Seq Checked := ⟨fun f x => map (fun p => p.1 p.2) (both f (x ()))⟩

/-- Reports the faults of a reading one step further out. -/
def under (step : Step) : Checked α → Checked α
  | .faulty faults => .faulty (faults.map (·.under step))
  | other => other

/-- Looks at the value of an accepted reading once more. -/
def verify (reading : Checked α) (check : α → Option Misconfiguration) : Checked α :=
  match reading with
  | .accepted value =>
    match check value with
    | none => .accepted value
    | some reason => .refused reason
  | other => other

def withFaults (reading : Checked α) (faults : List Fault) : Checked α :=
  map (·.1) (both reading (if faults.isEmpty then .accepted () else .faulty faults))

/-- Reads the items of a list, each at its position counted from `start`. -/
def eachFrom (check : α → Checked β) (start : Nat) : List α → Checked (List β)
  | [] => .accepted []
  | item :: rest =>
    map (fun p => p.1 :: p.2)
      (both ((check item).under (.index start)) (eachFrom check (start + 1) rest))

def each (check : α → Checked β) (items : List α) : Checked (List β) := eachFrom check 0 items

end Checked

/-- Why a titled record could not be read. -/
inductive RecordError
  | invalid (title : String) (faults : List Fault)
  | misconfigured (reason : Misconfiguration)

def RecordError.message : RecordError → String
  | .invalid title faults => report title faults
  | .misconfigured reason => reason.message

def Checked.toExcept {α : Type} (title : String) : Checked α → Except RecordError α
  | .accepted value => .ok value
  | .faulty faults => .error (.invalid title faults)
  | .refused reason => .error (.misconfigured reason)

end FormSchema.Intake
