import FormSchema.Proofs.Form.WellFormed
import FormSchema.Service.Answer

/-!
# FormSchema — the answers of the tools

Both tools read the form and the policy of a call in the same way and report on the form in the same
way. They differ in what they do about the report: the check hands it out, and the build hands it
out or refuses the form, as the mode says.

* **`subject`** — what is read from a call before anything is done about it; `unreadable_iff` says
  when that fails.
* **`outcome_validateForm`**, **`outcome_buildSchemas`** — both tools go on from there.
* **`Answers`** — the ways in which a call can go, with the answers of both tools.
* **`answers_answer`** — every call goes in one of these ways.
-/

namespace FormSchema

namespace Service

open Intake

/-! ## What a call is about -/

/-- The mode that a call asks for, or else the one of the settings. -/
def requestedMode (settings : Settings) (arguments : Json) : Json :=
  match arguments.getD "validation_mode" with
  | .null => settings.validationMode
  | mode => mode

/-- The form of a call, and the policy that it is checked under. -/
def subject (usual : Option Policy) (arguments : Json) : Except ToolError (Form × Option Policy) :=
  (formIn arguments).bind fun form =>
    ((policyFor usual arguments).mapError .policy).bind fun policy => .ok (form, policy)

/-- The form of a call cannot be loaded, or it has a policy of its own that cannot be read. -/
def Unreadable (arguments : Json) : Prop :=
  (∀ form, Form.load (arguments.getD "formspec") ≠ .ok form)
    ∨ arguments.getD "constraints" ≠ .null
      ∧ ∀ policy, Policy.read (arguments.getD "constraints") ≠ .accepted policy

/-- The report on a form under a policy, if there is one. -/
def reportOn (policy : Option Policy) (form : Form) : Report :=
  Compiler.check ⟨.skip, .null, policy, none⟩ form

/-- What is built from a form, together with a report. -/
def outputOf (settings : Settings) (form : Form) (report : Report) : Output where
  valid := report.valid
  issues := report.issues
  schema := (form.schema settings .null).toJson
  layout := Layout.ofForm form

section Reading

variable {usual : Option Policy} {arguments : Json} {form : Form} {policy : Option Policy}

theorem formIn_eq_ok_iff :
    formIn arguments = .ok form ↔ Form.load (arguments.getD "formspec") = .ok form := by
  rw [formIn]
  cases Form.load (arguments.getD "formspec") with
  | ok form => simp [Except.mapError]
  | error e => simp [Except.mapError]

/-- A policy that a call has is read from it. -/
theorem policyFor_of_ne_null (h : arguments.getD "constraints" ≠ .null) :
    policyFor usual arguments
      = ((Policy.read (arguments.getD "constraints")).toExcept "ConstraintConfig").map some := by
  unfold policyFor
  split
  · next hnull => exact absurd hnull h
  · rfl

theorem policyFor_error_iff (usual : Option Policy) :
    (∃ e, policyFor usual arguments = .error e) ↔ arguments.getD "constraints" ≠ .null
      ∧ ∀ policy, Policy.read (arguments.getD "constraints") ≠ .accepted policy := by
  by_cases hnull : arguments.getD "constraints" = .null
  · have husual : policyFor usual arguments = .ok usual := by rw [policyFor, hnull]
    rw [husual]
    simp [hnull]
  · rw [policyFor_of_ne_null hnull]
    cases Policy.read (arguments.getD "constraints") with
    | accepted policy => simp [Checked.toExcept, Except.map]
    | faulty faults => simp [Checked.toExcept, Except.map, hnull]
    | refused reason => simp [Checked.toExcept, Except.map, hnull]

theorem subject_eq_ok_iff : subject usual arguments = .ok (form, policy)
    ↔ formIn arguments = .ok form ∧ policyFor usual arguments = .ok policy := by
  rw [subject]
  cases formIn arguments with
  | error e => simp [Except.bind]
  | ok form =>
    cases policyFor usual arguments with
    | error e => simp [Except.bind, Except.mapError]
    | ok policy => simp [Except.bind, Except.mapError]

theorem unreadable_iff (usual : Option Policy) :
    Unreadable arguments ↔ ∃ e, subject usual arguments = .error e := by
  rw [Unreadable, ← policyFor_error_iff usual]
  cases hform : formIn arguments with
  | error e =>
    have hload : ∀ form, Form.load (arguments.getD "formspec") ≠ .ok form := by
      intro form h
      exact absurd (hform.symm.trans (formIn_eq_ok_iff.mpr h)) (by simp)
    have hsubject : subject usual arguments = .error e := by
      rw [subject, hform]
      rfl
    exact ⟨fun _ => ⟨e, hsubject⟩, fun _ => Or.inl hload⟩
  | ok form =>
    have hload : ¬ ∀ form, Form.load (arguments.getD "formspec") ≠ .ok form := by
      intro h
      exact h form (formIn_eq_ok_iff.mp hform)
    rw [or_iff_right hload, subject, hform]
    cases policyFor usual arguments with
    | error e => simp [Except.bind, Except.mapError]
    | ok policy => simp [Except.bind, Except.mapError]

theorem not_unreadable (h : subject usual arguments = .ok (form, policy)) :
    ¬ Unreadable arguments := by
  rw [unreadable_iff usual, h]
  rintro ⟨e, he⟩
  exact absurd he (by simp)

end Reading

/-! ## How a call goes -/

/-- `Answers settings usual arguments build check`: one of the ways in which a call can go, in which
the tools answer `build` and `check`. -/
inductive Answers (settings : Settings) (usual : Option Policy) (arguments : Json) :
    Json → Json → Prop where
  | unreadable {e : ToolError} (read : subject usual arguments = .error e) :
      Answers settings usual arguments (failure e.message) (failure e.message)
  | unknownMode {form : Form} {policy : Option Policy} {e : ModeError}
      (read : subject usual arguments = .ok (form, policy))
      (mode : Mode.ofJson (requestedMode settings arguments) = .error e) :
      Answers settings usual arguments (failure e.message) ((reportOn policy form).dump {})
  | unchecked {form : Form} {policy : Option Policy}
      (read : subject usual arguments = .ok (form, policy))
      (mode : Mode.ofJson (requestedMode settings arguments) = .ok .skip) :
      Answers settings usual arguments ((outputOf settings form ⟨true, []⟩).dump {})
        ((reportOn policy form).dump {})
  | rejected {form : Form} {policy : Option Policy} {message : String}
      (read : subject usual arguments = .ok (form, policy))
      (mode : Mode.ofJson (requestedMode settings arguments) = .ok .throw)
      (invalid : (reportOn policy form).valid = false) :
      Answers settings usual arguments (failure message) ((reportOn policy form).dump {})
  | checked {form : Form} {policy : Option Policy} {m : Mode}
      (read : subject usual arguments = .ok (form, policy))
      (mode : Mode.ofJson (requestedMode settings arguments) = .ok m) (checks : m ≠ .skip)
      (passes : m = .throw → (reportOn policy form).valid = true) :
      Answers settings usual arguments ((outputOf settings form (reportOn policy form)).dump {})
        ((reportOn policy form).dump {})

section Runs

variable {settings : Settings} {usual : Option Policy} {arguments : Json} {form : Form}
  {policy : Option Policy}

theorem answer_of_ok {tool : Tool} {value : Json}
    (h : (tool.run settings usual arguments).outcome = .ok value) :
    (tool.answer settings usual arguments).2 = value := by
  simp only [Tool.answer, h]

theorem answer_of_error {tool : Tool} {e : ToolError}
    (h : (tool.run settings usual arguments).outcome = .error e) :
    (tool.answer settings usual arguments).2 = failure e.message := by
  simp only [Tool.answer, h]

theorem outcome_validateForm : (validateForm usual arguments).outcome
    = (subject usual arguments).map fun read => (reportOn read.2 read.1).dump {} := by
  rw [validateForm, subject, Logged.outcome_bind, Logged.outcome_ofExcept]
  cases formIn arguments with
  | error e => rfl
  | ok form =>
    cases policyFor usual arguments with
    | error e => rfl
    | ok policy => rfl

theorem make_eq (formName : Option String) :
    Compiler.make settings (arguments.getD "validation_mode") .null policy formName
      = (Mode.ofJson (requestedMode settings arguments)).map fun mode =>
          ⟨mode, orSetting .null settings.schemaVersion, policy, formName⟩ := by
  show (Mode.ofJson (requestedMode settings arguments)).bind _ = _
  cases Mode.ofJson (requestedMode settings arguments) with
  | error e => rfl
  | ok mode => rfl

/-- The compiler for a call. -/
def compilerFor (settings : Settings) (arguments : Json) (mode : Mode) (policy : Option Policy) :
    Compiler :=
  ⟨mode, orSetting .null settings.schemaVersion, policy, (arguments.getD "name").asName⟩

theorem outcome_buildSchemas : (buildSchemas settings usual arguments).outcome
    = (subject usual arguments).bind fun read =>
        ((Mode.ofJson (requestedMode settings arguments)).mapError .mode).bind fun mode =>
          (((compilerFor settings arguments mode read.2).compile read.1).outcome.mapError
            .rejected).bind fun output => .ok (output.dump {}) := by
  simp only [buildSchemas, subject, Logged.outcome_bind, Logged.outcome_ofExcept,
    Logged.outcome_mapError, Logged.outcome_pure, make_eq]
  cases formIn arguments with
  | error e => rfl
  | ok form =>
    cases policyFor usual arguments with
    | error e => rfl
    | ok policy =>
      cases Mode.ofJson (requestedMode settings arguments) with
      | error e => rfl
      | ok mode => rfl

section Compiling

variable {mode : Mode} (hread : subject usual arguments = .ok (form, policy))
  (hmode : Mode.ofJson (requestedMode settings arguments) = .ok mode)

include hread hmode

/-- Once form, policy and mode are read, the build gives what compiling gives. -/
theorem outcome_run_build : (Tool.run .build settings usual arguments).outcome
    = (((compilerFor settings arguments mode policy).compile form).outcome.mapError
        ToolError.rejected).bind fun output => .ok (output.dump {}) := by
  rw [Tool.run, outcome_buildSchemas, hread, hmode]
  rfl

theorem answer_build_of_ok {output : Output}
    (h : ((compilerFor settings arguments mode policy).compile form).outcome = .ok output) :
    (Tool.answer .build settings usual arguments).2 = output.dump {} := by
  apply answer_of_ok
  rw [outcome_run_build hread hmode, h]
  rfl

theorem answer_build_of_error {rejection : Rejection}
    (h : ((compilerFor settings arguments mode policy).compile form).outcome = .error rejection) :
    (Tool.answer .build settings usual arguments).2 = failure rejection.message := by
  have hrun : (Tool.run .build settings usual arguments).outcome
      = .error (.rejected rejection) := by
    rw [outcome_run_build hread hmode, h]
    rfl
  exact answer_of_error hrun

end Compiling

theorem outcome_compile_throw :
    ((compilerFor settings arguments .throw policy).compile form).outcome
      = if (reportOn policy form).valid then .ok (outputOf settings form (reportOn policy form))
        else .error ((reportOn policy form).rejection (arguments.getD "name").asName) := by
  show (((reportOn policy form).enforce .throw (arguments.getD "name").asName) >>= _).outcome = _
  rw [Logged.outcome_bind, Report.enforce]
  by_cases hvalid : (reportOn policy form).valid = true
  · rw [if_pos hvalid, if_pos hvalid]
    rfl
  · rw [if_neg hvalid, if_neg hvalid]
    rfl

/-- Every call goes in one of these ways. -/
theorem answers_answer (settings : Settings) (usual : Option Policy) (arguments : Json) :
    Answers settings usual arguments (Tool.answer .build settings usual arguments).2
      (Tool.answer .validate settings usual arguments).2 := by
  cases hread : subject usual arguments with
  | error e =>
    -- the tools fail alike, since neither gets past reading the call
    have hbuild : (Tool.run .build settings usual arguments).outcome = .error e := by
      rw [Tool.run, outcome_buildSchemas, hread]
      rfl
    have hcheck : (Tool.run .validate settings usual arguments).outcome = .error e := by
      rw [Tool.run, outcome_validateForm, hread]
      rfl
    rw [answer_of_error hbuild, answer_of_error hcheck]
    exact .unreadable hread
  | ok read =>
    obtain ⟨form, policy⟩ := read
    have hcheck : (Tool.run .validate settings usual arguments).outcome
        = .ok ((reportOn policy form).dump {}) := by
      rw [Tool.run, outcome_validateForm, hread]
      rfl
    rw [answer_of_ok hcheck]
    cases hmode : Mode.ofJson (requestedMode settings arguments) with
    | error e =>
      have hbuild : (Tool.run .build settings usual arguments).outcome = .error (.mode e) := by
        rw [Tool.run, outcome_buildSchemas, hread, hmode]
        rfl
      rw [answer_of_error hbuild]
      exact .unknownMode hread hmode
    | ok mode =>
      cases mode with
      | skip =>
        rw [answer_build_of_ok hread hmode rfl]
        exact .unchecked hread hmode
      | warn =>
        rw [answer_build_of_ok hread hmode rfl]
        exact .checked hread hmode (by decide) (by simp)
      | throw =>
        by_cases hvalid : (reportOn policy form).valid = true
        · rw [answer_build_of_ok hread hmode (outcome_compile_throw.trans (if_pos hvalid))]
          exact .checked hread hmode (by decide) (fun _ => hvalid)
        · rw [answer_build_of_error hread hmode (outcome_compile_throw.trans (if_neg hvalid))]
          exact .rejected hread hmode (Bool.eq_false_iff.mpr hvalid)

end Runs

end Service

end FormSchema
