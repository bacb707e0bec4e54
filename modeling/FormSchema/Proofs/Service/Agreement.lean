import FormSchema.Proofs.Service.Answers

/-!
# FormSchema — the tools agree

What the answers of the two tools to the same call have to do with one another. Each part of it is
read off the ways in which a call can go.

* **`Agreement`** — when the answers fail, and what they share when they do not.
* **`Answers.output_of_not_failed`** — what a build answers with that does not fail.
* **`Answers.built`** — the documents in it depend on the form and on the version alone.
* **`Tool.handle_eq`** — a tool that only answers for the kinds of errors it names lets none escape.
* **`answers_agree`** — the statement about all calls.
-/

namespace FormSchema

namespace Service

open Intake

/-! ## Failures and members -/

/-- The answer tells of a failure. -/
def Failed (answer : Json) : Prop := ∃ message, answer = failure message

theorem failed_failure (message : String) : Failed (failure message) := ⟨message, rfl⟩

theorem not_failed_report (report : Report) : ¬ Failed (report.dump {}) := by
  rintro ⟨message, h⟩
  simp [Report.dump, failure] at h

theorem not_failed_output (output : Output) : ¬ Failed (output.dump {}) := by
  rintro ⟨message, h⟩
  simp [Output.dump, failure] at h

/-- The schema and the layout in an answer. -/
def documents? (answer : Json) : Option (Json × Json) :=
  match answer.get? "jsonSchema", answer.get? "uiSchema" with
  | some schema, some layout => some (schema, layout)
  | _, _ => none

section Members

variable (report : Report) (output : Output)

theorem get?_valid_report : (report.dump {}).get? "valid" = some (.bool report.valid) := rfl

theorem get?_issues_report :
    (report.dump {}).get? "issues" = some (.arr (report.issues.map (·.dump {}))) := rfl

theorem get?_valid_output : (output.dump {}).get? "valid" = some (.bool output.valid) := rfl

theorem get?_issues_output :
    (output.dump {}).get? "issues" = some (.arr (output.issues.map (·.dump {}))) := rfl

variable (settings : Settings) (form : Form)

-- a null would be left out, but schema and layout are objects
theorem documents?_outputOf : documents? ((outputOf settings form report).dump {})
    = some ((form.schema settings .null).toJson, Layout.ofForm form) := rfl

end Members

/-! ## What the answers have in common -/

/-- What the answers `build` and `check` of the tools to a call have to do with one another. -/
structure Agreement (settings : Settings) (arguments build check : Json) : Prop where
  /-- Only what cannot be read keeps the check from reporting. -/
  check_failed : Failed check ↔ Unreadable arguments
  /-- The build also fails for its mode, and in one mode for what the check reports. -/
  build_failed : Failed build ↔ Unreadable arguments
    ∨ (∃ e, Mode.ofJson (requestedMode settings arguments) = .error e)
    ∨ Mode.ofJson (requestedMode settings arguments) = .ok .throw
      ∧ check.get? "valid" = some (.bool false)
  /-- Where both report on what was checked, they report the same. -/
  same_report : ¬ Failed build → ¬ Failed check →
    Mode.ofJson (requestedMode settings arguments) ≠ .ok .skip →
    ∃ (valid : Bool) (issues : List Json),
      build.get? "valid" = some (.bool valid) ∧ check.get? "valid" = some (.bool valid)
      ∧ build.get? "issues" = some (.arr issues) ∧ check.get? "issues" = some (.arr issues)
  /-- A form that was not checked counts as valid. -/
  skipped : ¬ Failed build → Mode.ofJson (requestedMode settings arguments) = .ok .skip →
    build.get? "valid" = some (.bool true) ∧ build.get? "issues" = some (.arr [])

namespace Answers

variable {settings : Settings} {usual : Option Policy} {arguments build check : Json}

theorem check_failed_iff (h : Answers settings usual arguments build check) :
    Failed check ↔ Unreadable arguments := by
  cases h with
  | unreadable read => exact iff_of_true (failed_failure _) ((unreadable_iff usual).mpr ⟨_, read⟩)
  | unknownMode read _ => exact iff_of_false (not_failed_report _) (not_unreadable read)
  | unchecked read _ => exact iff_of_false (not_failed_report _) (not_unreadable read)
  | rejected read _ _ => exact iff_of_false (not_failed_report _) (not_unreadable read)
  | checked read _ _ _ => exact iff_of_false (not_failed_report _) (not_unreadable read)

theorem build_failed_iff (h : Answers settings usual arguments build check) :
    Failed build ↔ Unreadable arguments
      ∨ (∃ e, Mode.ofJson (requestedMode settings arguments) = .error e)
      ∨ Mode.ofJson (requestedMode settings arguments) = .ok .throw
        ∧ check.get? "valid" = some (.bool false) := by
  cases h with
  | unreadable read =>
    exact iff_of_true (failed_failure _) (Or.inl ((unreadable_iff usual).mpr ⟨_, read⟩))
  | unknownMode _ mode => exact iff_of_true (failed_failure _) (Or.inr (Or.inl ⟨_, mode⟩))
  | rejected _ mode invalid =>
    refine iff_of_true (failed_failure _) (Or.inr (Or.inr ⟨mode, ?_⟩))
    rw [get?_valid_report, invalid]
  | unchecked read mode =>
    refine iff_of_false (not_failed_output _) ?_
    rw [mode]
    rintro (hread | ⟨e, he⟩ | ⟨hthrow, _⟩)
    · exact not_unreadable read hread
    · exact absurd he (by simp)
    · exact absurd hthrow (by simp)
  | checked read mode _ passes =>
    refine iff_of_false (not_failed_output _) ?_
    rw [mode, get?_valid_report]
    rintro (hread | ⟨e, he⟩ | ⟨hthrow, hinvalid⟩)
    · exact not_unreadable read hread
    · exact absurd he (by simp)
    · rw [passes (Except.ok.inj hthrow)] at hinvalid
      exact absurd hinvalid (by simp)

/-- A build that does not fail answers with the documents of the form and with a report: the one
that the check gives, unless nothing is checked. -/
theorem output_of_not_failed (h : Answers settings usual arguments build check)
    (hbuild : ¬ Failed build) : ∃ (form : Form) (policy : Option Policy) (report : Report),
      subject usual arguments = .ok (form, policy)
      ∧ build = (outputOf settings form report).dump {} ∧ check = (reportOn policy form).dump {}
      ∧ (Mode.ofJson (requestedMode settings arguments) = .ok .skip → report = ⟨true, []⟩)
      ∧ (Mode.ofJson (requestedMode settings arguments) ≠ .ok .skip →
        report = reportOn policy form) := by
  cases h with
  | unreadable _ => exact absurd (failed_failure _) hbuild
  | unknownMode _ _ => exact absurd (failed_failure _) hbuild
  | rejected _ _ _ => exact absurd (failed_failure _) hbuild
  | unchecked read mode =>
    exact ⟨_, _, _, read, rfl, rfl, fun _ => rfl, fun hmode => absurd mode hmode⟩
  | checked read mode checks _ =>
    refine ⟨_, _, _, read, rfl, rfl, ?_, fun _ => rfl⟩
    intro hskip
    exact absurd (Except.ok.inj (mode.symm.trans hskip)) checks

theorem same_report (h : Answers settings usual arguments build check) (hbuild : ¬ Failed build)
    (hmode : Mode.ofJson (requestedMode settings arguments) ≠ .ok .skip) :
    ∃ (valid : Bool) (issues : List Json),
      build.get? "valid" = some (.bool valid) ∧ check.get? "valid" = some (.bool valid)
      ∧ build.get? "issues" = some (.arr issues) ∧ check.get? "issues" = some (.arr issues) := by
  obtain ⟨form, policy, report, _, rfl, rfl, _, hreport⟩ := h.output_of_not_failed hbuild
  rw [hreport hmode]
  exact ⟨_, _, get?_valid_output _, get?_valid_report _, get?_issues_output _,
    get?_issues_report _⟩

theorem skipped (h : Answers settings usual arguments build check) (hbuild : ¬ Failed build)
    (hmode : Mode.ofJson (requestedMode settings arguments) = .ok .skip) :
    build.get? "valid" = some (.bool true) ∧ build.get? "issues" = some (.arr []) := by
  obtain ⟨form, policy, report, _, rfl, _, hreport, _⟩ := h.output_of_not_failed hbuild
  rw [hreport hmode]
  exact ⟨get?_valid_output _, get?_issues_output _⟩

/-- What is built is the schema and the layout of the form, whatever is done about its issues. -/
theorem built (h : Answers settings usual arguments build check) (hbuild : ¬ Failed build) :
    ∃ form, Form.load (arguments.getD "formspec") = .ok form
      ∧ documents? build = some ((form.schema settings .null).toJson, Layout.ofForm form) := by
  obtain ⟨form, policy, report, hread, rfl, _⟩ := h.output_of_not_failed hbuild
  have hform := formIn_eq_ok_iff.mp (subject_eq_ok_iff.mp hread).1
  exact ⟨form, hform, documents?_outputOf report settings form⟩

/-- Both answers are objects. -/
theorem objects (h : Answers settings usual arguments build check) :
    (∃ members, build = .obj members) ∧ ∃ members, check = .obj members := by
  cases h <;> exact ⟨⟨_, rfl⟩, ⟨_, rfl⟩⟩

theorem agreement (h : Answers settings usual arguments build check) :
    Agreement settings arguments build check where
  check_failed := h.check_failed_iff
  build_failed := h.build_failed_iff
  same_report := fun hbuild _ => h.same_report hbuild
  skipped := h.skipped

end Answers

/-! ## Errors that are caught -/

/-- The kinds of errors that are told apart where errors are caught: a value that does not fit, a
declaration that makes no sense, and a form that is rejected for its issues. -/
inductive Trouble
  | badValue
  | misconfigured
  | rejected
  deriving DecidableEq, Repr

def ToolError.trouble : ToolError → Trouble
  | .form (.record (.misconfigured _)) => .misconfigured
  | .form _ => .badValue
  | .policy (.misconfigured _) => .misconfigured
  | .policy _ => .badValue
  | .mode _ => .badValue
  | .rejected _ => .rejected

/-- The kinds of errors that a tool answers for. The check is not prepared for rejections. -/
def Tool.caught : Tool → List Trouble
  | .build => [.badValue, .misconfigured, .rejected]
  | .validate => [.badValue, .misconfigured]

/-- The answer of a tool that answers for errors of the kinds it names, and lets others escape. -/
def Tool.handle (tool : Tool) (settings : Settings) (usual : Option Policy) (arguments : Json) :
    Except ToolError Json :=
  match (tool.run settings usual arguments).outcome with
  | .ok value => .ok value
  | .error e => if e.trouble ∈ tool.caught then .ok (failure e.message) else .error e

section Caught

variable {settings : Settings} {usual : Option Policy} {arguments : Json} {e : ToolError}

/-- The tools answer alike for everything but rejections. -/
theorem mem_caught {trouble : Trouble} (tool : Tool) (h : trouble ≠ .rejected) :
    trouble ∈ tool.caught := by
  cases trouble with
  | badValue => cases tool <;> decide
  | misconfigured => cases tool <;> decide
  | rejected => exact absurd rfl h

theorem trouble_form_ne_rejected (e : LoadError) : (ToolError.form e).trouble ≠ .rejected := by
  have hvalue : Trouble.badValue ≠ .rejected := by decide
  have hmisconfigured : Trouble.misconfigured ≠ .rejected := by decide
  match e with
  | .text _ => exact hvalue
  | .notAForm => exact hvalue
  | .record (.invalid _ _) => exact hvalue
  | .record (.misconfigured _) => exact hmisconfigured

theorem trouble_policy_ne_rejected (e : RecordError) :
    (ToolError.policy e).trouble ≠ .rejected := by
  have hvalue : Trouble.badValue ≠ .rejected := by decide
  have hmisconfigured : Trouble.misconfigured ≠ .rejected := by decide
  match e with
  | .invalid _ _ => exact hvalue
  | .misconfigured _ => exact hmisconfigured

/-- Reading a call rejects nothing. -/
theorem trouble_subject_ne_rejected (h : subject usual arguments = .error e) :
    e.trouble ≠ .rejected := by
  rw [subject, formIn] at h
  cases hload : Form.load (arguments.getD "formspec") with
  | error error =>
    rw [hload] at h
    cases h
    exact trouble_form_ne_rejected error
  | ok form =>
    rw [hload] at h
    cases hpolicy : policyFor usual arguments with
    | error error =>
      rw [hpolicy] at h
      cases h
      exact trouble_policy_ne_rejected error
    | ok policy =>
      rw [hpolicy] at h
      cases h

/-- Whatever stops a tool is of a kind that it answers for. -/
theorem trouble_of_run {tool : Tool} (h : (tool.run settings usual arguments).outcome = .error e) :
    e.trouble ∈ tool.caught := by
  cases tool with
  | build => cases e.trouble <;> decide
  | validate =>
    rw [Tool.run, outcome_validateForm] at h
    cases hread : subject usual arguments with
    | error e' =>
      rw [hread] at h
      cases h
      exact mem_caught .validate (trouble_subject_ne_rejected hread)
    | ok read =>
      rw [hread] at h
      cases h

/-- So no error escapes. -/
theorem Tool.handle_eq (tool : Tool) (settings : Settings) (usual : Option Policy)
    (arguments : Json) :
    tool.handle settings usual arguments = .ok (tool.answer settings usual arguments).2 := by
  rw [Tool.handle]
  cases hrun : (tool.run settings usual arguments).outcome with
  | ok value => rw [answer_of_ok hrun]
  | error e =>
    rw [answer_of_error hrun]
    exact if_pos (trouble_of_run hrun)

end Caught

/-! ## All calls -/

/-- **The tools answer every call, and agree.** No error escapes a tool, and every answer is an
object. The answers fail for the same forms and policies, and the build also for its mode; where
both report, they report the same, unless nothing was checked. Two calls with the same form, for
settings with the same version, get the same schema and the same layout whenever they get them:
modes, policies and names have no part in it. -/
theorem answers_agree (settings : Settings) (usual : Option Policy) (arguments : Json) :
    (∀ tool : Tool,
      tool.handle settings usual arguments = .ok (tool.answer settings usual arguments).2
      ∧ ∃ members, (tool.answer settings usual arguments).2 = .obj members)
    ∧ Agreement settings arguments (Tool.answer .build settings usual arguments).2
        (Tool.answer .validate settings usual arguments).2
    ∧ ∀ (settings' : Settings) (usual' : Option Policy) (arguments' : Json),
        settings'.schemaVersion = settings.schemaVersion →
        arguments'.getD "formspec" = arguments.getD "formspec" →
        ¬ Failed (Tool.answer .build settings usual arguments).2 →
        ¬ Failed (Tool.answer .build settings' usual' arguments').2 →
        ∃ documents, documents? (Tool.answer .build settings usual arguments).2 = some documents
          ∧ documents? (Tool.answer .build settings' usual' arguments').2 = some documents := by
  have hanswers := answers_answer settings usual arguments
  refine ⟨?_, hanswers.agreement, ?_⟩
  · intro tool
    refine ⟨tool.handle_eq settings usual arguments, ?_⟩
    cases tool with
    | build => exact hanswers.objects.1
    | validate => exact hanswers.objects.2
  · intro settings' usual' arguments' hversion hdata hbuild hbuild'
    obtain ⟨form, hform, hbuilt⟩ := hanswers.built hbuild
    obtain ⟨form', hform', hbuilt'⟩ :=
      (answers_answer settings' usual' arguments').built hbuild'
    rw [hdata, hform] at hform'
    obtain rfl : form = form' := Except.ok.inj hform'
    have hsame : form.schema settings' .null = form.schema settings .null := by
      rw [Form.schema, Form.schema, hversion]
    rw [hsame] at hbuilt'
    exact ⟨_, hbuilt, hbuilt'⟩

/-- A form with an unknown name is refused where errors are thrown. Where they are not, the form is
built, and with the same documents whether it is checked or not. -/
theorem answers_agree_unknown_name :
    let call : Json → Json := fun mode => .obj [("validation_mode", mode),
      ("formspec", .arr [.obj [("type", .str "conditional"), ("field", .str "a")]])]
    let build : Json → Json := fun mode => (Tool.answer .build {} none (call mode)).2
    Failed (build (.str " Throw "))
      ∧ ¬ Failed (build (.str "warn")) ∧ ¬ Failed (build (.bool false))
      ∧ ∃ documents, documents? (build (.str "warn")) = some documents
        ∧ documents? (build (.bool false)) = some documents := by
  intro call build
  have hreadable : ∀ mode, ¬ Unreadable (call mode) := by
    rintro mode (hform | ⟨hpolicy, _⟩)
    · exact hform ⟨[.conditional ⟨"a", .null⟩ []]⟩ rfl
    · exact hpolicy rfl
  have hbuilt : ∀ mode m, Mode.ofJson (requestedMode {} (call mode)) = .ok m → m ≠ .throw →
      ¬ Failed (build mode) := by
    intro mode m hmode hthrow
    obtain ⟨_, hagree, _⟩ := answers_agree {} none (call mode)
    rw [hagree.build_failed, hmode]
    rintro (hread | ⟨e, he⟩ | ⟨hm, _⟩)
    · exact hreadable mode hread
    · exact absurd he (by simp)
    · exact hthrow (Except.ok.inj hm)
  have hwarn : ¬ Failed (build (.str "warn")) := hbuilt _ .warn rfl (by decide)
  have hskip : ¬ Failed (build (.bool false)) := hbuilt _ .skip rfl (by decide)
  obtain ⟨_, hagree, _⟩ := answers_agree {} none (call (.str " Throw "))
  obtain ⟨_, _, hsame⟩ := answers_agree {} none (call (.str "warn"))
  exact ⟨hagree.build_failed.mpr (Or.inr (Or.inr ⟨rfl, rfl⟩)), hwarn, hskip,
    hsame {} none (call (.bool false)) rfl rfl hwarn hskip⟩

end Service

end FormSchema
