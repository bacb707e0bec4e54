import FormSchema.Proofs.Building

/-!
# FormSchema — front ends

A form is checked as a mode asks for in three places: when it is validated, when it is built to be
checked on the spot, and when it is compiled. Each reads the mode, makes the report and acts on it
in steps of its own. They fail in the same cases and for the same reason, and log the same records.

* **`Enforces`** — all that a front end does about a report, in each of the four ways in which that
  can go.
* **`Enforces.passOn`** — a front end that hands over to another one.
* **`Enforces.rejects_iff`** — when a form is rejected, and what for.
* **`enforces_validate`**, **`enforces_compile`** — validating and compiling a form. Building one
  that is checked on the spot passes on to validating it.
* **`front_ends_agree`** — the statement about all three, and about compiling under a policy.
-/

namespace FormSchema

/-! ## What front ends do about a report -/

/-- The messages of the errors of a report, in order. -/
def Report.errorMessages (r : Report) : List String :=
  (r.issues.filter fun i => i.severity = .error).map (·.message)

/-- What a front end does about a report in a mode: `wrap` is how it passes on why it fails, and
`deliver` what it returns, given the report unless that was skipped. -/
structure Enforces {ε α : Type} (wrap : ValidationError → ε) (deliver : Option Report → α)
    (report : Report) (mode : Json) (formName : Option String) (run : Logged ε α) : Prop where
  unknownMode : ∀ e, Mode.ofJson mode = .error e → run = ⟨[], .error (wrap (.mode e))⟩
  skipped : Mode.ofJson mode = .ok .skip → run = ⟨[], .ok (deliver none)⟩
  rejected : Mode.ofJson mode = .ok .throw → report.valid = false →
    run = ⟨[], .error (wrap (.rejected ⟨formName, report.errorMessages⟩))⟩
  reported : ∀ m, Mode.ofJson mode = .ok m → m ≠ .skip → (m = .throw → report.valid = true) →
    run = ⟨report.issues.map (Issue.logRecord formName), .ok (deliver (some report))⟩

section Enforce

variable {report : Report} {mode : Json} {formName : Option String}

theorem enforce_of_valid {m : Mode} (hskip : m ≠ .skip)
    (hvalid : m = .throw → report.valid = true) :
    report.enforce m formName = ⟨report.issues.map (Issue.logRecord formName), .ok report⟩ := by
  cases m with
  | skip => exact absurd rfl hskip
  | warn => rfl
  | throw => rw [Report.enforce, if_pos (hvalid rfl)]

theorem enforce_of_invalid (h : report.valid = false) :
    report.enforce .throw formName = ⟨[], .error ⟨formName, report.errorMessages⟩⟩ := by
  rw [Report.enforce, if_neg (by rw [h]; exact Bool.false_ne_true)]
  rfl

/-- A front end that hands over to another one enforces what that one does. -/
theorem Enforces.passOn {ε ε' α β : Type} {wrap : ValidationError → ε} {deliver : Option Report → α}
    {run : Logged ε α} (h : Enforces wrap deliver report mode formName run) (f : ε → ε')
    (g : α → β) :
    Enforces (f ∘ wrap) (g ∘ deliver) report mode formName (g <$> run.mapError f) where
  unknownMode e he := by rw [h.unknownMode e he]; rfl
  skipped hskip := by rw [h.skipped hskip]; rfl
  rejected hthrow hvalid := by rw [h.rejected hthrow hvalid]; rfl
  reported m hm hskip hvalid := by
    rw [h.reported m hm hskip hvalid]
    exact Logged.map_ok g _ _

/-- A form is rejected only where errors are thrown, and only for the errors of its report. -/
theorem Enforces.rejects_iff {ε α : Type} {wrap : ValidationError → ε} {deliver : Option Report → α}
    {run : Logged ε α} (h : Enforces wrap deliver report mode formName run)
    (hwrap : Function.Injective wrap) (r : Rejection) :
    run.outcome = .error (wrap (.rejected r)) ↔
      (Mode.ofJson mode = .ok .throw ∧ report.valid = false)
        ∧ r = ⟨formName, report.errorMessages⟩ := by
  constructor
  · intro hrun
    -- a run that is rejected is none of the others
    cases hmode : Mode.ofJson mode with
    | error e =>
      rw [h.unknownMode e hmode] at hrun
      exact nomatch hwrap (Except.error.inj hrun)
    | ok m =>
      by_cases hskip : m = .skip
      · rw [h.skipped (hskip ▸ hmode)] at hrun
        exact nomatch hrun
      by_cases hreport : m = .throw → report.valid = true
      · rw [h.reported m hmode hskip hreport] at hrun
        exact nomatch hrun
      · obtain ⟨rfl, hvalid⟩ := Classical.not_imp.mp hreport
        rw [Bool.not_eq_true] at hvalid
        rw [h.rejected hmode hvalid] at hrun
        exact ⟨⟨rfl, hvalid⟩, (ValidationError.rejected.inj (hwrap (Except.error.inj hrun))).symm⟩
  · rintro ⟨⟨hmode, hvalid⟩, rfl⟩
    rw [h.rejected hmode hvalid]

end Enforce

/-! ## Validating a form -/

section Validate

variable {form : Form} {mode : Json} {formName : Option String}

theorem validate_of_mode {m : Mode} (h : Mode.ofJson mode = .ok m) (hskip : m ≠ .skip) :
    form.validate mode formName
      = some <$> (form.checkStructure.enforce m formName).mapError .rejected := by
  rw [Form.validate, h]
  cases m with
  | skip => exact absurd rfl hskip
  | warn => rfl
  | throw => rfl

theorem enforces_validate (form : Form) (mode : Json) (formName : Option String) :
    Enforces id id form.checkStructure mode formName (form.validate mode formName) where
  unknownMode e he := by rw [Form.validate, he]; rfl
  skipped hskip := by rw [Form.validate, hskip]; rfl
  rejected hthrow hvalid := by
    rw [validate_of_mode hthrow (by decide), enforce_of_invalid hvalid]
    rfl
  reported m hm hskip hvalid := by
    rw [validate_of_mode hm hskip, enforce_of_valid hskip hvalid]
    exact Logged.map_ok some _ _

end Validate

/-! ## Building a form that is checked -/

/-- Built elements make a form in any case, and checking it passes on to validating it. -/
theorem checkedForm_built (settings : Settings) (form : Form) {mode : Json} (given : mode ≠ .null)
    (formName : Option String) :
    Builder.checkedForm settings mode formName (form.elements.map .element)
      = (fun _ => form) <$> (form.validate mode formName).mapError .validation := by
  rw [Builder.checkedForm, Builder.form_built]
  · rfl
  · exact given

/-! ## Compiling a form -/

/-- Compiles a form in a mode, as a schema of a version; the name is for messages. -/
def Form.compile (form : Form) (settings : Settings) (mode version : Json)
    (policy : Option Policy) (formName : Option String) : Logged ValidationError Output := do
  let compiler ← Logged.ofExcept
    ((Compiler.make settings mode version policy formName).mapError .mode)
  (compiler.compile form).mapError .rejected

/-- What compiling a form returns, given the report unless that was skipped. -/
def Form.outputOf (form : Form) (version : Json) (report : Option Report) : Output where
  valid := report.elim true (·.valid)
  issues := report.elim [] (·.issues)
  schema := (Schema.ofForm form version).toJson
  layout := Layout.ofForm form

/-- The report on a form, with its use of what a policy restricts if there is one. -/
def Form.reportUnder (form : Form) : Option Policy → Report
  | none => form.checkStructure
  | some policy => form.checkStructure.merge (policy.check form)

section Compile

variable {settings : Settings} {form : Form} {mode version : Json} {policy : Option Policy}
  {formName : Option String}

theorem make_of_given (given : mode ≠ .null) :
    Compiler.make settings mode version policy formName = (Mode.ofJson mode).map fun m =>
      ⟨m, orSetting version settings.schemaVersion, policy, formName⟩ := by
  rw [Compiler.make]
  · cases Mode.ofJson mode <;> rfl
  · exact given

theorem compile_eq {m : Mode} (hskip : m ≠ .skip) :
    Compiler.compile ⟨m, version, policy, formName⟩ form
      = (fun report => form.outputOf version (some report))
        <$> (form.reportUnder policy).enforce m formName := by
  cases m with
  | skip => exact absurd rfl hskip
  | warn => cases policy <;> rfl
  | throw => cases policy <;> rfl

theorem compile_of_mode (given : mode ≠ .null) {m : Mode} (h : Mode.ofJson mode = .ok m)
    (hskip : m ≠ .skip) :
    form.compile settings mode version policy formName
      = (fun report => form.outputOf (orSetting version settings.schemaVersion) (some report))
        <$> ((form.reportUnder policy).enforce m formName).mapError .rejected := by
  rw [Form.compile, make_of_given given, h, ← Logged.mapError_map, ← compile_eq hskip]
  rfl

theorem enforces_compile (given : mode ≠ .null) (policy : Option Policy) :
    Enforces id (form.outputOf (orSetting version settings.schemaVersion))
      (form.reportUnder policy) mode formName
      (form.compile settings mode version policy formName) where
  unknownMode e he := by rw [Form.compile, make_of_given given, he]; rfl
  skipped hskip := by rw [Form.compile, make_of_given given, hskip]; rfl
  rejected hthrow hvalid := by
    rw [compile_of_mode given hthrow (by decide), enforce_of_invalid hvalid]
    rfl
  reported m hm hskip hvalid := by
    rw [compile_of_mode given hm hskip, enforce_of_valid hskip hvalid]
    exact Logged.map_ok _ _ _

end Compile

/-! ## The front ends agree -/

/-- The level at which an issue of a severity is logged. -/
def Severity.logLevel : Severity → LogLevel
  | .warning => .warning
  | .error => .error

theorem level_logRecord (formName : Option String) (i : Issue) :
    (i.logRecord formName).level = i.severity.logLevel := by
  obtain ⟨severity, message, path, code, category, fieldName⟩ := i
  cases severity <;> rfl

/-- **The front ends agree.** In every mode that is given, validating a form, building it to be
checked on the spot and compiling it fail in the same cases and for the same reason, and log the
same records: none where they fail or nothing is checked, and otherwise one for each issue, in order
and at the level of its severity. A form is rejected exactly if errors are thrown and it is invalid,
and then for the messages of its errors. Compiling under a policy does all this about the issues of
the structure followed by those of the policy, which are valid if none of them is an error. -/
theorem front_ends_agree (settings : Settings) (form : Form) {mode : Json} (given : mode ≠ .null)
    (version : Json) (formName : Option String) :
    let validated := form.validate mode formName
    let built := Builder.checkedForm settings mode formName (form.elements.map .element)
    let compiled := form.compile settings mode version none formName
    let output := form.outputOf (orSetting version settings.schemaVersion)
    Enforces id id form.checkStructure mode formName validated
      ∧ Enforces .validation (fun _ => form) form.checkStructure mode formName built
      ∧ Enforces id output form.checkStructure mode formName compiled
      ∧ (∀ r, validated.outcome = .error (.rejected r) ↔
        (Mode.ofJson mode = .ok .throw ∧ form.checkStructure.valid = false)
          ∧ r = ⟨formName, form.checkStructure.errorMessages⟩)
      ∧ (∀ i : Issue, (i.logRecord formName).level = i.severity.logLevel)
      ∧ ∀ policy : Policy,
        let report := form.reportUnder (some policy)
        Enforces id output report mode formName
            (form.compile settings mode version (some policy) formName)
          ∧ report.issues = form.checkStructure.issues ++ (policy.check form).issues
          ∧ (report.valid = true ↔ ∀ i ∈ report.issues, i.severity ≠ .error) := by
  intro validated built compiled output
  have hvalidated : Enforces id id form.checkStructure mode formName validated :=
    enforces_validate form mode formName
  have hbuilt : Enforces .validation (fun _ => form) form.checkStructure mode formName built := by
    rw [show built = _ from checkedForm_built settings form given formName]
    exact hvalidated.passOn Builder.BuildError.validation fun _ => form
  refine ⟨hvalidated, hbuilt, enforces_compile given none,
    hvalidated.rejects_iff Function.injective_id, level_logRecord formName, ?_⟩
  intro policy report
  exact ⟨enforces_compile given (some policy), rfl, Report.valid_ofIssues_iff _⟩

/-- A conditional that tests no field of the form, rejected by all three. -/
theorem front_ends_agree_dangling :
    let form : Form := ⟨[.conditional ⟨"b", .bool true⟩ [.leaf ⟨"a", none, false⟩ .boolean]]⟩
    let mode : Json := .str " Throw "
    let rejection : Rejection :=
      ⟨some "F", ["Conditional references non-existent field \"b\" in root scope"]⟩
    Json.str " Throw " ≠ .null
      ∧ (form.validate mode (some "F")) = ⟨[], .error (.rejected rejection)⟩
      ∧ Builder.checkedForm {} mode (some "F") (form.elements.map .element)
        = ⟨[], .error (.validation (.rejected rejection))⟩
      ∧ form.compile {} mode .null none (some "F") = ⟨[], .error (.rejected rejection)⟩
      ∧ rejection.message = "FormSpec \"F\" validation failed: "
        ++ "Conditional references non-existent field \"b\" in root scope" := by
  intro form mode rejection
  have given : Json.str " Throw " ≠ .null := Json.noConfusion
  have hmode : Mode.ofJson mode = .ok .throw := rfl
  have hinvalid : form.checkStructure.valid = false := by decide
  have hmessages : form.checkStructure.errorMessages = rejection.errors := by decide
  obtain ⟨hvalidated, hbuilt, hcompiled, -⟩ := front_ends_agree {} form given .null (some "F")
  refine ⟨given, ?_, ?_, ?_, by decide⟩
  · rw [hvalidated.rejected hmode hinvalid, hmessages]
    rfl
  · rw [hbuilt.rejected hmode hinvalid, hmessages]
  · rw [hcompiled.rejected hmode hinvalid, hmessages]
    rfl

end FormSchema
