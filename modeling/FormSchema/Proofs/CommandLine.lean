import FormSchema.CommandLine
import FormSchema.Proofs.Policy.Discovery
import FormSchema.Proofs.Service.Answers

/-!
# FormSchema — what a command line settles

The transport and the mode of a server come from its command line, or else from its settings. A word
that the line gives is one of those that the program knows. A setting is taken as it is, and so it
may name a transport that does not exist, or a mode that no call can be answered in.

* **`Gives`** — the options that a line gives.
* **`Reading`** — what reading a line adds to the values that are given, argument by argument.
* **`Settled`**, **`settled_of_parse`** — each value is read from the line, or it is the setting.
* **`transport_error_iff`**, **`mode_error_iff`** — when a launch and a call fail for them.
* **`usable_iff`** — the statement about all environments and all lines.
-/

namespace FormSchema

namespace CommandLine

/-- Two steps that succeed together succeed one after the other. -/
theorem exists_of_bind_eq_ok {ε α β : Type} {x : Except ε α} {f : α → Except ε β} {b : β}
    (h : (x >>= f) = .ok b) : ∃ a, x = .ok a ∧ f a = .ok b := by
  cases x with
  | error e => cases h
  | ok a => exact ⟨a, rfl, h⟩

/-! ## Options that a line gives -/

/-- One of the arguments in front of any divider is sorted as the option. -/
def Gives (arguments : List String) (option : Opt) : Prop :=
  ∃ argument ∈ arguments.takeWhile (· ≠ "--"), ∃ value,
    sort argument = .ok (.option option value)

/-- An option is among arguments that are sorted. -/
def Among (words : List (String × Word)) (option : Opt) : Prop :=
  ∃ argument value, (argument, Word.option option value) ∈ words

theorem among_cons {argument : String} {word : Word} {words : List (String × Word)}
    {option : Opt} : Among ((argument, word) :: words) option
      ↔ (∃ value, word = .option option value) ∨ Among words option := by
  unfold Among
  constructor
  · rintro ⟨a, value, hmem⟩
    rcases List.mem_cons.mp hmem with heq | hmem
    · cases heq
      exact .inl ⟨value, rfl⟩
    · exact .inr ⟨a, value, hmem⟩
  · rintro (⟨value, rfl⟩ | ⟨a, value, hmem⟩)
    · exact ⟨argument, value, List.mem_cons_self⟩
    · exact ⟨a, value, List.mem_cons_of_mem _ hmem⟩

theorem among_option {argument : String} {given : Opt} {value : Option String}
    {words : List (String × Word)} {option : Opt} :
    Among ((argument, .option given value) :: words) option
      ↔ option = given ∨ Among words option := by
  rw [among_cons]
  constructor
  · rintro (⟨value', heq⟩ | hrest)
    · cases heq
      exact .inl rfl
    · exact .inr hrest
  · rintro (rfl | hrest)
    · exact .inl ⟨value, rfl⟩
    · exact .inr hrest

theorem among_other {argument : String} {word : Word} {words : List (String × Word)}
    {option : Opt} (h : ∀ given value, word ≠ .option given value) :
    Among ((argument, word) :: words) option ↔ Among words option := by
  rw [among_cons]
  exact or_iff_right fun ⟨value, heq⟩ => h option value heq

/-- Sorting a line finds the options that it gives. -/
theorem among_sortAll {arguments : List String} {words : List (String × Word)}
    (h : sortAll arguments = .ok words) (option : Opt) :
    Among words option ↔ Gives arguments option := by
  fun_induction sortAll arguments generalizing words with
  | case1 =>
    cases h
    simp [Among, Gives]
  | case2 rest =>
    -- a divider ends the part of the line that options are taken from
    cases h
    simp [Among, Gives]
  | case3 argument rest hne ih =>
    have hne : argument ≠ "--" := hne
    obtain ⟨word, hword, h⟩ := exists_of_bind_eq_ok h
    obtain ⟨others, hrest, h⟩ := exists_of_bind_eq_ok h
    cases h
    rw [among_cons, ih hrest]
    simp [Gives, hne, hword]

/-! ## Reading a line -/

/-- The values that are given for options have been read. -/
def ReadsValues (given : List (Opt × Json)) : Prop :=
  ∀ entry ∈ given, ∃ text, readValue entry.1 text = .ok entry.2

theorem ReadsValues.cons {option : Opt} {text : String} {value : Json}
    {given : List (Opt × Json)} (hvalue : readValue option text = .ok value)
    (hgiven : ReadsValues given) : ReadsValues ((option, value) :: given) := by
  intro entry hentry
  rcases List.mem_cons.mp hentry with rfl | hentry
  · exact ⟨text, hvalue⟩
  · exact hgiven entry hentry

/-- `Reading words given given'`: arguments that are sorted add values to those given before. -/
inductive Reading : List (String × Word) → List (Opt × Json) → List (Opt × Json) → Prop
  | done (given : List (Opt × Json)) : Reading [] given given
  | joined {argument text : String} {option : Opt} {value : Json} {rest : List (String × Word)}
      {given given' : List (Opt × Json)} (read : readValue option text = .ok value)
      (next : Reading rest ((option, value) :: given) given') :
      Reading ((argument, .option option (some text)) :: rest) given given'
  | following {argument text : String} {option : Opt} {value : Json}
      {rest : List (String × Word)} {given given' : List (Opt × Json)}
      (read : readValue option text = .ok value)
      (next : Reading rest ((option, value) :: given) given') :
      Reading ((argument, .option option none) :: (text, .operand) :: rest) given given'
  | other {argument : String} {word : Word} {rest : List (String × Word)}
      {given given' : List (Opt × Json)} (isOther : ∀ option text, word ≠ .option option text)
      (next : Reading rest given given') : Reading ((argument, word) :: rest) given given'

/-- Reading a line is a reading of its arguments. -/
theorem reading_readLine {words : List (String × Word)} {line line' : Line}
    (h : readLine words line = .ok line') : Reading words line.given line'.given := by
  fun_induction readLine words line with
  | case1 line =>
    cases h
    exact .done line'.given
  | case2 => cases h
  | case3 => cases h
  | case4 argument option text rest line hhelp ih =>
    obtain ⟨value, hread, h⟩ := exists_of_bind_eq_ok h
    exact .joined hread (ih value h)
  | case5 argument option text rest line hhelp ih =>
    obtain ⟨value, hread, h⟩ := exists_of_bind_eq_ok h
    exact .following hread (ih value h)
  | case6 => cases h
  | case7 line argument word rest hhelp hhelpValue hjoined hfollowing halone ih =>
    refine .other (fun option text hword => ?_) (ih h)
    cases text with
    | none => exact halone option hword
    | some text => exact hjoined option text hword

variable {words : List (String × Word)} {given given' : List (Opt × Json)}

theorem Reading.readsValues (h : Reading words given given') (hgiven : ReadsValues given) :
    ReadsValues given' := by
  induction h with
  | done => exact hgiven
  | joined read _ ih => exact ih (hgiven.cons read)
  | following read _ ih => exact ih (hgiven.cons read)
  | other _ _ ih => exact ih hgiven

/-- After a reading, values are given for the options of before and for those that were read. -/
theorem Reading.mem_iff (h : Reading words given given') (option : Opt) :
    option ∈ given'.map Prod.fst ↔ option ∈ given.map Prod.fst ∨ Among words option := by
  induction h with
  | done => simp [Among]
  | joined _ _ ih =>
    rw [ih, among_option, List.map_cons, List.mem_cons, or_comm (a := option = _), or_assoc]
  | @following _ text _ _ rest _ _ _ _ ih =>
    have hoperand : Among ((text, .operand) :: rest) option ↔ Among rest option :=
      among_other nofun
    rw [ih, among_option, hoperand, List.map_cons, List.mem_cons, or_comm (a := option = _),
      or_assoc]
  | other isOther _ ih => rw [ih, among_other isOther]

/-! ## Values that are settled -/

/-- Where the value of an option comes from. -/
inductive Settled (arguments : List String) (option : Opt) (setting : Json) : Json → Prop
  | given {text : String} {value : Json} (gives : Gives arguments option)
      (read : readValue option text = .ok value) : Settled arguments option setting value
  | setting (silent : ¬ Gives arguments option) : Settled arguments option setting setting

/-- Once a line is read, its last value for an option stands, or else the setting. -/
theorem settled_getD {arguments : List String} {words : List (String × Word)} {line : Line}
    (hsort : sortAll arguments = .ok words) (hline : readLine words ⟨[], []⟩ = .ok line)
    (option : Opt) (setting : Json) :
    Settled arguments option setting ((line.given.lookup option).getD setting) := by
  have hreading : Reading words [] line.given := reading_readLine hline
  have hgives : option ∈ line.given.map Prod.fst ↔ Gives arguments option := by
    rw [hreading.mem_iff option, among_sortAll hsort]
    simp
  cases hlookup : line.given.lookup option with
  | none =>
    refine .setting fun h => ?_
    obtain ⟨entry, hentry, rfl⟩ := List.mem_map.mp (hgives.mpr h)
    have hdiffers : (entry.1 != entry.1) = true := List.lookup_eq_none_iff.mp hlookup entry hentry
    simp at hdiffers
  | some value =>
    obtain ⟨before, after, hsplit, -⟩ := List.lookup_eq_some_iff.mp hlookup
    have hmem : (option, value) ∈ line.given := by simp [hsplit]
    have hreads : ReadsValues line.given := hreading.readsValues (by simp [ReadsValues])
    obtain ⟨text, hvalue⟩ := hreads _ hmem
    exact .given (hgives.mp (List.mem_map_of_mem hmem)) hvalue

section Parsing

variable {settings : Settings} {arguments : List String} {o : Options}

/-- The port that the line gives, or else the setting; a text is read. -/
def portFor (settings : Settings) (line : Line) : Except UsageError Json :=
  match line.given.lookup .port, settings.port with
  | none, .str text => readValue .port text
  | none, setting => .ok setting
  | some value, _ => .ok value

/-- The options that a line asks for, once it is read and its port is settled. -/
def optionsOf (settings : Settings) (line : Line) (port : Json) : Options where
  transport := (line.given.lookup .transport).getD settings.transport
  host := (line.given.lookup .host).getD settings.host
  port := port
  constraints := (line.given.lookup .constraints).getD settings.constraintsFile
  validationMode := (line.given.lookup .validationMode).getD settings.validationMode

theorem parse_eq (settings : Settings) (arguments : List String) : parse settings arguments =
    (sortAll arguments).bind fun words => (readLine words ⟨[], []⟩).bind fun line =>
      (portFor settings line).bind fun port =>
        if line.spare.isEmpty then .ok (optionsOf settings line port)
        else .error (.unrecognized line.spare) := by
  unfold parse
  cases sortAll arguments with
  | error e => rfl
  | ok words =>
    show (readLine words ⟨[], []⟩).bind _ = (readLine words ⟨[], []⟩).bind _
    cases readLine words ⟨[], []⟩ with
    | error e => rfl
    | ok line =>
      show _ = (portFor settings line).bind _
      simp only [portFor, bind, Except.bind]
      cases line.given.lookup .port with
      | none => cases settings.port <;> cases line.spare <;> rfl
      | some value => cases line.spare <;> rfl

/-- **What a command line settles.** All but the port comes from the line, where it has been read,
or is the setting as it is. -/
theorem settled_of_parse (h : parse settings arguments = .ok o) :
    Settled arguments .transport settings.transport o.transport
      ∧ Settled arguments .host settings.host o.host
      ∧ Settled arguments .constraints settings.constraintsFile o.constraints
      ∧ Settled arguments .validationMode settings.validationMode o.validationMode := by
  rw [parse_eq] at h
  obtain ⟨words, hsort, h⟩ := exists_of_bind_eq_ok h
  obtain ⟨line, hline, h⟩ := exists_of_bind_eq_ok h
  obtain ⟨port, -, h⟩ := exists_of_bind_eq_ok h
  have hsettled := settled_getD hsort hline
  split at h
  · cases h
    exact ⟨hsettled .transport _, hsettled .host _, hsettled .constraints _,
      hsettled .validationMode _⟩
  · cases h

end Parsing

/-! ## Values that can be used -/

/-- A transport that exists. -/
def UsableTransport (value : Json) : Prop := value = .str "stdio" ∨ value = .str "sse"

/-- A mode that a form can be checked in. -/
def UsableMode (value : Json) : Prop := ∃ mode, Mode.ofJson value = .ok mode

theorem usableMode_str_iff (text : String) :
    UsableMode (.str text) ↔ ∃ mode : Mode, Text.lower (Text.trim text) = mode.name := by
  unfold UsableMode
  rw [Mode.ofJson]
  constructor
  · rintro ⟨mode, h⟩
    split at h
    · next found hfound =>
      have hname := List.find?_some hfound
      rw [beq_iff_eq] at hname
      exact ⟨found, hname.symm⟩
    · cases h
  · rintro ⟨mode, h⟩
    have hfind : Mode.all.find? (fun other => other.name == mode.name) = some mode := by
      cases mode <;> rfl
    exact ⟨mode, by rw [h, hfind]⟩

/-- A value that is read for an option with choices is one of them. -/
theorem mem_choices_of_readValue {option : Opt} {words : List String} {text : String} {value : Json}
    (hchoices : option.choices = some words) (hport : option ≠ .port)
    (h : readValue option text = .ok value) : ∃ word ∈ words, value = .str word := by
  unfold readValue at h
  split at h
  · exact absurd rfl hport
  · next hsome =>
    rw [hchoices] at hsome
    cases hsome
    split at h
    · next hmem =>
      cases h
      exact ⟨text, hmem, rfl⟩
    · cases h
  · next hnone =>
    rw [hchoices] at hnone
    cases hnone

theorem usableTransport_of_readValue {text : String} {value : Json}
    (h : readValue .transport text = .ok value) : UsableTransport value := by
  obtain ⟨word, hmem, rfl⟩ := mem_choices_of_readValue rfl (by decide) h
  simpa [UsableTransport] using hmem

theorem usableMode_of_readValue {text : String} {value : Json}
    (h : readValue .validationMode text = .ok value) : UsableMode value := by
  obtain ⟨word, hmem, rfl⟩ := mem_choices_of_readValue rfl (by decide) h
  obtain ⟨mode, -, rfl⟩ := List.mem_map.mp hmem
  cases mode with
  | warn => exact ⟨.warn, by decide +kernel⟩
  | throw => exact ⟨.throw, by decide +kernel⟩
  | skip => exact ⟨.skip, by decide +kernel⟩

/-- A settled transport can be used exactly if the line gives it or the setting can be used. -/
theorem Settled.usableTransport_iff {arguments : List String} {setting value : Json}
    (h : Settled arguments .transport setting value) :
    UsableTransport value ↔ Gives arguments .transport ∨ UsableTransport setting := by
  cases h with
  | given gives read => exact iff_of_true (usableTransport_of_readValue read) (.inl gives)
  | setting silent => exact (or_iff_right silent).symm

theorem Settled.usableMode_iff {arguments : List String} {setting value : Json}
    (h : Settled arguments .validationMode setting value) :
    UsableMode value ↔ Gives arguments .validationMode ∨ UsableMode setting := by
  cases h with
  | given gives read => exact iff_of_true (usableMode_of_readValue read) (.inl gives)
  | setting silent => exact (or_iff_right silent).symm

/-! ## Launches and calls that fail -/

/-- The transport that the environment asks for. -/
def transportIn (environment : Entries String) : String :=
  (environment.get? "MCP_TRANSPORT").getD "stdio"

/-- The mode that the environment asks for. -/
def modeIn (environment : Entries String) : String :=
  Text.lower ((environment.get? "FORMSPEC_VALIDATION_MODE").getD "warn")

theorem settings_ofEnvironment {environment : Entries String} {settings : Settings}
    (h : Settings.ofEnvironment environment = .ok settings) :
    settings.transport = .str (transportIn environment)
      ∧ settings.validationMode = .str (modeIn environment) := by
  unfold Settings.ofEnvironment at h
  obtain ⟨indent, -, h⟩ := exists_of_bind_eq_ok h
  obtain ⟨port, -, h⟩ := exists_of_bind_eq_ok h
  cases h
  refine ⟨?_, rfl⟩
  dsimp only [transportIn]
  cases environment.get? "MCP_TRANSPORT" <;> rfl

section Running

variable {settings : Settings} {o : Options}

theorem transportFor_eq (name host port : Json) :
    (UsableTransport name ∧ ∃ transport, Service.transportFor name host port = .ok transport)
      ∨ (¬ UsableTransport name
        ∧ Service.transportFor name host port = .error (.transport name.plain)) := by
  unfold Service.transportFor UsableTransport
  split
  · exact .inl ⟨.inl rfl, _, rfl⟩
  · exact .inl ⟨.inr rfl, _, rfl⟩
  · next hstdio hsse => exact .inr ⟨not_or.mpr ⟨hstdio, hsse⟩, rfl⟩

/-- A log level that is none is not taken for a transport that does not exist. -/
theorem checkLevel_ne_transport (level : Json) (shown : String) :
    Service.checkLevel level ≠ .error (.transport shown) := by
  unfold Service.checkLevel
  split
  case h_4 => split <;> simp
  all_goals simp

theorem launch_transport_error_iff (workspace : Workspace) (shown : String) :
    (o.launch settings workspace).outcome = .error (.transport shown)
      ↔ Service.checkLevel settings.logLevel = .ok ()
        ∧ (∃ server, (Service.Server.create (o.apply settings) workspace none).outcome
            = .ok server)
        ∧ ¬ UsableTransport o.transport ∧ shown = o.transport.plain := by
  have hlevel : (o.apply settings).logLevel = settings.logLevel := rfl
  unfold Options.launch Service.launch
  simp only [Logged.outcome_bind, Logged.outcome_ofExcept, Logged.outcome_mapError,
    Logged.outcome_pure, hlevel]
  cases hcheck : Service.checkLevel settings.logLevel with
  | error e =>
    have hne := checkLevel_ne_transport settings.logLevel shown
    rw [hcheck] at hne
    simpa [Except.bind] using hne
  | ok level =>
    cases (Service.Server.create (o.apply settings) workspace none).outcome with
    | error e => simp [Except.bind, Except.mapError]
    | ok server =>
      rcases transportFor_eq o.transport o.host o.port with
        ⟨husable, transport, hok⟩ | ⟨husable, herr⟩
      · simp [Except.bind, Except.mapError, hok, husable]
      · simp [Except.bind, Except.mapError, herr, husable, eq_comm]

theorem ending_eq_transport_iff (e : Service.LaunchError) (shown : String) :
    e.ending = .error (.transport shown) ↔ e = .transport shown := by
  cases e with
  | policy error =>
    unfold Service.LaunchError.ending
    dsimp only
    split <;> simp
  | _ => simp [Service.LaunchError.ending]

/-- A run reports neither the end of a server nor an error about a file as one about the
transport. -/
theorem run_transport_error_iff (workspace : Workspace) (served : Service.Ending)
    (shown : String) : (o.run settings workspace served).outcome = .error (.transport shown)
      ↔ (o.launch settings workspace).outcome = .error (.transport shown) := by
  unfold Options.run
  generalize o.launch settings workspace = launched
  obtain ⟨log, outcome⟩ := launched
  cases outcome with
  | ok pair => simp
  | error e =>
    rw [Except.error.injEq, ← ending_eq_transport_iff]
    dsimp only
    cases e.ending <;> simp

/-- A run ends for its transport exactly if the transport does not exist and nothing else stops the
launch before. -/
theorem transport_error_iff (workspace : Workspace) (served : Service.Ending) (shown : String) :
    (o.run settings workspace served).outcome = .error (.transport shown)
      ↔ Service.checkLevel settings.logLevel = .ok ()
        ∧ (∃ server, (Service.Server.create (o.apply settings) workspace none).outcome
            = .ok server)
        ∧ ¬ UsableTransport o.transport ∧ shown = o.transport.plain := by
  rw [run_transport_error_iff, launch_transport_error_iff]

/-- What stops the reading of a call is not its mode. -/
theorem subject_ne_mode (usual : Option Policy) (call : Json) (e : ModeError) :
    Service.subject usual call ≠ .error (.mode e) := by
  unfold Service.subject Service.formIn
  cases Form.load (call.getD "formspec") with
  | error error => simp [Except.bind, Except.mapError]
  | ok form =>
    cases Service.policyFor usual call with
    | error error => simp [Except.bind, Except.mapError]
    | ok policy => simp [Except.bind, Except.mapError]

/-- A call without a mode fails for the mode exactly if it is a build that can be read and the mode
of the settings is none. -/
theorem mode_error_iff {tool : Service.Tool} (usual : Option Policy) {call : Json}
    (hcall : call.getD "validation_mode" = .null) :
    (∃ e, (tool.run settings usual call).outcome = .error (.mode e))
      ↔ tool = .build ∧ ¬ Service.Unreadable call ∧ ¬ UsableMode settings.validationMode := by
  have hmode : Service.requestedMode settings call = settings.validationMode := by
    rw [Service.requestedMode, hcall]
  rw [Service.unreadable_iff usual]
  cases hread : Service.subject usual call with
  | error error =>
    have hne : ∀ e, error ≠ .mode e := by
      rintro e rfl
      exact subject_ne_mode usual call e hread
    have hrun : (tool.run settings usual call).outcome = .error error := by
      cases tool with
      | validate => rw [Service.Tool.run, Service.outcome_validateForm, hread, Except.map]
      | build => rw [Service.Tool.run, Service.outcome_buildSchemas, hread, Except.bind]
    simp [hrun, hne]
  | ok read =>
    cases tool with
    | validate =>
      rw [Service.Tool.run, Service.outcome_validateForm, hread]
      simp [Except.map]
    | build =>
      rw [Service.Tool.run, Service.outcome_buildSchemas, hmode, hread]
      unfold UsableMode
      cases Mode.ofJson settings.validationMode with
      | error e => simp [Except.bind, Except.mapError]
      | ok mode =>
        -- once the mode is settled, only the form can be refused
        simp only [Except.bind, Except.mapError]
        cases ((Service.compilerFor settings call mode read.2).compile read.1).outcome <;> simp

/-- A server is created without a policy where there is none to be loaded. -/
theorem create_of_nothing {workspace : Workspace}
    (h : Policy.Chosen settings workspace .null .null .null none) :
    (Service.Server.create settings workspace none).outcome = .ok ⟨none⟩ := by
  unfold Service.Server.create
  show ((Policy.loadHere settings workspace) >>= _).outcome = _
  rw [Logged.outcome_bind, Policy.loadHere, Policy.outcome_load_none h]
  rfl

end Running

/-- **Settings that a server is started with.** A transport or a mode that is settled can be used
exactly if the line gives it or the environment names one that can. Otherwise the launch ends with
an error about the transport, if nothing else stops it before, and every build that names no mode
itself fails for the mode, if it can be read. -/
theorem usable_iff {environment : Entries String} {settings : Settings} {arguments : List String}
    {o : Options} (hsettings : Settings.ofEnvironment environment = .ok settings)
    (hparse : parse settings arguments = .ok o) :
    (UsableTransport o.transport
        ↔ Gives arguments .transport ∨ transportIn environment ∈ ["stdio", "sse"])
      ∧ (UsableMode o.validationMode ↔ Gives arguments .validationMode
          ∨ ∃ mode : Mode, Text.lower (Text.trim (modeIn environment)) = mode.name)
      ∧ (∀ workspace served shown,
          (o.run settings workspace served).outcome = .error (.transport shown)
            ↔ Service.checkLevel settings.logLevel = .ok ()
              ∧ (∃ server, (Service.Server.create (o.apply settings) workspace none).outcome
                  = .ok server)
              ∧ ¬ UsableTransport o.transport ∧ shown = o.transport.plain)
      ∧ ∀ (tool : Service.Tool) (usual : Option Policy) (call : Json),
          call.getD "validation_mode" = .null →
            ((∃ e, (tool.run (o.apply settings) usual call).outcome = .error (.mode e))
              ↔ tool = .build ∧ ¬ Service.Unreadable call ∧ ¬ UsableMode o.validationMode) := by
  obtain ⟨htransport, hmode⟩ := settings_ofEnvironment hsettings
  obtain ⟨hsettledTransport, -, -, hsettledMode⟩ := settled_of_parse hparse
  refine ⟨?_, ?_, transport_error_iff, fun tool usual call hcall => mode_error_iff usual hcall⟩
  · rw [hsettledTransport.usableTransport_iff, htransport]
    simp [UsableTransport]
  · rw [hsettledMode.usableMode_iff, hmode, usableMode_str_iff]

theorem usable_iff_mode_on_line :
    ∃ settings o, Settings.ofEnvironment
        [("MCP_TRANSPORT", "tcp"), ("FORMSPEC_VALIDATION_MODE", "loud")] = .ok settings
      ∧ parse settings ["--validation-mode", "throw"] = .ok o
      ∧ ¬ UsableTransport o.transport ∧ UsableMode o.validationMode
      ∧ (o.run settings ⟨⟨[], []⟩, []⟩ .finished).outcome = .error (.transport "tcp") := by
  let settings : Settings := { transport := .str "tcp", validationMode := .str "loud" }
  let o : Options := ⟨.str "tcp", .str "0.0.0.0", .int 8080, .null, .str "throw"⟩
  have hsettings : Settings.ofEnvironment
      [("MCP_TRANSPORT", "tcp"), ("FORMSPEC_VALIDATION_MODE", "loud")] = .ok settings := by rfl
  have hsort : sortAll ["--validation-mode", "throw"]
      = .ok [("--validation-mode", .option .validationMode none), ("throw", .operand)] := by
    decide +kernel
  have hparse : parse settings ["--validation-mode", "throw"] = .ok o := by
    rw [parse_eq, hsort]
    rfl
  obtain ⟨-, hmode, hrun, -⟩ := usable_iff hsettings hparse
  have htransport : ¬ UsableTransport o.transport := by simp [UsableTransport, o]
  have hgives : Gives ["--validation-mode", "throw"] .validationMode :=
    ⟨"--validation-mode", by decide, none, by decide +kernel⟩
  refine ⟨settings, o, hsettings, hparse, htransport, hmode.mpr (.inl hgives), ?_⟩
  have hnothing : Policy.Chosen (o.apply settings) ⟨⟨[], []⟩, []⟩ .null .null .null none :=
    .nothing ⟨rfl, rfl⟩ (Policy.startPath_of_not_isSet rfl) (by decide +kernel)
  rw [hrun]
  exact ⟨rfl, ⟨_, create_of_nothing hnothing⟩, htransport, rfl⟩

/-- A transport and a mode from the environment are accepted as they are: the launch ends for the
one, and a build fails for the other. -/
theorem unknown_settings_accepted :
    ∃ settings o, Settings.ofEnvironment
        [("MCP_TRANSPORT", "tcp"), ("FORMSPEC_VALIDATION_MODE", "loud")] = .ok settings
      ∧ parse settings [] = .ok o
      ∧ ¬ UsableTransport o.transport ∧ ¬ UsableMode o.validationMode
      ∧ (o.run settings ⟨⟨[], []⟩, []⟩ .finished).outcome = .error (.transport "tcp")
      ∧ (Service.Tool.run .build (o.apply settings) none
          (.obj [("formspec", .obj [("elements", .arr [])])])).outcome
            = .error (.mode (.unknown "loud")) := by
  let settings : Settings := { transport := .str "tcp", validationMode := .str "loud" }
  let o : Options := ⟨.str "tcp", .str "0.0.0.0", .int 8080, .null, .str "loud"⟩
  have hmode : Mode.ofJson (.str "loud") = .error (.unknown "loud") := by rfl
  have htransport : ¬ UsableTransport o.transport := by simp [UsableTransport, o]
  have hnothing : Policy.Chosen (o.apply settings) ⟨⟨[], []⟩, []⟩ .null .null .null none :=
    .nothing ⟨rfl, rfl⟩ (Policy.startPath_of_not_isSet rfl) (by decide +kernel)
  refine ⟨settings, o, by rfl, by rfl, htransport, ?_, ?_, by rfl⟩
  · rintro ⟨mode, h⟩
    exact absurd (hmode.symm.trans h) (by simp)
  · exact (transport_error_iff _ _ _).mpr
      ⟨rfl, ⟨_, create_of_nothing hnothing⟩, htransport, rfl⟩

end CommandLine

end FormSchema
