import FormSchema.Policy.Check
import FormSchema.Proofs.Intake.Written
import FormSchema.Proofs.Policy.Errors
import FormSchema.Proofs.Yaml.Outline.Values

/-!
# FormSchema — policies in their own notation

A policy is written as a document in block style that lists settings under their sections. Not all
settings have to be listed, but those that differ from their defaults do. Such a document is read as
the policy that it was written from, unless it lists a setting as off: behind a colon, YAML reads
`off` as a truth value and not as a word.

* **`Setting`**, **`Policy.valueOf`** — the settings of a policy and their values.
* **`Policy.document`** — the document that lists some settings of a policy.
* **`says_document`** — what the document says: each level is a text, except that off is false.
* **`readLevel_setting`** — one setting is read as it is, or it has the one fault of a level that is
  off; **`readDocument_members`** — so all of them are, section by section.
* **`document_read`** — the statement about texts. **`ofText_changed`** — a document that lists the
  changes only is always read.
-/

namespace FormSchema

open Intake Yaml

namespace Policy

/-! ## Settings -/

/-- The sections of a policy's document. -/
inductive Part
  | fieldTypes
  | layout
  | fieldOptions
  deriving DecidableEq, Repr

namespace Part

def name : Part → String
  | .fieldTypes => "fieldTypes"
  | .layout => "layout"
  | .fieldOptions => "fieldOptions"

def otherName? : Part → Option String
  | .fieldTypes => some "field_types"
  | .layout => none
  | .fieldOptions => some "field_options"

def key (part : Part) : Key := ⟨part.name, part.otherName?⟩

end Part

/-- What a policy can restrict. -/
inductive Setting
  | kind (kind : FieldKind)
  | group
  | conditionals
  | nestingDepth
  | option (option : FieldOption)
  deriving DecidableEq, Repr

namespace Setting

def part : Setting → Part
  | .kind _ => .fieldTypes
  | .group => .layout
  | .conditionals => .layout
  | .nestingDepth => .layout
  | .option _ => .fieldOptions

/-- The key of a setting in its section. -/
def name : Setting → String
  | .kind .text => "text"
  | .kind .number => "number"
  | .kind .boolean => "boolean"
  | .kind .staticEnum => "staticEnum"
  | .kind .dynamicEnum => "dynamicEnum"
  | .kind .dynamicSchema => "dynamicSchema"
  | .kind .array => "array"
  | .kind .object => "object"
  | .group => "group"
  | .conditionals => "conditionals"
  | .nestingDepth => "maxNestingDepth"
  | .option o => o.displayName

/-- The other spelling of a key of several words, in which documents are read but not written. -/
def otherName? : Setting → Option String
  | .kind .staticEnum => some "static_enum"
  | .kind .dynamicEnum => some "dynamic_enum"
  | .kind .dynamicSchema => some "dynamic_schema"
  | .nestingDepth => some "max_nesting_depth"
  | .option .minValue => some "min_value"
  | .option .maxValue => some "max_value"
  | .option .minItems => some "min_items"
  | .option .maxItems => some "max_items"
  | _ => none

def key (s : Setting) : Key := ⟨s.name, s.otherName?⟩

end Setting

/-- The settings of a section, in the order in which they are read. -/
def Part.settings : Part → List Setting
  | .fieldTypes =>
    [.kind .text, .kind .number, .kind .boolean, .kind .staticEnum, .kind .dynamicEnum,
      .kind .dynamicSchema, .kind .array, .kind .object]
  | .layout => [.group, .conditionals, .nestingDepth]
  | .fieldOptions =>
    [.option .label, .option .placeholder, .option .required, .option .minValue,
      .option .maxValue, .option .minItems, .option .maxItems]

def Setting.all : List Setting :=
  Part.fieldTypes.settings ++ Part.layout.settings ++ Part.fieldOptions.settings

theorem Setting.mem_all (s : Setting) : s ∈ all := by
  cases s with
  | kind kind => cases kind <;> decide
  | option option => cases option <;> decide
  | _ => decide

theorem Setting.name_injective : Function.Injective Setting.name := by
  intro s t h
  have hnames : (all.map Setting.name).Nodup := by decide +kernel
  exact List.inj_on_of_nodup_map hnames (mem_all s) (mem_all t) h

theorem Part.name_injective : Function.Injective Part.name := by
  intro a b h
  cases a <;> cases b <;> first | rfl | exact absurd h (by decide)

/-- No setting is written under another spelling. -/
theorem Setting.name_ne_otherName (s : Setting) : ∀ other ∈ s.otherName?, ∀ t : Setting,
    t.name ≠ other := by
  have hall : ∀ s ∈ all, ∀ other ∈ s.otherName?, ∀ t ∈ all, t.name ≠ other := by decide +kernel
  exact fun other hother t => hall s (mem_all s) other hother t (mem_all t)

theorem Part.name_ne_otherName (part : Part) : ∀ other ∈ part.otherName?, ∀ t : Part,
    t.name ≠ other := by
  intro other hother t
  cases part <;> cases hother <;> cases t <;> decide

theorem Part.part_of_mem_settings {part : Part} {s : Setting} (h : s ∈ part.settings) :
    s.part = part := by
  revert s
  cases part <;> decide

/-- A level, or a limit if there is one. -/
inductive SettingValue
  | level (level : Level)
  | limit (limit : Option Nat)
  deriving DecidableEq, Repr

section

variable (p : Policy)

def valueOf : Setting → SettingValue
  | .kind kind => .level (p.fieldTypes.of kind)
  | .group => .level p.layout.group
  | .conditionals => .level p.layout.conditionals
  | .nestingDepth => .limit p.layout.maxNestingDepth
  | .option option => .level (p.fieldOptions.of option)

/-- Every setting that differs from its default is listed. -/
def Lists (listed : List Setting) : Prop :=
  ∀ s, p.valueOf s ≠ ({} : Policy).valueOf s → s ∈ listed

instance (listed : List Setting) : Decidable (p.Lists listed) :=
  decidable_of_iff (∀ s ∈ Setting.all, p.valueOf s ≠ ({} : Policy).valueOf s → s ∈ listed)
    ⟨fun h s => h s (Setting.mem_all s), fun h s _ => h s⟩

theorem default_of_level {p : Policy} {s : Setting} {l : Level} (h : p.valueOf s = .level l) :
    ({} : Policy).valueOf s = .level .off := by
  cases s with
  | kind kind => cases kind <;> rfl
  | option o => cases o <;> rfl
  | nestingDepth => cases h
  | _ => rfl

/-- The settings make up the policy. -/
theorem valueOf_injective : Function.Injective valueOf := by
  intro p q h
  have hall : ∀ s ∈ Setting.all, p.valueOf s = q.valueOf s := fun s _ => congrFun h s
  obtain ⟨⟨⟩, ⟨⟩, ⟨⟩⟩ := p
  obtain ⟨⟨⟩, ⟨⟩, ⟨⟩⟩ := q
  simpa [Setting.all, Part.settings, valueOf, KindLevels.of, OptionLevels.of, and_assoc] using hall

/-! ## Documents -/

/-- How a value is written: a level by its name, a limit in decimal, and no limit as nothing. -/
def SettingValue.outline : SettingValue → Outline
  | .level l => .word l.name
  | .limit none => .block []
  | .limit (some n) => .word (toString n)

/-- The settings that are listed of a section, in their order. -/
def listedIn (listed : List Setting) (part : Part) : List Setting :=
  listed.filter fun s => s.part = part

/-- The sections of which settings are listed. -/
def listedParts (listed : List Setting) : List Part := firstOccurrences (listed.map Setting.part)

def partOutline (listed : List Setting) (part : Part) : Outline :=
  .block ((listedIn listed part).map fun s => (s.name, (p.valueOf s).outline))

def outline (listed : List Setting) : Outline :=
  .block ((listedParts listed).map fun part => (part.name, p.partOutline listed part))

/-- The document that lists some settings of a policy. Every block in it is indented by `width`. -/
def document (width : Nat) (listed : List Setting) : List Char :=
  Outline.entriesText width 0 [("constraints", p.outline listed)]

end

section

variable {p : Policy} {listed : List Setting}

theorem plain_setting (s : Setting) : IsWord s.name.toList ∧ s.name.toList.length ≤ 1024 := by
  have hall : ∀ s ∈ Setting.all, IsWord s.name.toList ∧ s.name.toList.length ≤ 1024 := by
    decide +kernel
  exact hall s (Setting.mem_all s)

theorem plain_part (part : Part) : IsWord part.name.toList ∧ part.name.toList.length ≤ 1024 := by
  cases part <;> decide +kernel

theorem plain_value (value : SettingValue) : value.outline.Plain := by
  cases value with
  | level l =>
    have hname : IsWord l.name.toList := by cases l <;> decide +kernel
    exact hname
  | limit limit =>
    cases limit with
    | none => trivial
    | some n =>
      have hdigits := Number.isDigits_toDigits n
      show IsWord (toString n).toList
      rw [Nat.toString_eq_ofList_toDigits, String.toList_ofList]
      refine ⟨hdigits.ne_nil, fun c hc => ?_⟩
      rw [Char.isAlphanum, hdigits.isDigit c hc, Bool.or_true]

theorem plain_document (p : Policy) (listed : List Setting) :
    Outline.PlainEntries [("constraints", p.outline listed)] := by
  have hpart (part : Part) : (p.partOutline listed part).Plain :=
    Outline.plainEntries_map plain_setting _ fun s _ => plain_value (p.valueOf s)
  have hparts : (p.outline listed).Plain :=
    Outline.plainEntries_map plain_part _ fun part _ => hpart part
  exact ⟨by decide +kernel, hparts, trivial⟩

/-! ## What a document says -/

def SettingValue.value : SettingValue → Value
  | .level .off => .bool false
  | .level .warn => .text "warn"
  | .level .error => .text "error"
  | .limit none => .null
  | .limit (some n) => .int n

theorem says_value (value : SettingValue) : value.outline.Says value.value := by
  cases value with
  | level l =>
    cases l with
    | off => exact Outline.says_flag (by decide +kernel) (by decide +kernel)
    | warn => exact Outline.says_text (by decide +kernel)
    | error => exact Outline.says_text (by decide +kernel)
  | limit limit =>
    cases limit with
    | none => exact Outline.says_nothing
    | some n => exact Outline.says_toString n

theorem ofPlain_setting (s : Setting) : Tag.ofPlain s.name = .text := by
  have hall : ∀ s ∈ Setting.all, Tag.ofPlain s.name = .text := by decide +kernel
  exact hall s (Setting.mem_all s)

theorem ofPlain_part (part : Part) : Tag.ofPlain part.name = .text := by
  cases part <;> decide +kernel

end

section

variable (p : Policy) (listed : List Setting)

theorem mem_listedParts {part : Part} : part ∈ listedParts listed ↔ listedIn listed part ≠ [] := by
  rw [listedParts, mem_firstOccurrences, List.mem_map, listedIn, Ne, List.filter_eq_nil_iff]
  simp

def partValue (part : Part) : Value :=
  .map ((listedIn listed part).map fun s => (.text s.name, (p.valueOf s).value))

/-- The sections of which settings are listed, with what the settings say. -/
def partsValue : Value :=
  .map ((listedParts listed).map fun part => (.text part.name, p.partValue listed part))

def documentValue : Value := .map [(.text "constraints", p.partsValue listed)]

/-- A document says what its settings say, section by section. -/
theorem says_document (hne : listed ≠ []) :
    (Outline.block [("constraints", p.outline listed)]).Says (p.documentValue listed) := by
  have hpart : ∀ part ∈ listedParts listed,
      (p.partOutline listed part).Says (p.partValue listed part) :=
    fun part hpart => Outline.says_block ((mem_listedParts listed).mp hpart)
      (fun s _ => ofPlain_setting s) fun s _ => says_value (p.valueOf s)
  have hparts : listedParts listed ≠ [] := by
    obtain ⟨s, hs⟩ := List.exists_mem_of_ne_nil listed hne
    exact List.ne_nil_of_mem (mem_firstOccurrences.mpr (List.mem_map_of_mem hs))
  have hconstraints : Tag.ofPlain "constraints" = .text := by decide +kernel
  exact Outline.says_entry hconstraints
    (Outline.says_block hparts (fun part _ => ofPlain_part part) hpart)

/-- The settings that are listed of a section, as members. -/
def partMembers (part : Part) : Entries Json :=
  .ofList ((listedIn listed part).map fun s => (s.name, (p.valueOf s).value.toJson))

/-- The sections of which settings are listed, as members. -/
def members : Entries Json :=
  .ofList ((listedParts listed).map fun part => (part.name, .obj (p.partMembers listed part)))

theorem toJson_documentValue :
    (p.documentValue listed).toJson
      = .ofMembers [("constraints", .obj (p.members listed))] := by
  have hpart (part : Part) : (p.partValue listed part).toJson = .obj (p.partMembers listed part) :=
    Outline.toJson_texts _
  have hparts : (p.partsValue listed).toJson = .obj (p.members listed) := by
    refine (Outline.toJson_texts _).trans ?_
    simp only [hpart]
    rfl
  rw [← hparts]
  rfl

end

/-! ## Reading a document -/

/-- What is wrong with a level that is a truth value, seen from the setting's section. -/
def Setting.offFault (s : Setting) : Fault := ⟨[.key s.name], .notAmong ["error", "warn", "off"]⟩

section

variable (p : Policy) (listed : List Setting)

/-- The settings among some that are listed as off. -/
def listedOff (settings : List Setting) : List Setting :=
  settings.filter fun s => s ∈ listed ∧ p.valueOf s = .level .off

theorem listedOff_append (settings more : List Setting) :
    p.listedOff listed (settings ++ more)
      = p.listedOff listed settings ++ p.listedOff listed more :=
  List.filter_append ..

theorem listedOff_singleton (s : Setting) :
    p.listedOff listed [s] = if s ∈ listed ∧ p.valueOf s = .level .off then [s] else [] := by
  by_cases h : s ∈ listed ∧ p.valueOf s = .level .off <;> simp [listedOff, h]

theorem listedOff_eq_nil_iff :
    p.listedOff listed Setting.all = [] ↔ ∀ s ∈ listed, p.valueOf s ≠ .level .off := by
  rw [listedOff, List.filter_eq_nil_iff]
  constructor
  · intro h s hs hoff
    exact h s (Setting.mem_all s) (decide_eq_true ⟨hs, hoff⟩)
  · intro h s _ hs
    obtain ⟨hs, hoff⟩ := of_decide_eq_true hs
    exact h s hs hoff

theorem optional_setting {α : Type} (s : Setting) (absent : α) (check : Json → Checked α) :
    optional s.key absent check (p.partMembers listed s.part)
      = if s ∈ listed then (check (p.valueOf s).value.toJson).under (.key s.name)
        else .accepted absent := by
  have hread := optional_ofList_map Setting.name_injective (rfl : s.key.name = s.name)
    s.name_ne_otherName absent check (fun t => (p.valueOf t).value.toJson)
    (listedIn listed s.part)
  have hmem : s ∈ listedIn listed s.part ↔ s ∈ listed := by
    simp [listedIn]
  rw [partMembers, hread]
  simp only [hmem]

end

section

variable {p : Policy} {listed : List Setting}

/-- A level is read as it is, except that off is a fault where it is listed. -/
theorem readLevel_setting (hlisted : p.Lists listed) {s : Setting} {l : Level}
    (hlevel : p.valueOf s = .level l) :
    readLevel s.key (p.partMembers listed s.part)
      = .unlessFaulty l ((p.listedOff listed [s]).map Setting.offFault) := by
  have hdefault := default_of_level hlevel
  unfold readLevel
  rw [optional_setting, hlevel, listedOff_singleton, hlevel]
  by_cases hs : s ∈ listed
  · rw [if_pos hs]
    cases l with
    | off =>
      rw [if_pos ⟨hs, rfl⟩]
      rfl
    | warn =>
      rw [if_neg (by simp)]
      rfl
    | error =>
      rw [if_neg (by simp)]
      rfl
  · have hoff : l = .off := by
      by_contra hne
      refine hs (hlisted s ?_)
      rw [hlevel, hdefault]
      simpa using hne
    rw [if_neg hs, if_neg fun h => hs h.1, hoff]
    rfl

theorem read_kindLevels (hlisted : p.Lists listed) :
    KindLevels.read (.obj (p.partMembers listed .fieldTypes))
      = .unlessFaulty p.fieldTypes
        ((p.listedOff listed Part.fieldTypes.settings).map Setting.offFault) := by
  have hread (kind : FieldKind) :
      readLevel (Setting.kind kind).key (p.partMembers listed .fieldTypes)
        = .unlessFaulty (p.fieldTypes.of kind)
          ((p.listedOff listed [.kind kind]).map Setting.offFault) :=
    readLevel_setting hlisted rfl
  show KindLevels.mk <$> readLevel (Setting.kind .text).key _
      <*> readLevel (Setting.kind .number).key _
      <*> readLevel (Setting.kind .boolean).key _
      <*> readLevel (Setting.kind .staticEnum).key _
      <*> readLevel (Setting.kind .dynamicEnum).key _
      <*> readLevel (Setting.kind .dynamicSchema).key _
      <*> readLevel (Setting.kind .array).key _
      <*> readLevel (Setting.kind .object).key _ = _
  simp only [hread, Checked.fmap_unlessFaulty, Checked.seq_unlessFaulty, ← List.map_append,
    ← listedOff_append]
  rfl

/-- A limit is read as it is, and no limit too. -/
theorem read_depth (hlisted : p.Lists listed) :
    optional Setting.nestingDepth.key none (orNull natural) (p.partMembers listed .layout)
      = .accepted p.layout.maxNestingDepth := by
  refine (optional_setting p listed .nestingDepth none (orNull natural)).trans ?_
  cases hdepth : p.layout.maxNestingDepth with
  | none =>
    rw [valueOf, hdepth]
    split <;> rfl
  | some n =>
    have hs : Setting.nestingDepth ∈ listed := by
      refine hlisted .nestingDepth ?_
      rw [valueOf, hdepth]
      simp [valueOf]
    rw [if_pos hs, valueOf, hdepth]
    rfl

theorem read_layoutLevels (hlisted : p.Lists listed) :
    LayoutLevels.read (.obj (p.partMembers listed .layout))
      = .unlessFaulty p.layout
        ((p.listedOff listed Part.layout.settings).map Setting.offFault) := by
  have hgroup : readLevel Setting.group.key (p.partMembers listed .layout)
      = .unlessFaulty p.layout.group ((p.listedOff listed [.group]).map Setting.offFault) :=
    readLevel_setting hlisted rfl
  have hconditionals : readLevel Setting.conditionals.key (p.partMembers listed .layout)
      = .unlessFaulty p.layout.conditionals
        ((p.listedOff listed [.conditionals]).map Setting.offFault) :=
    readLevel_setting hlisted rfl
  -- a limit is never off, so the depth adds nothing to the settings that are
  have hdepth : optional Setting.nestingDepth.key none (orNull natural)
        (p.partMembers listed .layout)
      = .unlessFaulty p.layout.maxNestingDepth
        ((p.listedOff listed [.nestingDepth]).map Setting.offFault) := by
    rw [read_depth hlisted, listedOff_singleton, if_neg (by simp [valueOf])]
    rfl
  show LayoutLevels.mk <$> readLevel Setting.group.key _
      <*> readLevel Setting.conditionals.key _
      <*> optional Setting.nestingDepth.key none (orNull natural) _ = _
  simp only [hgroup, hconditionals, hdepth, Checked.fmap_unlessFaulty, Checked.seq_unlessFaulty,
    ← List.map_append, ← listedOff_append]
  rfl

theorem read_optionLevels (hlisted : p.Lists listed) :
    OptionLevels.read (.obj (p.partMembers listed .fieldOptions))
      = .unlessFaulty p.fieldOptions
        ((p.listedOff listed Part.fieldOptions.settings).map Setting.offFault) := by
  have hread (o : FieldOption) :
      readLevel (Setting.option o).key (p.partMembers listed .fieldOptions)
        = .unlessFaulty (p.fieldOptions.of o)
          ((p.listedOff listed [.option o]).map Setting.offFault) :=
    readLevel_setting hlisted rfl
  show OptionLevels.mk <$> readLevel (Setting.option .label).key _
      <*> readLevel (Setting.option .placeholder).key _
      <*> readLevel (Setting.option .required).key _
      <*> readLevel (Setting.option .minValue).key _
      <*> readLevel (Setting.option .maxValue).key _
      <*> readLevel (Setting.option .minItems).key _
      <*> readLevel (Setting.option .maxItems).key _ = _
  simp only [hread, Checked.fmap_unlessFaulty, Checked.seq_unlessFaulty, ← List.map_append,
    ← listedOff_append]
  rfl

/-- A section is read from its members if it is listed, and has its defaults if it is not. -/
theorem optional_part {α : Type} {part : Part} {check : Json → Checked α} {absent value : α}
    {settings : List Setting} (hpart : ∀ s ∈ settings, s.part = part)
    (hread : check (.obj (p.partMembers listed part))
      = .unlessFaulty value ((p.listedOff listed settings).map Setting.offFault))
    (habsent : check (.obj []) = .accepted absent) :
    optional part.key absent check (p.members listed)
      = .unlessFaulty value ((p.listedOff listed settings).map fun s =>
          s.offFault.under (.key s.part.name)) := by
  have hwritten := optional_ofList_map Part.name_injective (rfl : part.key.name = part.name)
    part.name_ne_otherName absent check (fun part => .obj (p.partMembers listed part))
    (listedParts listed)
  have hunder : (p.listedOff listed settings).map (fun s => s.offFault.under (.key s.part.name))
      = ((p.listedOff listed settings).map Setting.offFault).map (·.under (.key part.name)) := by
    rw [List.map_map]
    refine List.map_congr_left fun s hs => ?_
    rw [hpart s (List.mem_filter.mp hs).1]
    rfl
  rw [members, hwritten, hunder]
  split
  · rw [hread, Checked.under_unlessFaulty]
  · next hnot =>
    have hnone : listedIn listed part = [] := by
      by_contra hne
      exact hnot ((mem_listedParts listed).mpr hne)
    have hempty : p.partMembers listed part = [] := by
      rw [partMembers, hnone]
      rfl
    rw [hempty, habsent, eq_comm, Checked.unlessFaulty_eq_accepted_iff] at hread
    rw [hread.1, hread.2]
    rfl

/-- The fault at a level that is off, seen from the start of the document. -/
def Setting.offFaultIn (s : Setting) : Fault :=
  ⟨[.key "constraints", .key s.part.name, .key s.name], .notAmong ["error", "warn", "off"]⟩

/-- What the members of a document are read as. -/
theorem readDocument_members (hlisted : p.Lists listed) :
    readDocument (.ofMembers [("constraints", .obj (p.members listed))])
      = .unlessFaulty p ((p.listedOff listed Setting.all).map Setting.offFaultIn) := by
  have hkinds : optional Part.fieldTypes.key {} KindLevels.read (p.members listed) = _ :=
    optional_part (fun _ => Part.part_of_mem_settings) (read_kindLevels hlisted) rfl
  have hlayout : optional Part.layout.key {} LayoutLevels.read (p.members listed) = _ :=
    optional_part (fun _ => Part.part_of_mem_settings) (read_layoutLevels hlisted) rfl
  have hoptions : optional Part.fieldOptions.key {} OptionLevels.read (p.members listed) = _ :=
    optional_part (fun _ => Part.part_of_mem_settings) (read_optionLevels hlisted) rfl
  show (Policy.mk <$> optional Part.fieldTypes.key {} KindLevels.read (p.members listed)
      <*> optional Part.layout.key {} LayoutLevels.read (p.members listed)
      <*> optional Part.fieldOptions.key {} OptionLevels.read (p.members listed)).under
        (.key "constraints") = _
  rw [hkinds, hlayout, hoptions]
  simp only [Checked.fmap_unlessFaulty, Checked.seq_unlessFaulty, ← List.map_append,
    ← listedOff_append, Checked.under_unlessFaulty, List.map_map]
  rfl

end

/-! ## Texts -/

/-- The faults at levels that are listed as off are all that keeps a document from being read. -/
theorem ofText_document (source : String) {width : Nat} (hwidth : 0 < width) {p : Policy}
    {listed : List Setting} (hne : listed ≠ []) (hlisted : p.Lists listed) :
    ofText source (p.document width listed)
      = ((Checked.unlessFaulty p
          ((p.listedOff listed Setting.all).map Setting.offFaultIn)).toExcept
            "FormSpecFileConfig").mapError (.invalid source) := by
  have hread : Yaml.read (p.document width listed) = .ok (p.documentValue listed) :=
    read_entriesText hwidth (List.cons_ne_nil _ _) (plain_document p listed)
      (says_document p listed hne)
  rw [ofText_eq, hread]
  show ((readDocument (p.documentValue listed).toJson).toExcept "FormSpecFileConfig").mapError
    (PolicyError.invalid source) = _
  rw [toJson_documentValue, readDocument_members hlisted]

section

variable (p : Policy)

/-- The settings that differ from their defaults. -/
def changed : List Setting :=
  Setting.all.filter fun s => p.valueOf s ≠ ({} : Policy).valueOf s

theorem mem_changed (s : Setting) : s ∈ p.changed ↔ p.valueOf s ≠ ({} : Policy).valueOf s := by
  rw [changed, List.mem_filter, decide_eq_true_iff]
  exact and_iff_right (Setting.mem_all s)

theorem listedOff_changed : p.listedOff p.changed Setting.all = [] := by
  rw [listedOff_eq_nil_iff]
  intro s hs hoff
  rw [mem_changed, hoff, default_of_level hoff] at hs
  exact hs rfl

/-- Every policy that restricts anything has a document: the one with its changes. -/
theorem ofText_changed (source : String) {width : Nat} (hwidth : 0 < width) (hne : p ≠ {}) :
    ofText source (p.document width p.changed) = .ok p := by
  have hchanged : p.changed ≠ [] := by
    intro hnil
    refine hne (valueOf_injective (funext fun s => ?_))
    by_contra hs
    have hmem := (mem_changed p s).mpr hs
    rw [hnil] at hmem
    cases hmem
  rw [ofText_document source hwidth hchanged fun s hs => (mem_changed p s).mpr hs,
    listedOff_changed]
  rfl

end

/-- **Policies in their notation.** A document that lists some settings of a policy, among them all
that differ from their defaults, is read as the policy if it lists no level that is off. If it does,
it is refused for those levels and for nothing else. -/
theorem document_read (source : String) {width : Nat} (hwidth : 0 < width) (p : Policy)
    {listed : List Setting} (hne : listed ≠ []) (hlisted : p.Lists listed) :
    ofText source (p.document width listed)
      = if ∀ s ∈ listed, p.valueOf s ≠ .level .off then .ok p
        else .error (.invalid source (.invalid "FormSpecFileConfig"
          ((p.listedOff listed Setting.all).map Setting.offFaultIn))) := by
  rw [ofText_document source hwidth hne hlisted]
  split
  · next hon =>
    rw [(listedOff_eq_nil_iff p listed).mpr hon]
    rfl
  · next hoff =>
    obtain ⟨s, rest, hs⟩ := List.exists_cons_of_ne_nil
      fun hnil => hoff ((listedOff_eq_nil_iff p listed).mp hnil)
    rw [hs]
    rfl

/-- A policy with a limit. -/
def shallow : Policy := { layout := { group := .warn, maxNestingDepth := some 3 } }

theorem document_read_shallow :
    (0 < 2 ∧ [Setting.nestingDepth, .group] ≠ [] ∧ shallow.Lists [.nestingDepth, .group])
      ∧ ofText "forms.yml" (shallow.document 2 [.nestingDepth, .group]) = .ok shallow := by
  have hne : [Setting.nestingDepth, .group] ≠ [] := List.cons_ne_nil _ _
  have hlisted : shallow.Lists [.nestingDepth, .group] := by decide
  refine ⟨⟨by decide, hne, hlisted⟩, ?_⟩
  rw [document_read "forms.yml" (by decide) shallow hne hlisted]
  exact if_pos (by decide)

/-- A document may list a setting that has its default. If that is a level, it is off, and the
document is refused. -/
theorem off_document_refused :
    String.ofList (({} : Policy).document 2 [.kind .text])
        = "constraints:\n  fieldTypes:\n    text: off\n"
      ∧ ({} : Policy).Lists [.kind .text]
      ∧ ofText "<string>" (({} : Policy).document 2 [.kind .text]) ≠ .ok {} := by
  have hlisted : ({} : Policy).Lists [.kind .text] := by decide
  refine ⟨by decide +kernel, hlisted, ?_⟩
  rw [ofText_document "<string>" (by decide) (List.cons_ne_nil _ _) hlisted]
  nofun

end Policy

end FormSchema
