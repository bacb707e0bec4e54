import FormSchema.Policy.Source
import FormSchema.Proofs.Yaml.Misreads

/-!
# FormSchema — which errors come from loading a policy

Whoever loads a policy expects errors that say that its file is missing or wrong. Other errors
escape from three places: what should be a path is none, the bytes of the file are no text, and its
text asks for something that cannot be made.

* **`escapes_ofText_iff`** — reading the text of a policy.
* **`LoadEscapes`**, **`escapes_load_iff`** — loading one from the files.
-/

namespace FormSchema

open Yaml

/-- An operation ends with an error that does not say that a policy's file is missing or wrong. -/
def Escapes {α : Type} (x : Except PolicyError α) : Prop :=
  ∃ e, x = .error e ∧ e.isAboutFile = false

namespace Escapes

variable {α β : Type}

theorem error_iff (e : PolicyError) :
    Escapes (.error e : Except PolicyError α) ↔ e.isAboutFile = false := by
  constructor
  · rintro ⟨e', h, he⟩
    cases h
    exact he
  · exact fun he => ⟨e, rfl, he⟩

theorem not_ok (a : α) : ¬ Escapes (.ok a : Except PolicyError α) := by
  rintro ⟨e, h, -⟩
  cases h

instance (x : Except PolicyError α) : Decidable (Escapes x) :=
  match x with
  | .ok a => .isFalse (not_ok a)
  | .error e => decidable_of_iff _ (error_iff e).symm

/-- The errors of two steps: those of the first, and those of the second on its value. -/
theorem bind_iff (x : Except PolicyError α) (f : α → Except PolicyError β) :
    Escapes (x.bind f) ↔ Escapes x ∨ ∃ a, x = .ok a ∧ Escapes (f a) := by
  cases x with
  | ok a =>
    constructor
    · exact fun h => .inr ⟨a, rfl, h⟩
    · rintro (h | ⟨a', ha, h⟩)
      · exact absurd h (not_ok a)
      · cases ha
        exact h
  | error e =>
    constructor
    · exact fun h => .inl ((error_iff e).mpr ((error_iff e).mp h))
    · rintro (h | ⟨a, ha, -⟩)
      · exact (error_iff e).mpr ((error_iff e).mp h)
      · cases ha

end Escapes

namespace Policy

/-! ## Reading a text -/

/-- What a value that is read says about a policy, or that it says nothing. -/
def ofValue (source : String) : Value → Except PolicyError Policy
  | .null => .ok {}
  | .map pairs =>
    ((readDocument (Value.map pairs).toJson).toExcept "FormSpecFileConfig").mapError
      (.invalid source)
  | _ => .error (.notMapping source)

theorem ofText_eq (source : String) (text : List Char) :
    ofText source text
      = ((Yaml.read text).mapError (.unreadable source)).bind (ofValue source) := by
  unfold ofText
  cases Yaml.read text with
  | error e => rfl
  | ok value => cases value <;> rfl

/-- Once a value is read, what is wrong with it is wrong with the file. -/
theorem not_escapes_ofValue (source : String) (value : Value) :
    ¬ Escapes (ofValue source value) := by
  cases value with
  | null => exact Escapes.not_ok _
  | map pairs =>
    show ¬ Escapes (((readDocument (Value.map pairs).toJson).toExcept "FormSpecFileConfig").mapError
      (.invalid source))
    cases (readDocument (Value.map pairs).toJson).toExcept "FormSpecFileConfig" with
    | ok policy => exact Escapes.not_ok policy
    | error e => exact fun h => nomatch (Escapes.error_iff (.invalid source e)).mp h
  | _ => exact fun h => nomatch (Escapes.error_iff (.notMapping source)).mp h

/-- Of the errors of a text, those about its form are about the file. -/
theorem isAboutFile_unreadable_iff (source : String) (e : ReadError) :
    (PolicyError.unreadable source e).isAboutFile = false ↔ ∀ reason, e ≠ .malformed reason := by
  cases e with
  | malformed reason => exact ⟨nofun, fun h => absurd rfl (h reason)⟩
  | noCharacter code => exact ⟨fun _ _ => nofun, fun _ => rfl⟩
  | scalar fault => exact ⟨fun _ _ => nofun, fun _ => rfl⟩

/-- **Errors of a policy's text.** Another error than that the text is wrong comes from reading it
exactly if it asks for something that cannot be made. -/
theorem escapes_ofText_iff (source : String) (text : List Char) :
    Escapes (ofText source text) ↔ Unmakable text := by
  rw [ofText_eq, Escapes.bind_iff, ← read_fails_iff]
  constructor
  · rintro (⟨e, he, habout⟩ | ⟨value, -, h⟩)
    · cases hread : Yaml.read text with
      | ok value =>
        rw [hread] at he
        cases he
      | error e' =>
        rw [hread] at he
        cases he
        exact ⟨e', rfl, (isAboutFile_unreadable_iff source e').mp habout⟩
    · exact absurd h (not_escapes_ofValue source value)
  · rintro ⟨e, he, hform⟩
    rw [he]
    exact .inl ⟨_, rfl, (isAboutFile_unreadable_iff source e).mpr hform⟩

/-! ## Loading -/

/-- The file that is named, or else the one that the settings name. -/
def fileNamed (settings : Settings) : Json → Json
  | .null => if settings.constraintsFile.isSet then settings.constraintsFile else .null
  | named => named

/-- Whether the directories around a start directory are searched too. -/
def searchesParents (settings : Settings) : Json → Bool
  | .null => settings.searchParents.isSet
  | given => given.isSet

/-- The file that a policy is loaded from, if there is any. -/
def located (settings : Settings) (workspace : Workspace) (named start searchParents : Json) :
    Except PolicyError (Option Path) :=
  locate workspace (fileNamed settings named) start (searchesParents settings searchParents)

def contents (workspace : Workspace) (path : Path) : List Nat :=
  (workspace.files.read? workspace.here path).getD []

/-- Reads a policy from the text of a file. -/
def readFrom (path : Path) (text : List Char) : Logged PolicyError Loaded := do
  .record .info .forms s!"Loaded constraints from {path.toText}"
  let policy ← Logged.ofExcept (ofText path.toText text)
  return ⟨policy, some path⟩

/-- Loads a policy once it is settled where it comes from. -/
def loadFrom (workspace : Workspace) : Option Path → Logged PolicyError Loaded
  | none => do
    .record .debug .forms "No constraints file found, all features allowed"
    return ⟨{}, none⟩
  | some path => do
    let text ← Logged.ofExcept ((Text.decodeUtf8 (contents workspace path)).mapError .encoding)
    readFrom path text

theorem load_eq (settings : Settings) (workspace : Workspace) (named start searchParents : Json) :
    load settings workspace named start searchParents
      = Logged.ofExcept (located settings workspace named start searchParents)
        >>= loadFrom workspace := by
  cases searchParents <;> rfl

/-- A file's bytes are no text, or its text asks for something that cannot be made. -/
def Undecipherable (bytes : List Nat) : Prop :=
  (∃ e, Text.decodeUtf8 bytes = .error e)
    ∨ ∃ text, Text.decodeUtf8 bytes = .ok text ∧ Unmakable text

theorem undecipherable_iff_of_decodeUtf8 {bytes : List Nat} {text : List Char}
    (h : Text.decodeUtf8 bytes = .ok text) : Undecipherable bytes ↔ Unmakable text := by
  constructor
  · rintro (⟨e, he⟩ | ⟨text', htext, hmake⟩)
    · rw [h] at he
      cases he
    · rw [h] at htext
      cases htext
      exact hmake
  · exact fun hmake => .inr ⟨text, h, hmake⟩

theorem escapes_readFrom_iff (path : Path) (text : List Char) :
    Escapes (readFrom path text).outcome ↔ Unmakable text := by
  have houtcome : (readFrom path text).outcome
      = (ofText path.toText text).bind fun policy => .ok ⟨policy, some path⟩ := by
    unfold readFrom
    cases ofText path.toText text <;> rfl
  rw [houtcome, Escapes.bind_iff, escapes_ofText_iff]
  constructor
  · rintro (h | ⟨policy, -, h⟩)
    · exact h
    · exact absurd h (Escapes.not_ok _)
  · exact .inl

theorem escapes_loadFrom_iff (workspace : Workspace) (path : Path) :
    Escapes (loadFrom workspace (some path)).outcome
      ↔ Undecipherable (contents workspace path) := by
  unfold loadFrom
  rw [Logged.outcome_bind, Logged.outcome_ofExcept]
  cases hbytes : Text.decodeUtf8 (contents workspace path) with
  | error e => exact iff_of_true ⟨.encoding e, rfl, rfl⟩ (.inl ⟨e, hbytes⟩)
  | ok text =>
    rw [undecipherable_iff_of_decodeUtf8 hbytes]
    exact escapes_readFrom_iff path text

/-- What names a file or a directory is no text. -/
def NotText (value : Json) : Prop := ∀ text, value ≠ .str text

/-- The file that is named, or if there is none the directory to start from, is no path. -/
def NamesNoPath (start : Json) : Json → Prop
  | .null => start.isSet = true ∧ NotText start
  | named => NotText named

theorem escapes_readPath_iff (value : Json) : Escapes (readPath value) ↔ NotText value := by
  cases value with
  | str text => exact iff_of_false (Escapes.not_ok _) fun h => h text rfl
  | _ => exact iff_of_true ⟨_, rfl, rfl⟩ nofun

/-- Looking for a policy's file fails with another error than that there is none exactly if what
names the file or the directory is no path. -/
theorem escapes_locate_iff (workspace : Workspace) (named start : Json) (searchParents : Bool) :
    Escapes (locate workspace named start searchParents) ↔ NamesNoPath start named := by
  have hnamed (value : Json) (next : Path → Except PolicyError (Option Path))
      (hnext : ∀ path, ¬ Escapes (next path)) :
      Escapes (readPath value >>= next) ↔ NotText value := by
    refine (Escapes.bind_iff _ _).trans ?_
    rw [escapes_readPath_iff]
    constructor
    · rintro (h | ⟨path, -, h⟩)
      · exact h
      · exact absurd h (hnext path)
    · exact .inl
  have hfile (path : Path) : ¬ Escapes
      (if (workspace.files.read? workspace.here path).isSome then pure (some path)
        else throw (.notFound path.toText)) := by
    split
    · exact Escapes.not_ok _
    · exact fun h => nomatch (Escapes.error_iff _).mp h
  unfold locate
  cases named with
  | null =>
    dsimp only
    split
    · next hset =>
      exact (hnamed start _ fun _ => Escapes.not_ok _).trans (and_iff_right hset).symm
    · next hset => exact iff_of_false (Escapes.not_ok _) fun h => hset h.1
  | _ => exact hnamed _ _ hfile

/-! ## What escapes -/

/-- What makes loading a policy fail with another error than that its file is missing or wrong. -/
inductive LoadEscapes (settings : Settings) (workspace : Workspace)
    (named start searchParents : Json) : Prop
  | path (hpath : NamesNoPath start (fileNamed settings named))
  | file (path : Path)
      (hlocated : located settings workspace named start searchParents = .ok (some path))
      (hcontents : Undecipherable (contents workspace path))

theorem escapes_load_iff (settings : Settings) (workspace : Workspace)
    (named start searchParents : Json) :
    Escapes (load settings workspace named start searchParents).outcome
      ↔ LoadEscapes settings workspace named start searchParents := by
  rw [load_eq, Logged.outcome_bind, Logged.outcome_ofExcept, Escapes.bind_iff]
  constructor
  · rintro (h | ⟨path?, hlocated, h⟩)
    · exact .path ((escapes_locate_iff _ _ _ _).mp h)
    · cases path? with
      | none => exact absurd h (Escapes.not_ok _)
      | some path => exact .file path hlocated ((escapes_loadFrom_iff workspace path).mp h)
  · rintro (hpath | ⟨path, hlocated, hcontents⟩)
    · exact .inl ((escapes_locate_iff _ _ _ _).mpr hpath)
    · exact .inr ⟨some path, hlocated, (escapes_loadFrom_iff workspace path).mpr hcontents⟩

end Policy

end FormSchema
