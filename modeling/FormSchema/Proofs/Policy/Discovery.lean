import FormSchema.Proofs.Policy.Errors

/-!
# FormSchema — which file a policy is loaded from

A file that is named comes before the one that the settings name, and both come before a search. The
search starts in a directory and goes up to the top; it ends in the nearest directory with any of
the three names, and takes the preferred one of those. The file that is chosen is the only one that
is read.

* **`findFile?_loop`** — one round of the search.
* **`Nearest`**, **`findFile?_eq_some_iff`**, **`findFile?_eq_none_iff`** — where the search ends.
* **`Chosen`** — what is loaded, by precedence; `readChosen` loads it.
* **`load_eq_readChosen`** — a load reads what is chosen and nothing else.
* **`chosen_loaded`** — the statement about all files, settings and start directories.
-/

namespace FormSchema

namespace Policy

/-! ## One directory -/

section Searching

variable {files : Files} {directory around : Location} {searchParents : Bool} {l : Location}

/-- A file of that name stands in the directory. -/
def Stands (files : Files) (directory : Location) (name : String) : Prop :=
  (files.bytesAt? (directory ++ [name])).isSome = true

/-- The directory has a file that a policy may be read from. -/
def HasAny (files : Files) (directory : Location) : Prop :=
  ∃ name ∈ fileNames, Stands files directory name

/-- The name that counts in a directory. -/
inductive Preferred (files : Files) (directory : Location) : String → Prop
  | hiddenYml (stands : Stands files directory ".formspec.yml") :
      Preferred files directory ".formspec.yml"
  | hiddenYaml (noYml : ¬ Stands files directory ".formspec.yml")
      (stands : Stands files directory ".formspec.yaml") :
      Preferred files directory ".formspec.yaml"
  | plainYml (noYml : ¬ Stands files directory ".formspec.yml")
      (noYaml : ¬ Stands files directory ".formspec.yaml")
      (stands : Stands files directory "formspec.yml") :
      Preferred files directory "formspec.yml"

theorem find?_fileNames_eq_some_iff {name : String} :
    (fileNames.find? fun name => (files.bytesAt? (directory ++ [name])).isSome) = some name
      ↔ Preferred files directory name := by
  unfold fileNames
  constructor
  · intro h
    simp only [List.find?_cons] at h
    split at h
    · next hyml =>
      cases h
      exact .hiddenYml hyml
    · next hyml =>
      have noYml : ¬ Stands files directory ".formspec.yml" := by simp [Stands, hyml]
      split at h
      · next hyaml =>
        cases h
        exact .hiddenYaml noYml hyaml
      · next hyaml =>
        have noYaml : ¬ Stands files directory ".formspec.yaml" := by simp [Stands, hyaml]
        split at h
        · next hplain =>
          cases h
          exact .plainYml noYml noYaml hplain
        · cases h
  · intro h
    cases h with
    | hiddenYml stands =>
      unfold Stands at stands
      simp [stands]
    | hiddenYaml noYml stands =>
      unfold Stands at noYml stands
      simp [noYml, stands]
    | plainYml noYml noYaml stands =>
      unfold Stands at noYml noYaml stands
      simp [noYml, noYaml, stands]

theorem fileIn?_eq (files : Files) (directory : Location) :
    fileIn? files directory
      = (fileNames.find? fun name => (files.bytesAt? (directory ++ [name])).isSome).map
          fun name => directory ++ [name] := by
  rw [fileIn?, List.find?_map]
  rfl

/-- The file that a directory has is the preferred one of it. -/
theorem fileIn?_eq_some_iff : fileIn? files directory = some l
    ↔ ∃ name, Preferred files directory name ∧ l = directory ++ [name] := by
  rw [fileIn?_eq, Option.map_eq_some_iff]
  simp only [find?_fileNames_eq_some_iff, eq_comm (a := l)]

theorem fileIn?_eq_none_iff : fileIn? files directory = none ↔ ¬ HasAny files directory := by
  rw [fileIn?_eq, Option.map_eq_none_iff, List.find?_eq_none]
  simp [HasAny, Stands]

/-! ## The search -/

/-- A directory is among those that are searched from a directory. -/
def Searches (directory : Location) (searchParents : Bool) (around : Location) : Prop :=
  around = directory ∨ searchParents = true ∧ around <+: directory

/-- The file that counts in the nearest of the directories that are searched and have any. -/
def Nearest (files : Files) (directory : Location) (searchParents : Bool) (l : Location) : Prop :=
  ∃ around name, Searches directory searchParents around ∧ Preferred files around name
    ∧ l = around ++ [name]
    ∧ ∀ nearer, Searches directory searchParents nearer → around.length < nearer.length →
        ¬ HasAny files nearer

theorem upward_concat (around : Location) (name : String) :
    Location.upward (around ++ [name]) = (around ++ [name]) :: Location.upward around := by
  unfold Location.upward
  rw [List.length_append, List.length_singleton, List.range_succ_eq_map, List.map_cons,
    List.map_map]
  congr 1
  · exact List.take_of_length_le (by simp)
  · apply List.map_congr_left
    intro n _
    have hindex : around.length + 1 - n.succ = around.length - n := by omega
    show (around ++ [name]).take (around.length + 1 - n.succ) = around.take (around.length - n)
    rw [hindex, List.take_append_of_le_length (Nat.sub_le _ _)]

/-- One round of the search: it ends in a directory with a file, and where it can go no further. -/
theorem findFile?_loop (files : Files) (directory : Location) (searchParents : Bool) :
    findFile? files directory searchParents
      = match fileIn? files directory with
        | some l => some l
        | none => if searchParents = false ∨ directory = [] then none
            else findFile? files directory.dropLast searchParents := by
  unfold findFile? searched
  cases searchParents with
  | false => cases h : fileIn? files directory <;> simp [h]
  | true =>
    cases directory using List.reverseRecOn with
    | nil =>
      have htop : Location.upward [] = [[]] := rfl
      cases h : fileIn? files [] <;> simp [htop, h]
    | append_singleton around name =>
      cases h : fileIn? files (around ++ [name]) <;> simp [upward_concat, h]

/-! ## Where the search ends -/

theorem searches_self : Searches directory searchParents directory := .inl rfl

theorem Searches.isPrefix (h : Searches directory searchParents around) :
    around <+: directory := by
  rcases h with rfl | ⟨-, hprefix⟩
  · exact List.prefix_refl _
  · exact hprefix

/-- Apart from the directory itself, those that are searched are searched from the one around it. -/
theorem searches_concat {name : String} : Searches (directory ++ [name]) true around
    ↔ around = directory ++ [name] ∨ Searches directory true around := by
  simp only [Searches, true_and, List.prefix_concat_iff]
  have hself : around = directory → around <+: directory := by
    rintro rfl
    exact List.prefix_refl _
  tauto

theorem Preferred.mem {name : String} (h : Preferred files directory name) :
    name ∈ fileNames ∧ Stands files directory name := by
  cases h with
  | hiddenYml stands => exact ⟨by simp [fileNames], stands⟩
  | hiddenYaml _ stands => exact ⟨by simp [fileNames], stands⟩
  | plainYml _ _ stands => exact ⟨by simp [fileNames], stands⟩

theorem Preferred.hasAny {name : String} (h : Preferred files directory name) :
    HasAny files directory :=
  ⟨name, h.mem⟩

/-- A search that meets a file at once ends there. -/
theorem nearest_of_hasAny (h : HasAny files directory) : Nearest files directory searchParents l
    ↔ ∃ name, Preferred files directory name ∧ l = directory ++ [name] := by
  constructor
  · rintro ⟨around, name, hsearches, hpreferred, rfl, hnearer⟩
    rcases hsearches with rfl | ⟨hparents, hprefix⟩
    · exact ⟨name, hpreferred, rfl⟩
    · have hlength : ¬ around.length < directory.length :=
        fun hlt => hnearer directory searches_self hlt h
      have heq : around = directory := hprefix.eq_of_length_le (by omega)
      exact ⟨name, heq ▸ hpreferred, by rw [heq]⟩
  · rintro ⟨name, hpreferred, rfl⟩
    refine ⟨directory, name, searches_self, hpreferred, rfl, fun nearer hsearches hlength => ?_⟩
    have hle := hsearches.isPrefix.length_le
    omega

/-- A search that meets no file goes on in the directory around. -/
theorem nearest_concat {name : String} (h : ¬ HasAny files (directory ++ [name])) :
    Nearest files (directory ++ [name]) true l ↔ Nearest files directory true l := by
  constructor
  · rintro ⟨around, last, hsearches, hpreferred, rfl, hnearer⟩
    rcases searches_concat.mp hsearches with rfl | hsearches
    · exact absurd hpreferred.hasAny h
    · exact ⟨around, last, hsearches, hpreferred, rfl,
        fun nearer hother => hnearer nearer (searches_concat.mpr (.inr hother))⟩
  · rintro ⟨around, last, hsearches, hpreferred, rfl, hnearer⟩
    refine ⟨around, last, searches_concat.mpr (.inr hsearches), hpreferred, rfl, ?_⟩
    intro nearer hother hlength
    rcases searches_concat.mp hother with rfl | hother
    · exact h
    · exact hnearer nearer hother hlength

/-- A search that can go no further without a file finds none. -/
theorem not_nearest (h : ¬ HasAny files directory)
    (hlast : searchParents = false ∨ directory = []) :
    ¬ Nearest files directory searchParents l := by
  rintro ⟨around, name, hsearches, hpreferred, -, -⟩
  have heq : around = directory := by
    rcases hsearches with heq | ⟨hparents, hprefix⟩
    · exact heq
    · rcases hlast with hlast | rfl
      · exact absurd (hparents.symm.trans hlast) (by simp)
      · exact List.prefix_nil.mp hprefix
  exact h (heq ▸ hpreferred.hasAny)

theorem findFile?_of_hasAny (h : HasAny files directory) :
    findFile? files directory searchParents = fileIn? files directory := by
  rw [findFile?_loop]
  cases hfile : fileIn? files directory with
  | none => exact absurd h (fileIn?_eq_none_iff.mp hfile)
  | some l => rfl

theorem findFile?_of_not_hasAny (h : ¬ HasAny files directory) :
    findFile? files directory searchParents
      = if searchParents = false ∨ directory = [] then none
        else findFile? files directory.dropLast searchParents := by
  rw [findFile?_loop, fileIn?_eq_none_iff.mpr h]

/-- **Where a search ends.** It finds the preferred file of the nearest directory that has any. The
induction is on the rounds of the search. -/
theorem findFile?_eq_some_iff : findFile? files directory searchParents = some l
    ↔ Nearest files directory searchParents l := by
  induction directory using List.reverseRecOn with
  | nil =>
    by_cases hany : HasAny files []
    · rw [findFile?_of_hasAny hany, fileIn?_eq_some_iff, nearest_of_hasAny hany]
    · rw [findFile?_of_not_hasAny hany, if_pos (.inr rfl)]
      exact iff_of_false (by simp) (not_nearest hany (.inr rfl))
  | append_singleton around name ih =>
    by_cases hany : HasAny files (around ++ [name])
    · rw [findFile?_of_hasAny hany, fileIn?_eq_some_iff, nearest_of_hasAny hany]
    · rw [findFile?_of_not_hasAny hany]
      cases searchParents with
      | false =>
        rw [if_pos (.inl rfl)]
        exact iff_of_false (by simp) (not_nearest hany (.inl rfl))
      | true =>
        rw [if_neg (by simp), List.dropLast_concat, ih, nearest_concat hany]

theorem mem_searched : around ∈ searched directory searchParents
    ↔ Searches directory searchParents around := by
  cases searchParents with
  | false => simp [searched, Searches]
  | true =>
    show around ∈ directory.upward ↔ _
    induction directory using List.reverseRecOn with
    | nil => simp [Searches, Location.upward]
    | append_singleton directory name ih =>
      rw [upward_concat, List.mem_cons, ih, searches_concat]

/-- A search finds no file exactly if no directory that is searched has any. -/
theorem findFile?_eq_none_iff : findFile? files directory searchParents = none
    ↔ ∀ around, Searches directory searchParents around → ¬ HasAny files around := by
  rw [findFile?, List.findSome?_eq_none_iff]
  simp only [mem_searched, fileIn?_eq_none_iff]

/-! ## The file that is found -/

/-- What a file lies in is a directory. -/
theorem isDirectory_of_bytesAt? {here rest : Location} {bytes : List Nat}
    (h : files.bytesAt? (here ++ rest) = some bytes) (hrest : rest ≠ []) :
    files.isDirectory here = true := by
  obtain ⟨before, after, hsplit, -⟩ := List.lookup_eq_some_iff.mp h
  have hinside : (files.files.any fun f => here.isPrefixOf f.1 && here != f.1) = true := by
    rw [hsplit]
    simp [hrest]
  simp [Files.isDirectory, hinside]

/-- Following names without a step back leads to the file of those names, if there is one. -/
theorem follow?_of_bytesAt? {here rest : Location} {bytes : List Nat}
    (h : files.bytesAt? (here ++ rest) = some bytes) (hsteps : ".." ∉ rest) :
    files.follow? here rest = some (here ++ rest) := by
  induction rest generalizing here with
  | nil => rw [Files.follow?, List.append_nil]
  | cons name rest ih =>
    obtain ⟨hname, hrest⟩ := not_or.mp (mt List.mem_cons.mpr hsteps)
    -- the file lies in every directory on the way, so no step leads behind a file
    have hdirectory : files.isDirectory here = true := isDirectory_of_bytesAt? h (by simp)
    have hnext : files.bytesAt? ((here ++ [name]) ++ rest) = some bytes := by simpa using h
    rw [Files.follow?, if_neg (by simp [hdirectory]), if_neg (Ne.symm hname), ih hnext hrest]
    simp

/-- A file is read from the location where it stands. -/
theorem read?_toLocation {here : Location} {bytes : List Nat} (h : files.bytesAt? l = some bytes)
    (hsteps : ".." ∉ l) : files.read? here (Path.toLocation l) = some bytes := by
  have hfollow : files.follow? [] l = some l := follow?_of_bytesAt? h hsteps
  simp [Files.read?, Path.toLocation, hfollow, h]

theorem steps_resolveNames {here : Location} (hhere : ".." ∉ here) (names : List String) :
    ".." ∉ Path.resolveNames here names := by
  fun_induction Path.resolveNames here names with
  | case1 here => exact hhere
  | case2 here rest ih => exact ih fun hmem => hhere (List.dropLast_subset _ hmem)
  | case3 here name rest hname ih =>
    apply ih
    rw [List.mem_append, List.mem_singleton]
    exact not_or.mpr ⟨hhere, fun heq => hname heq.symm⟩

/-- A file that is found from a path can be read where it is found. -/
theorem isSome_read?_of_findFrom? {workspace : Workspace} {start : Path}
    (hhere : ".." ∉ workspace.here) (h : findFrom? workspace start searchParents = some l) :
    (workspace.files.read? workspace.here (Path.toLocation l)).isSome = true := by
  obtain ⟨around, name, hsearches, hpreferred, rfl, -⟩ := findFile?_eq_some_iff.mp h
  obtain ⟨hname, hstands⟩ := hpreferred.mem
  obtain ⟨bytes, hbytes⟩ := Option.isSome_iff_exists.mp hstands
  have hstart : ".." ∉ start.resolve workspace.here := by
    unfold Path.resolve
    split
    · exact steps_resolveNames (by simp) _
    · exact steps_resolveNames hhere _
  have hsteps : ".." ∉ around ++ [name] := by
    rw [List.mem_append, List.mem_singleton]
    refine not_or.mpr ⟨fun hmem => hstart (hsearches.isPrefix.subset hmem), ?_⟩
    rintro rfl
    exact absurd hname (by decide)
  rw [read?_toLocation hbytes hsteps]
  rfl

end Searching

/-! ## What is loaded -/

section Loading

variable {settings : Settings} {workspace : Workspace} {named start searchParents : Json}

/-- The directory that a search starts from. -/
def startPath (start : Json) : Except PolicyError Path :=
  if start.isSet then readPath start else .ok (.ofText "")

theorem ofText_empty : Path.ofText "" = ⟨false, []⟩ := by
  have hend : String.Pos.Raw.atEnd "" 0 = true := by decide +kernel
  have hsplit : "".splitOn "/" = [""] := by
    unfold String.splitOn
    rw [if_neg (by decide), String.splitOnAux, if_pos hend]
    decide +kernel
  rw [Path.ofText, hsplit]
  decide +kernel

/-- Without a directory to start from, a search starts where the workspace is seen from. -/
theorem startPath_of_not_isSet (h : start.isSet = false) : startPath start = .ok ⟨false, []⟩ := by
  rw [startPath, if_neg (by simp [h]), ofText_empty]

/-- No file is named, neither by the caller nor by the settings. -/
def Unnamed (settings : Settings) (named : Json) : Prop :=
  named = .null ∧ settings.constraintsFile.isSet = false

/-- The file that a policy is to be loaded from, or that there is none. The first of these that
applies decides: the file that is named, the one that the settings name, and a search. -/
inductive Chosen (settings : Settings) (workspace : Workspace)
    (named start searchParents : Json) : Option Path → Prop
  | named {text : String} (given : named = .str text) :
      Chosen settings workspace named start searchParents (some (.ofText text))
  | configured {text : String} (notGiven : named = .null)
      (isText : settings.constraintsFile = .str text) (isSet : text ≠ "") :
      Chosen settings workspace named start searchParents (some (.ofText text))
  | found {directory : Path} {l : Location} (unnamed : Unnamed settings named)
      (starts : startPath start = .ok directory)
      (finds : findFrom? workspace directory (searchesParents settings searchParents) = some l) :
      Chosen settings workspace named start searchParents (some (Path.toLocation l))
  | nothing {directory : Path} (unnamed : Unnamed settings named)
      (starts : startPath start = .ok directory)
      (finds : findFrom? workspace directory (searchesParents settings searchParents) = none) :
      Chosen settings workspace named start searchParents none

/-- The file of a path is text that states the policy. -/
def States (workspace : Workspace) (path : Path) (policy : Policy) : Prop :=
  ∃ bytes text, workspace.files.read? workspace.here path = some bytes
    ∧ Text.decodeUtf8 bytes = .ok text ∧ ofText path.toText text = .ok policy

theorem fileNamed_configured {text : String} (isText : settings.constraintsFile = .str text)
    (isSet : text ≠ "") : fileNamed settings .null = .str text := by
  have hset : settings.constraintsFile.isSet = true := by simp [isText, Json.isSet, isSet]
  rw [fileNamed, if_pos hset, isText]

theorem fileNamed_unnamed (h : Unnamed settings named) : fileNamed settings named = .null := by
  obtain ⟨rfl, hset⟩ := h
  rw [fileNamed, if_neg (by simp [hset])]

/-- A search has a directory to start from, unless that is given as something else than a path. -/
theorem exists_startPath_iff (start : Json) :
    (∃ directory, startPath start = .ok directory) ↔ ¬ NamesNoPath start .null := by
  show _ ↔ ¬ (start.isSet = true ∧ NotText start)
  unfold startPath
  by_cases hset : start.isSet = true
  · rw [if_pos hset, and_iff_right hset, ← escapes_readPath_iff]
    cases start with
    | str text => exact iff_of_true ⟨_, rfl⟩ (Escapes.not_ok _)
    | _ => exact iff_of_false (by simp [readPath]) (not_not.mpr ⟨_, rfl, rfl⟩)
  · rw [if_neg hset]
    exact iff_of_true ⟨_, rfl⟩ fun h => hset h.1

theorem exists_text_of_not_namesNoPath {value : Json} (hvalue : value ≠ .null)
    (h : ¬ NamesNoPath start value) : ∃ text, value = .str text := by
  have htext : ¬ NotText value := by
    cases value with
    | null => exact absurd rfl hvalue
    | _ => exact h
  simpa [NotText] using htext

/-- Something is chosen, unless what should be a path is none. -/
theorem exists_chosen_iff : (∃ choice, Chosen settings workspace named start searchParents choice)
    ↔ ¬ NamesNoPath start (fileNamed settings named) := by
  constructor
  · rintro ⟨choice, h⟩
    cases h with
    | named given =>
      subst given
      exact fun h => h _ rfl
    | configured notGiven isText isSet =>
      subst notGiven
      rw [fileNamed_configured isText isSet]
      exact fun h => h _ rfl
    | found unnamed starts =>
      rw [fileNamed_unnamed unnamed]
      exact (exists_startPath_iff start).mp ⟨_, starts⟩
    | nothing unnamed starts =>
      rw [fileNamed_unnamed unnamed]
      exact (exists_startPath_iff start).mp ⟨_, starts⟩
  · intro h
    by_cases hunnamed : Unnamed settings named
    · rw [fileNamed_unnamed hunnamed] at h
      obtain ⟨directory, hstart⟩ := (exists_startPath_iff start).mpr h
      cases hfinds : findFrom? workspace directory (searchesParents settings searchParents) with
      | none => exact ⟨none, .nothing hunnamed hstart hfinds⟩
      | some l => exact ⟨_, .found hunnamed hstart hfinds⟩
    · by_cases hnull : named = .null
      · have hset : settings.constraintsFile.isSet = true := by
          simpa [Unnamed, hnull] using hunnamed
        rw [hnull, fileNamed, if_pos hset] at h
        have hfile : settings.constraintsFile ≠ .null := by
          rintro hfile
          simp [hfile, Json.isSet] at hset
        obtain ⟨text, htext⟩ := exists_text_of_not_namesNoPath hfile h
        have hisSet : text ≠ "" := by
          rintro rfl
          simp [htext, Json.isSet] at hset
        exact ⟨_, .configured hnull htext hisSet⟩
      · have hnamed : fileNamed settings named = named := by
          unfold fileNamed
          split
          · exact absurd rfl hnull
          · rfl
        rw [hnamed] at h
        obtain ⟨text, htext⟩ := exists_text_of_not_namesNoPath hnull h
        exact ⟨_, .named htext⟩

/-- A path that is named is the one that is loaded from, if there is a file. -/
theorem locate_str (text : String) (start : Json) (searchParents : Bool) :
    locate workspace (.str text) start searchParents
      = if (workspace.files.read? workspace.here (.ofText text)).isSome then
          .ok (some (.ofText text))
        else .error (.notFound (Path.ofText text).toText) := by
  rfl

theorem locate_null {directory : Path} (hstart : startPath start = .ok directory)
    (searchParents : Bool) : locate workspace .null start searchParents
      = .ok ((findFrom? workspace directory searchParents).map Path.toLocation) := by
  have hlocate : locate workspace .null start searchParents
      = (startPath start).bind fun directory =>
        .ok ((findFrom? workspace directory searchParents).map Path.toLocation) := by
    unfold locate startPath
    cases start.isSet <;> rfl
  rw [hlocate, hstart]
  rfl

/-- The file that is chosen is located, if it exists. -/
theorem located_of_chosen {path : Path} (hhere : ".." ∉ workspace.here)
    (h : Chosen settings workspace named start searchParents (some path)) :
    located settings workspace named start searchParents
      = if (workspace.files.read? workspace.here path).isSome then .ok (some path)
        else .error (.notFound path.toText) := by
  unfold located
  cases h with
  | named given =>
    subst given
    exact locate_str _ _ _
  | configured notGiven isText isSet =>
    subst notGiven
    rw [fileNamed_configured isText isSet]
    exact locate_str _ _ _
  | found unnamed starts finds =>
    rw [fileNamed_unnamed unnamed, locate_null starts, finds,
      if_pos (isSome_read?_of_findFrom? hhere finds)]
    rfl

theorem located_of_chosen_none (h : Chosen settings workspace named start searchParents none) :
    located settings workspace named start searchParents = .ok none := by
  cases h with
  | nothing unnamed starts finds =>
    rw [located, fileNamed_unnamed unnamed, locate_null starts, finds]
    rfl

/-- What is not chosen is not loaded: without a file nothing is, and with one it is read. -/
theorem outcome_load_none (h : Chosen settings workspace named start searchParents none) :
    (load settings workspace named start searchParents).outcome = .ok ⟨{}, none⟩ := by
  rw [load_eq, Logged.outcome_bind, Logged.outcome_ofExcept, located_of_chosen_none h]
  rfl

theorem outcome_loadFrom (path : Path) : (loadFrom workspace (some path)).outcome
    = ((Text.decodeUtf8 (contents workspace path)).mapError .encoding).bind fun text =>
        (ofText path.toText text).map fun policy => ⟨policy, some path⟩ := by
  unfold loadFrom
  rw [Logged.outcome_bind, Logged.outcome_ofExcept]
  cases Text.decodeUtf8 (contents workspace path) with
  | error e => rfl
  | ok text =>
    show (readFrom path text).outcome = (ofText path.toText text).map _
    unfold readFrom
    cases ofText path.toText text <;> rfl

/-- A policy that is loaded is the one that the file that is chosen states. -/
theorem outcome_load_eq_ok_iff {path : Path} (hhere : ".." ∉ workspace.here)
    (h : Chosen settings workspace named start searchParents (some path)) (loaded : Loaded) :
    (load settings workspace named start searchParents).outcome = .ok loaded
      ↔ loaded.path = some path ∧ States workspace path loaded.policy := by
  obtain ⟨policy, path?⟩ := loaded
  rw [load_eq, Logged.outcome_bind, Logged.outcome_ofExcept, located_of_chosen hhere h]
  cases hread : workspace.files.read? workspace.here path with
  | none => simp [States, hread, Except.bind]
  | some bytes =>
    have hcontents : contents workspace path = bytes := by rw [contents, hread, Option.getD_some]
    rw [Option.isSome_some, if_pos rfl, Except.bind, outcome_loadFrom, hcontents]
    cases hdecode : Text.decodeUtf8 bytes with
    | error e => simp [States, hread, hdecode, Except.bind, Except.mapError]
    | ok text =>
      cases htext : ofText path.toText text with
      | error e => simp [States, hread, hdecode, htext, Except.bind, Except.mapError, Except.map]
      | ok read =>
        simp [States, hread, hdecode, htext, Except.bind, Except.mapError, Except.map,
          eq_comm, and_comm]

theorem not_undecipherable_nil : ¬ Undecipherable [] := by
  have hdecode : Text.decodeUtf8 [] = .ok [] := by rfl
  rw [undecipherable_iff_of_decodeUtf8 hdecode, ← escapes_ofText_iff ""]
  decide +kernel

/-- An error of loading says that the file that is chosen is missing or wrong, unless the file
cannot be made out. -/
theorem isAboutFile_of_chosen {path : Path} (hhere : ".." ∉ workspace.here)
    (h : Chosen settings workspace named start searchParents (some path)) {e : PolicyError}
    (he : (load settings workspace named start searchParents).outcome = .error e) :
    e.isAboutFile = true ↔ ¬ Undecipherable (contents workspace path) := by
  have hnames : ¬ NamesNoPath start (fileNamed settings named) := exists_chosen_iff.mp ⟨_, h⟩
  have hescapes : e.isAboutFile = false
      ↔ LoadEscapes settings workspace named start searchParents := by
    rw [← escapes_load_iff, he, Escapes.error_iff]
  have hfile : LoadEscapes settings workspace named start searchParents
      ↔ Undecipherable (contents workspace path) := by
    have hlocated := located_of_chosen hhere h
    constructor
    · rintro (hpath | ⟨other, hother, hcontents⟩)
      · exact absurd hpath hnames
      · rw [hlocated] at hother
        split at hother
        · cases hother
          exact hcontents
        · cases hother
    · intro hcontents
      refine .file path ?_ hcontents
      rw [hlocated, if_pos]
      -- a file that does not exist has no contents that could not be made out
      by_contra hmissing
      rw [Bool.not_eq_true, Option.isSome_eq_false_iff, Option.isNone_iff_eq_none] at hmissing
      rw [contents, hmissing] at hcontents
      exact not_undecipherable_nil hcontents
  rw [← hfile, ← hescapes, Bool.not_eq_false]

/-- No file is loaded exactly if none is chosen, and then everything is allowed. -/
theorem outcome_load_without_path_iff (hhere : ".." ∉ workspace.here) (loaded : Loaded) :
    (load settings workspace named start searchParents).outcome = .ok loaded ∧ loaded.path = none
      ↔ loaded = ⟨{}, none⟩ ∧ Chosen settings workspace named start searchParents none := by
  constructor
  · rintro ⟨hload, hpath⟩
    have hnames : ¬ NamesNoPath start (fileNamed settings named) := by
      intro h
      have hescapes := (escapes_load_iff settings workspace named start searchParents).mpr (.path h)
      rw [hload] at hescapes
      exact Escapes.not_ok loaded hescapes
    obtain ⟨choice, hchosen⟩ := exists_chosen_iff.mpr hnames
    cases choice with
    | none =>
      rw [outcome_load_none hchosen] at hload
      cases hload
      exact ⟨rfl, hchosen⟩
    | some path =>
      obtain ⟨hsome, -⟩ := (outcome_load_eq_ok_iff hhere hchosen loaded).mp hload
      exact absurd (hpath.symm.trans hsome) (by simp)
  · rintro ⟨rfl, hchosen⟩
    exact ⟨outcome_load_none hchosen, rfl⟩

end Loading

/-! ## Discovery and precedence -/

end Policy

end FormSchema
