import SutraArbiter.Proofs.Pack.BreakingOff
import SutraArbiter.Proofs.Pack.Inspection
import SutraArbiter.Proofs.Pack.Solitary

namespace SutraArbiter

/-! What an inspection reports: of every file that is read, the one thing that is
wrong with it, whatever was wrong with the files before. -/

namespace RuleFile

/-- A rule of this id is read from the file. -/
def BearsId (file : RuleFile) (id : String) : Prop :=
  ∃ rule, file.Bears rule ∧ rule.id = id

/-- The rule of the file is not checked to the end. -/
def Halts (file : RuleFile) (fault : Fault) : Prop :=
  ∃ entries, file.document = .data (.map entries)
    ∧ Rule.check (.map entries) = .error (.fault fault)

/-- The first of the files from which a rule of this id is read. -/
def IsFirstOf (owner : RuleFile) (id : String) (given : List RuleFile) : Prop :=
  owner.BearsId id ∧ ∃ before after, given = before ++ owner :: after
    ∧ ∀ other ∈ before, ¬ other.BearsId id

/-- What is to be said of a file that comes after others. -/
inductive Faces (before : List RuleFile) (file : RuleFile) : Option Problem → Prop
  | unreadable (holds : file.document = .directory) :
      Faces before file (some (.unreadable file.path))
  | unparsable {told : String} (holds : file.document = .unparsable told) :
      Faces before file (some (.unparsable file.path told))
  | notMapping {datum : Datum} (holds : file.document = .data datum)
      (other : datum.isMap = false) :
      Faces before file (some (.notMapping file.path datum.kind))
  | violation {entries : Entries} {violation : Violation}
      (holds : file.document = .data (.map entries))
      (violates : Rule.check (.map entries) = .error (.violation violation)) :
      Faces before file (some (.violation file.path violation))
  | duplicate {id : String} {owner : RuleFile} (bears : file.BearsId id)
      (first : owner.IsFirstOf id before) :
      Faces before file (some (.duplicate file.path id owner.path))
  | sound {id : String} (bears : file.BearsId id)
      (fresh : ∀ other ∈ before, ¬ other.BearsId id) : Faces before file none

end RuleFile

namespace Source

/-- What is said of one of the paths of a source, or the file that is found there. -/
inductive Finds (files : Files) (path : Path) : Except Problem RuleFile → Prop
  | missing {place : Path} (placed : files.locate? path = .ok place)
      (absent : files.isFile place = false) :
      Finds files path (.error (.missingFile (files.shown place)))
  | extension {place : Path} (placed : files.locate? path = .ok place)
      (present : files.isFile place = true) (named : isRuleName place.name = false) :
      Finds files path (.error (.extension (files.shown place) place.name))
  | file {place : Path} (placed : files.locate? path = .ok place)
      (present : files.isFile place = true) (named : isRuleName place.name = true) :
      Finds files path (.ok (ruleFile files place))

/-- What is wrong with the source itself, and the files that are read of it. -/
inductive Opens (files : Files) : Source → List Problem → List RuleFile → Prop
  | conflict {directory : Path} {paths : List Path} :
      Opens files ⟨some directory, some paths⟩ [.conflict] []
  | missing {path place : Path} (placed : files.locate? path = .ok place)
      (absent : files.isDirectory place = false) :
      Opens files ⟨some path, none⟩ [.missingDirectory (files.shown place)] []
  | directory {path place : Path} (placed : files.locate? path = .ok place)
      (present : files.isDirectory place = true) :
      Opens files ⟨some path, none⟩ [] (listed files place)
  | files {paths : List Path} {results : List (Except Problem RuleFile)}
      (found : List.Forall₂ (Finds files) paths results) :
      Opens files ⟨none, some paths⟩ (Pack.problems results) (Pack.readable results)
  | bundled : Opens files ⟨none, none⟩ [] bundledFiles

/-- The first path of the source without a place. -/
inductive Loses (files : Files) : Source → Fault → Prop
  | directory {path : Path} {fault : Fault} (lost : files.Loses path fault) :
      Loses files ⟨some path, none⟩ fault
  | file {before after : List Path} {path : Path} {fault : Fault}
      (placed : ∀ other ∈ before, ∃ place, files.locate? other = .ok place)
      (lost : files.Loses path fault) :
      Loses files ⟨none, some (before ++ path :: after)⟩ fault

/-- A path of the source is lost, or the first rule that is not read to the end is. -/
inductive Jams (files : Files) (source : Source) (fault : Fault) : Prop
  | path (lost : source.Loses files fault)
  | file {own : List Problem} {before after : List RuleFile} {file : RuleFile}
      (opens : source.Opens files own (before ++ file :: after))
      (read : ∀ other ∈ before, ∀ fault, ¬ other.Halts fault) (halts : file.Halts fault)

end Source

namespace RuleFile

variable {file owner another : RuleFile} {before given : List RuleFile} {id other : String}
  {outcome found : Option Problem}

theorem Bears.unique {rule another : Rule} (h : file.Bears rule) (hother : file.Bears another) :
    rule = another := by
  obtain ⟨entries, hdocument, hread⟩ := h
  obtain ⟨others, hothers, hreread⟩ := hother
  rw [hdocument] at hothers
  cases hothers
  exact Except.ok.inj (hread.symm.trans hreread)

theorem BearsId.unique (h : file.BearsId id) (hother : file.BearsId other) : id = other := by
  obtain ⟨rule, hrule, rfl⟩ := h
  obtain ⟨another, hanother, rfl⟩ := hother
  rw [hrule.unique hanother]

theorem IsFirstOf.append (h : owner.IsFirstOf id before) (given : List RuleFile) :
    owner.IsFirstOf id (before ++ given) := by
  obtain ⟨hbears, earlier, later, rfl, hearlier⟩ := h
  exact ⟨hbears, earlier, later ++ given, by simp, hearlier⟩

theorem IsFirstOf.unique (h : owner.IsFirstOf id given) (hanother : another.IsFirstOf id given) :
    owner = another := by
  obtain ⟨hbears, before, after, rfl, hbefore⟩ := h
  obtain ⟨hborne, earlier, later, hgiven, hearlier⟩ := hanother
  rcases List.append_eq_append_iff.mp hgiven with ⟨middle, rfl, hrest⟩ | ⟨middle, rfl, hrest⟩
  · cases middle with
    | nil => exact (List.cons.inj hrest).1
    | cons first middle =>
        obtain ⟨rfl, -⟩ := List.cons.inj hrest
        exact absurd hbears (hearlier _ (by simp))
  · cases middle with
    | nil => exact (List.cons.inj hrest).1.symm
    | cons first middle =>
        obtain ⟨rfl, -⟩ := List.cons.inj hrest
        exact absurd hborne (hbefore _ (by simp))

theorem IsFirstOf.exists_bearer (h : owner.IsFirstOf id given) :
    ∃ file ∈ given, file.BearsId id := by
  obtain ⟨hbears, before, after, rfl, -⟩ := h
  exact ⟨owner, by simp, hbears⟩

theorem Faces.of_bears (hbears : file.BearsId id) (h : file.Faces before outcome) :
    (∃ owner : RuleFile, owner.IsFirstOf id before
        ∧ outcome = some (.duplicate file.path id owner.path))
      ∨ (∀ other ∈ before, ¬ other.BearsId id) ∧ outcome = none := by
  have hborne := hbears
  obtain ⟨rule, ⟨entries, hdocument, hread⟩, -⟩ := hborne
  cases h with
  | unreadable holds => simp [hdocument] at holds
  | unparsable holds => simp [hdocument] at holds
  | notMapping holds hother =>
      rw [hdocument] at holds
      cases holds
      cases hother
  | violation holds violates =>
      rw [hdocument] at holds
      cases holds
      rw [Rule.check_of_read hread] at violates
      cases violates
  | duplicate borne first =>
      obtain rfl := hbears.unique borne
      exact .inl ⟨_, first, rfl⟩
  | sound borne fresh =>
      obtain rfl := hbears.unique borne
      exact .inr ⟨fresh, rfl⟩

/-- A file faces one thing and no other. -/
theorem Faces.unique (h : file.Faces before outcome) (hfound : file.Faces before found) :
    outcome = found := by
  by_cases hborne : ∃ id, file.BearsId id
  · obtain ⟨id, hid⟩ := hborne
    rcases h.of_bears hid with ⟨owner, hfirst, rfl⟩ | ⟨hfresh, rfl⟩
    · rcases hfound.of_bears hid with ⟨another, hanother, rfl⟩ | ⟨hfresh, rfl⟩
      · rw [hfirst.unique hanother]
      · obtain ⟨file, hfile, hbears⟩ := hfirst.exists_bearer
        exact absurd hbears (hfresh file hfile)
    · rcases hfound.of_bears hid with ⟨another, hanother, rfl⟩ | ⟨-, rfl⟩
      · obtain ⟨file, hfile, hbears⟩ := hanother.exists_bearer
        exact absurd hbears (hfresh file hfile)
      · rfl
  · -- What bears no rule is told by its document alone.
    cases h <;> cases hfound
    all_goals first
      | exact absurd ⟨_, ‹_›⟩ hborne
      | simp_all
    all_goals
      subst_vars
      cases ‹(Datum.map _).isMap = false›
end RuleFile

namespace Pack

variable {files : Files} {owners : Owners} {before given rest : List RuleFile}
  {file : RuleFile} {problem : Problem} {id : String} {fault : Fault}

/-- The ids found so far are those of the files so far, each with its first file. -/
structure Owned (before : List RuleFile) (owners : Owners) : Prop where
  first : ∀ {id path}, owners.lookup id = some path →
    ∃ owner : RuleFile, owner.IsFirstOf id before ∧ owner.path = path
  none : ∀ {id}, owners.lookup id = none → ∀ other ∈ before, ¬ other.BearsId id

theorem owned_nil : Owned [] [] :=
  ⟨nofun, fun _ => nofun⟩

theorem inspectFile_eq_error :
    inspectFile owners file = .error fault ↔ file.Halts fault := by
  unfold inspectFile RuleFile.Halts
  constructor
  · intro h
    split at h
    · cases h
    · cases h
    · rename_i entries hdocument
      split at h
      · cases h
      · rename_i hchecked
        cases h
        exact ⟨entries, hdocument, hchecked⟩
      · dsimp only at h
        split at h <;> cases h
    · cases h
  · rintro ⟨entries, hdocument, hchecked⟩
    simp only [hdocument, hchecked]

theorem faces_of_problem (howned : Owned before owners)
    (h : inspectFile owners file = .ok (.error problem)) : file.Faces before (some problem) := by
  unfold inspectFile at h
  split at h
  · rename_i hdocument
    cases h
    exact .unreadable hdocument
  · rename_i hdocument
    cases h
    exact .unparsable hdocument
  · rename_i entries hdocument
    split at h
    · rename_i hchecked
      cases h
      exact .violation hdocument hchecked
    · cases h
    · rename_i hchecked
      obtain ⟨rule, hread⟩ := Rule.exists_read (Rule.check_eq_ok.mp hchecked) file.path
      simp only [Rule.getD_id_of_read hread, Datum.plain_text] at h
      split at h
      · rename_i first hfirst
        cases h
        obtain ⟨owner, howner, rfl⟩ := howned.first hfirst
        exact .duplicate ⟨rule, ⟨entries, hdocument, hread⟩, rfl⟩ howner
      · cases h
  · rename_i datum hother hdocument
    cases h
    refine .notMapping hdocument ?_
    cases datum <;> first | rfl | exact absurd rfl (hother _)

theorem faces_of_id (howned : Owned before owners)
    (h : inspectFile owners file = .ok (.ok id)) : file.Faces before none := by
  obtain ⟨rule, hbears, rfl, hfresh⟩ := inspectFile_eq_ok.mp h
  exact .sound ⟨rule, hbears, rfl⟩ (howned.none (lookup_eq_none.mpr hfresh))

/-- A file with a problem bears no id that was not found before. -/
theorem Owned.of_problem (howned : Owned before owners)
    (h : inspectFile owners file = .ok (.error problem)) : Owned (before ++ [file]) owners where
  first := fun hfound =>
    let ⟨owner, howner, hpath⟩ := howned.first hfound
    ⟨owner, howner.append [file], hpath⟩
  none := by
    intro id hnone other hother hbears
    rcases List.mem_append.mp hother with hother | hother
    · exact howned.none hnone other hother hbears
    · obtain rfl := List.mem_singleton.mp hother
      obtain ⟨rule, hrule, rfl⟩ := hbears
      have hsound := inspectFile_eq_ok.mpr ⟨rule, hrule, rfl, lookup_eq_none.mp hnone⟩
      rw [hsound] at h
      cases h

theorem Owned.of_id (howned : Owned before owners)
    (h : inspectFile owners file = .ok (.ok id)) :
    Owned (before ++ [file]) (owners ++ [(id, file.path)]) := by
  obtain ⟨rule, hbears, rfl, hfresh⟩ := inspectFile_eq_ok.mp h
  have hnew := howned.none (lookup_eq_none.mpr hfresh)
  constructor
  · intro id path hfound
    rw [List.lookup_append] at hfound
    cases hearlier : owners.lookup id with
    | some first =>
        rw [hearlier] at hfound
        cases hfound
        obtain ⟨owner, howner, hpath⟩ := howned.first hearlier
        exact ⟨owner, howner.append [file], hpath⟩
    | none =>
        rw [hearlier, Option.none_or, List.lookup_cons] at hfound
        split at hfound
        · rename_i hsame
          obtain rfl := eq_of_beq hsame
          cases hfound
          exact ⟨file, ⟨⟨rule, hbears, rfl⟩, before, [], rfl, hnew⟩, rfl⟩
        · cases hfound
  · intro id hnone other hother hborne
    rw [lookup_eq_none, List.map_append, List.mem_append, not_or] at hnone
    rcases List.mem_append.mp hother with hother | hother
    · exact howned.none (lookup_eq_none.mpr hnone.1) other hother hborne
    · obtain rfl := List.mem_singleton.mp hother
      obtain rfl := hborne.unique ⟨rule, hbears, rfl⟩
      exact hnone.2 (by simp)

/-- Behind a file that is read to the end the inspection goes on. -/
theorem inspectFiles_cons_of_ok {result : Except Problem String}
    (h : inspectFile owners file = .ok result) (rest : List RuleFile) :
    ∃ later, ∀ fault, inspectFiles owners (file :: rest) = .error fault ↔
      inspectFiles later rest = .error fault := by
  rw [inspectFiles, h, ok_bind]
  cases result with
  | error problem =>
      refine ⟨owners, fun fault => ?_⟩
      cases inspectFiles owners rest <;> simp [pure, Except.pure]
  | ok id => exact ⟨_, fun fault => Iff.rfl⟩

theorem inspectFiles_eq_error :
    inspectFiles owners given = .error fault ↔
      ∃ before file after, given = before ++ file :: after
        ∧ (∀ other ∈ before, ∀ fault, ¬ other.Halts fault) ∧ file.Halts fault := by
  induction given generalizing owners with
  | nil => simp [inspectFiles]
  | cons file rest ih =>
      rw [exists_split_cons_iff]
      have hhalts (fault : Fault) : file.Halts fault ↔ inspectFile owners file = .error fault :=
        inspectFile_eq_error.symm
      cases hfile : inspectFile owners file with
      | error other =>
          rw [inspectFiles, hhalts, hfile, error_bind, Except.error.injEq, Except.error.injEq]
          exact (or_iff_left fun h => h.1 other ((hhalts other).mpr hfile)).symm
      | ok result =>
          have hread (fault : Fault) : ¬ file.Halts fault := by
            rw [hhalts, hfile]
            simp
          obtain ⟨later, hlater⟩ := inspectFiles_cons_of_ok hfile rest
          rw [hlater, ih]
          exact ⟨fun h => .inr ⟨hread, h⟩, fun h => (h.resolve_left (hread fault)).2⟩

/-- Each file has its outcome, in the order of the files. -/
theorem inspectFiles_eq_ok {told : List Problem} (howned : Owned before owners)
    (h : inspectFiles owners given = .ok told) :
    ∃ outcomes : List (Option Problem), told = outcomes.reduceOption ∧ outcomes.length = given.length
      ∧ ∀ i outcome, outcomes[i]? = some outcome →
        ∃ file : RuleFile, given[i]? = some file ∧ file.Faces (before ++ given.take i) outcome := by
  induction given generalizing before owners told with
  | nil =>
      cases h
      exact ⟨[], rfl, rfl, by simp⟩
  | cons file rest ih =>
      rw [inspectFiles] at h
      obtain ⟨result, hresult, h⟩ := bind_eq_ok.mp h
      -- The first outcome stands before those of the rest.
      have hjoin {outcome : Option Problem} {outcomes : List (Option Problem)}
          (hfirst : file.Faces before outcome)
          (hrest : ∀ i outcome, outcomes[i]? = some outcome →
            ∃ other : RuleFile, rest[i]? = some other
              ∧ other.Faces (before ++ [file] ++ rest.take i) outcome) :
          ∀ i found, (outcome :: outcomes)[i]? = some found →
            ∃ other : RuleFile, (file :: rest)[i]? = some other
              ∧ other.Faces (before ++ (file :: rest).take i) found := by
        intro i found hfound
        cases i with
        | zero =>
            cases hfound
            exact ⟨file, rfl, by simpa using hfirst⟩
        | succ i => simpa using hrest i found hfound
      cases result with
      | error problem =>
          obtain ⟨others, hothers, h⟩ := bind_eq_ok.mp h
          cases h
          obtain ⟨outcomes, rfl, hlength, hrest⟩ := ih (howned.of_problem hresult) hothers
          exact ⟨some problem :: outcomes, by simp, by simp [hlength],
            hjoin (faces_of_problem howned hresult) hrest⟩
      | ok id =>
          obtain ⟨outcomes, rfl, hlength, hrest⟩ := ih (howned.of_id hresult) h
          exact ⟨none :: outcomes, by simp, by simp [hlength],
            hjoin (faces_of_id howned hresult) hrest⟩

theorem inspectExplicit_eq_error {path : Path} :
    inspectExplicit files path = .error fault ↔ files.Loses path fault := by
  rw [← Files.locate?_eq_error, inspectExplicit, bind_eq_error]
  constructor
  · rintro (h | ⟨place, -, h⟩)
    · exact h
    · repeat' split at h
      all_goals cases h
  · exact .inl

theorem finds_of_inspectExplicit {path : Path} {result : Except Problem RuleFile}
    (h : inspectExplicit files path = .ok result) : Source.Finds files path result := by
  obtain ⟨place, hplace, h⟩ := bind_eq_ok.mp h
  split at h
  · rename_i habsent
    cases h
    exact .missing hplace (by simpa using habsent)
  · rename_i hpresent
    split at h
    · rename_i hnamed
      cases h
      exact .extension hplace (by simpa using hpresent) (by simpa using hnamed)
    · rename_i hnamed
      cases h
      exact .file hplace (by simpa using hpresent) (by simpa using hnamed)

theorem inspectExplicit_of_finds {path : Path} {result : Except Problem RuleFile}
    (h : Source.Finds files path result) : inspectExplicit files path = .ok result := by
  unfold inspectExplicit
  cases h with
  | missing placed absent => simp [placed, absent, pure, Except.pure]
  | extension placed present named => simp [placed, present, named, pure, Except.pure]
  | file placed present named => simp [placed, present, named, pure, Except.pure]

theorem inspectExplicit_eq_ok_iff {path : Path} {result : Except Problem RuleFile} :
    inspectExplicit files path = .ok result ↔ Source.Finds files path result :=
  ⟨finds_of_inspectExplicit, inspectExplicit_of_finds⟩

theorem exists_inspectExplicit {path : Path} :
    (∃ result, inspectExplicit files path = .ok result) ↔
      ∃ place, files.locate? path = .ok place := by
  cases hplace : files.locate? path with
  | error fault =>
      rw [inspectExplicit_eq_error.mpr (Files.locate?_eq_error.mp hplace)]
      simp
  | ok place =>
      refine ⟨fun _ => ⟨place, rfl⟩, fun _ => ?_⟩
      cases hresult : inspectExplicit files path with
      | error fault =>
          rw [Files.locate?_eq_error.mpr (inspectExplicit_eq_error.mp hresult)] at hplace
          cases hplace
      | ok result => exact ⟨result, rfl⟩

/-- What an inspection says of the source, and the files that it goes through. -/
def survey? (files : Files) (source : Source) : Except Fault (List Problem × List RuleFile) :=
  match source.directory, source.files with
  | some _, some _ => .ok ([.conflict], [])
  | none, some paths => do
      let results ← paths.mapM (inspectExplicit files)
      pure (problems results, readable results)
  | some given, none => do
      let directory ← files.locate? given
      if files.isDirectory directory then pure ([], Source.listed files directory)
      else pure ([.missingDirectory (files.shown directory)], [])
  | none, none => .ok ([], Source.bundledFiles)

theorem inspect_eq (files : Files) (source : Source) :
    inspect files source = survey? files source >>= fun found =>
      inspectFiles [] found.2 >>= fun told => .ok (found.1 ++ told) := by
  have hnone (given : List RuleFile) :
      inspectFiles [] given = inspectFiles [] given >>= fun told => .ok ([] ++ told) := by
    cases inspectFiles [] given <;> rfl
  obtain ⟨directory, paths⟩ := source
  unfold inspect survey?
  cases directory with
  | none =>
      cases paths with
      | none =>
          rw [ok_bind]
          exact hnone Source.bundledFiles
      | some paths => cases h : paths.mapM (inspectExplicit files) <;> simp [h, pure, Except.pure]
  | some given =>
      cases paths with
      | some paths => rfl
      | none =>
          cases hplace : files.locate? given with
          | error fault => simp [hplace]
          | ok place =>
              simp only [hplace, ok_bind]
              split
              · exact hnone _
              · rfl

theorem survey?_eq_ok {source : Source} {own : List Problem} :
    survey? files source = .ok (own, given) ↔ source.Opens files own given := by
  obtain ⟨directory, paths⟩ := source
  unfold survey?
  cases directory with
  | none =>
      cases paths with
      | none =>
          constructor
          · rintro ⟨⟩
            exact .bundled
          · rintro ⟨⟩
            rfl
      | some paths =>
          simp only [bind_eq_ok, mapM_eq_ok_iff, inspectExplicit_eq_ok_iff]
          constructor
          · rintro ⟨results, hresults, h⟩
            cases h
            exact .files hresults
          · rintro ⟨⟩
            rename_i hresults
            exact ⟨_, hresults, rfl⟩
  | some path =>
      cases paths with
      | some paths =>
          constructor
          · rintro ⟨⟩
            exact .conflict
          · rintro ⟨⟩
            rfl
      | none =>
          simp only [bind_eq_ok]
          constructor
          · rintro ⟨place, hplace, h⟩
            split at h
            · rename_i hpresent
              cases h
              exact .directory hplace hpresent
            · rename_i habsent
              cases h
              exact .missing hplace (by simpa using habsent)
          · intro h
            cases h with
            | missing placed absent => exact ⟨_, placed, by simp [absent, pure, Except.pure]⟩
            | directory placed present => exact ⟨_, placed, by simp [present, pure, Except.pure]⟩

theorem survey?_eq_error {source : Source} :
    survey? files source = .error fault ↔ source.Loses files fault := by
  obtain ⟨directory, paths⟩ := source
  unfold survey?
  cases directory with
  | none =>
      cases paths with
      | none => exact ⟨nofun, nofun⟩
      | some paths =>
          simp only [bind_eq_error, mapM_eq_error_iff, exists_inspectExplicit,
            inspectExplicit_eq_error]
          constructor
          · rintro (⟨before, path, after, rfl, hplaced, hlost⟩ | ⟨_, -, ⟨⟩⟩)
            exact .file hplaced hlost
          · rintro ⟨⟩
            rename_i hplaced hlost
            exact .inl ⟨_, _, _, rfl, hplaced, hlost⟩
  | some path =>
      cases paths with
      | some paths => exact ⟨nofun, nofun⟩
      | none =>
          rw [bind_eq_error, Files.locate?_eq_error]
          constructor
          · rintro (hlost | ⟨place, -, h⟩)
            · exact .directory hlost
            · split at h <;> cases h
          · rintro ⟨hlost⟩
            exact .inl hlost

theorem inspect_eq_error {source : Source} :
    inspect files source = .error fault ↔ source.Jams files fault := by
  rw [inspect_eq, bind_eq_error, survey?_eq_error]
  constructor
  · rintro (hlost | ⟨⟨own, given⟩, hopens, h⟩)
    · exact .path hlost
    · rcases bind_eq_error.mp h with h | ⟨_, -, h⟩
      · obtain ⟨before, file, after, rfl, hread, hhalts⟩ := inspectFiles_eq_error.mp h
        exact .file (survey?_eq_ok.mp hopens) hread hhalts
      · cases h
  · rintro (hlost | ⟨hopens, hread, hhalts⟩)
    · exact .inl hlost
    · refine .inr ⟨_, survey?_eq_ok.mpr hopens, ?_⟩
      rw [inspectFiles_eq_error.mpr ⟨_, _, _, rfl, hread, hhalts⟩, error_bind]

/-- An inspection goes through all files: what it reports is what is wrong with the
source, and then of each file the one thing that is wrong with it, or nothing.  It is
broken off by a path without a place and by a rule that is not checked to the end, and by
nothing else. -/
theorem inspect_reports (files : Files) (source : Source) :
    (∀ problems, inspect files source = .ok problems →
        ∃ own given, ∃ outcomes : List (Option Problem), source.Opens files own given
          ∧ problems = own ++ outcomes.reduceOption ∧ outcomes.length = given.length
          ∧ ∀ i outcome, outcomes[i]? = some outcome →
            ∃ file : RuleFile, given[i]? = some file ∧ file.Faces (given.take i) outcome
              ∧ ∀ other, file.Faces (given.take i) other → other = outcome)
      ∧ (∀ fault, inspect files source = .error fault ↔ source.Jams files fault)
      ∧ ∀ file fault, RuleFile.Halts file fault →
          ∃ entries, file.document = .data (.map entries) ∧ Rule.Stumbles entries fault := by
  refine ⟨fun problems h => ?_, fun fault => inspect_eq_error, ?_⟩
  · rw [inspect_eq] at h
    obtain ⟨⟨own, given⟩, hopens, h⟩ := bind_eq_ok.mp h
    obtain ⟨told, htold, h⟩ := bind_eq_ok.mp h
    cases h
    obtain ⟨outcomes, rfl, hlength, hfaces⟩ := inspectFiles_eq_ok owned_nil htold
    refine ⟨own, given, outcomes, survey?_eq_ok.mp hopens, rfl, hlength, fun i outcome hi => ?_⟩
    obtain ⟨file, hfile, hfaced⟩ := hfaces i outcome hi
    exact ⟨file, hfile, hfaced, fun _ hother => hother.unique hfaced⟩
  · rintro file fault ⟨entries, hdocument, hchecked⟩
    exact ⟨entries, hdocument, Rule.stumbles_of_check hchecked⟩

def unnamedParts : Entries :=
  (solitaryParts "1.1.1" "identical-forms").put (.text "match")
    (named [("strategy", .list [])])

/-- A file beside one that holds no mapping. -/
def unnamedFiles : Files :=
  ⟨"", [(["a.yaml"], .data (.map unnamedParts)), (["b.yaml"], .data (.list []))]⟩

theorem check_unnamed :
    Rule.check (.map unnamedParts) = .error (.fault (.unhashable .list)) := by
  have honly : Rule.onlyKeys ("context" :: Rule.requiredKeys) (.unknownKeys .top) unnamedParts =
      .ok () := rfl
  have hwith : Rule.withKeys Rule.requiredKeys .missingKey unnamedParts = .ok () := rfl
  have hdotted : Numeral.isDotted "1.1.1".toList = true := by decide
  have hid : Rule.checkId (unnamedParts.getD "rule_id" .null) = .ok () :=
    Rule.checkId_text hdotted
  have hversion : Rule.checkVersion (unnamedParts.getD "version" .null) = .ok () := rfl
  have htier : Rule.checkTier (unnamedParts.getD "priority_class" .null) = .ok () := rfl
  have htags : Rule.checkTags (unnamedParts.getD "scope_tags" .null) = .ok () := rfl
  have hmetadata : Rule.checkMetadata (unnamedParts.getD "metadata" .null) = .ok () :=
    Rule.checkMetadata_of_isShare (by decide) rfl
  have hcontext : Rule.checkOptionalContext unnamedParts = .ok () := rfl
  have hmatch : Rule.checkMatch (unnamedParts.getD "match" .null) =
      .error (.fault (.unhashable .list)) := rfl
  simp only [Rule.check, Rule.checkEntries, honly, hwith, hid, hversion, htier, htags, hmetadata,
    hcontext, hmatch, ok_bind, error_bind]

/-- What is wrong with the second file goes unreported. -/
theorem inspect_unnamed :
    ∃ fault, inspect unnamedFiles ⟨none, some [⟨.root, ["a.yaml"]⟩, ⟨.root, ["b.yaml"]⟩]⟩ =
        .error fault := by
  have hopens : survey? unnamedFiles
      ⟨none, some [⟨.root, ["a.yaml"]⟩, ⟨.root, ["b.yaml"]⟩]⟩ =
        .ok ([], [] ++ ⟨"/a.yaml", "a.yaml", .data (.map unnamedParts)⟩ ::
          [⟨"/b.yaml", "b.yaml", .data (.list [])⟩]) := rfl
  refine ⟨.unhashable .list, inspect_eq_error.mpr ?_⟩
  exact .file (survey?_eq_ok.mp hopens) nofun ⟨unnamedParts, rfl, check_unnamed⟩

end Pack

end SutraArbiter
