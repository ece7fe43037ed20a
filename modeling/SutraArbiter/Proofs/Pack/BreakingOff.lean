import SutraArbiter.Proofs.Pack.Loading
import SutraArbiter.Proofs.Rule.BreakingOff

namespace SutraArbiter

/-! The ways in which a load ends: with a registry, with what is wrong with the
configuration, the sources or the rule files, or broken off. -/

/-- No place is found under the path, and this is the fault with which it is told. -/
inductive Files.Loses (files : Files) (path : Path) : Fault → Prop
  | forbidden (marked : ∃ part ∈ path.parts, Path.forbidden ∈ part.toList) :
      Loses files path .nulInPath
  | tooLong (clear : ∀ part ∈ path.parts, Path.forbidden ∉ part.toList)
      (long : pathLimit < (files.shown path.resolve).utf8ByteSize
        ∨ files.meetsLongName path.resolve = true) :
      Loses files path (.nameTooLong (Text.quoteString (files.shown path.resolve)))

/-- The first path of the source that is not found to hold a rule file, or the
directory, has no place. -/
inductive Source.Strays (files : Files) (source : Source) (fault : Fault) : Prop
  | directory {path : Path} (given : source.directory = some path) (alone : source.files = none)
      (lost : files.Loses path fault)
  | file {before after : List Path} {path : Path} (alone : source.directory = none)
      (given : source.files = some (before ++ path :: after))
      (found : ∃ sources, before.mapM (explicitFile files) = .ok sources)
      (lost : files.Loses path fault)

/-- The file holds a mapping whose id is not one that is looked up, or which is wanted and
not checked to the end. -/
def RuleFile.BreaksOff (choice : Choice) (file : RuleFile) (fault : Fault) : Prop :=
  ∃ entries : Entries, file.document = .data (.map entries)
    ∧ ((entries.getD "rule_id" .null).IsUnfit fault
      ∨ choice.verdict? (entries.getD "rule_id" .null) = .ok .wanted
        ∧ Rule.check (.map entries) = .error (.fault fault))

/-- A path of the source strays, or the rules of all files are compiled up to a file
that breaks off. -/
inductive Pack.BreaksOff (files : Files) (source : Source) (choice : Choice) (fault : Fault) : Prop
  | path (strays : source.Strays files fault)
  | file {before after : List RuleFile} {file : RuleFile} {compiled : List Rule}
      (collected : source.collect files = .ok (before ++ file :: after))
      (passed : (compileAll choice [] before).result = .ok compiled)
      (breaks : file.BreaksOff choice fault)

theorem Path.resolve?_eq_ok {path : Path}
    (hclear : ∀ part ∈ path.parts, Path.forbidden ∉ part.toList) :
    path.resolve? = .ok path.resolve := by
  unfold Path.resolve?
  rw [if_neg]
  simpa using hclear

theorem Path.resolve?_eq_error {path : Path}
    (hmarked : ∃ part ∈ path.parts, Path.forbidden ∈ part.toList) :
    path.resolve? = .error .nulInPath := by
  unfold Path.resolve?
  rw [if_pos]
  simpa using hmarked

namespace Files

variable {files : Files} {path : Path} {fault : Fault}

theorem seek?_eq_error :
    files.seek? path = .error fault ↔
      (pathLimit < (files.shown path).utf8ByteSize ∨ files.meetsLongName path = true)
        ∧ fault = .nameTooLong (Text.quoteString (files.shown path)) := by
  unfold seek?
  split
  · rename_i hlong
    rw [Bool.or_eq_true, decide_eq_true_eq] at hlong
    rw [Except.error.injEq, eq_comm]
    exact (and_iff_right hlong).symm
  · rename_i hshort
    rw [Bool.or_eq_true, decide_eq_true_eq] at hshort
    exact ⟨nofun, fun h => absurd h.1 hshort⟩

theorem locate?_eq_error : files.locate? path = .error fault ↔ files.Loses path fault := by
  unfold locate?
  by_cases hmarked : ∃ part ∈ path.parts, Path.forbidden ∈ part.toList
  · rw [Path.resolve?_eq_error hmarked]
    constructor
    · rintro ⟨⟩
      exact .forbidden hmarked
    · rintro (_ | ⟨clear, -⟩)
      · rfl
      · obtain ⟨part, hpart, hforbidden⟩ := hmarked
        exact absurd hforbidden (clear part hpart)
  · have hclear : ∀ part ∈ path.parts, Path.forbidden ∉ part.toList := by
      simpa using hmarked
    rw [Path.resolve?_eq_ok hclear, ok_bind, seek?_eq_error]
    constructor
    · rintro ⟨long, rfl⟩
      exact .tooLong hclear long
    · rintro (marked | ⟨-, long⟩)
      · exact absurd marked hmarked
      · exact ⟨long, rfl⟩

end Files

namespace Source

variable {files : Files} {source : Source} {path : Path} {failure : Failure} {fault : Fault}

theorem explicitFile_eq_error (h : explicitFile files path = .error failure) :
    failure.isConfig = true ∨ ∃ fault, failure = .fault fault := by
  unfold explicitFile at h
  cases hplace : files.locate? path with
  | error fault =>
      rw [hplace] at h
      cases h
      exact .inr ⟨fault, rfl⟩
  | ok place =>
      rw [hplace, mapError_ok, ok_bind] at h
      repeat' split at h
      all_goals cases h
      all_goals exact .inl rfl

theorem explicitFile_eq_fault :
    explicitFile files path = .error (.fault fault) ↔ files.Loses path fault := by
  rw [← Files.locate?_eq_error]
  unfold explicitFile
  cases files.locate? path with
  | error other => simp
  | ok place =>
      rw [mapError_ok, ok_bind]
      repeat' split
      all_goals simp [pure, Except.pure]

theorem collect_eq_error (h : source.collect files = .error failure) :
    failure.isConfig = true ∨ ∃ fault, failure = .fault fault := by
  unfold collect at h
  split at h
  · cases h
    exact .inl rfl
  · obtain ⟨_, path, _, _, _, hpath⟩ := mapM_eq_error_iff.mp h
    exact explicitFile_eq_error hpath
  · rename_i path _ _
    cases hplace : files.locate? path with
    | error fault =>
        rw [hplace] at h
        cases h
        exact .inr ⟨fault, rfl⟩
    | ok place =>
        rw [hplace, mapError_ok, ok_bind] at h
        split at h
        · cases h
        · cases h
          exact .inl rfl
  · cases h

theorem collect_eq_fault :
    source.collect files = .error (.fault fault) ↔ source.Strays files fault := by
  obtain ⟨directory, paths⟩ := source
  unfold collect
  cases directory with
  | none =>
      cases paths with
      | none => exact ⟨nofun, by rintro (⟨⟨⟩, -, -⟩ | ⟨-, ⟨⟩, -, -⟩)⟩
      | some paths =>
          simp only [mapM_eq_error_iff, ← exists_mapM_iff, explicitFile_eq_fault]
          constructor
          · rintro ⟨before, path, after, rfl, hfound, hlost⟩
            exact .file rfl rfl hfound hlost
          · rintro (⟨⟨⟩, -, -⟩ | ⟨-, ⟨⟩, hfound, hlost⟩)
            exact ⟨_, _, _, rfl, hfound, hlost⟩
  | some path =>
      cases paths with
      | some paths => exact ⟨nofun, by rintro (⟨-, ⟨⟩, -⟩ | ⟨⟨⟩, -, -, -⟩)⟩
      | none =>
          constructor
          · intro h
            cases hplace : files.locate? path with
            | error other =>
                simp only [hplace, mapError_error, error_bind] at h
                cases h
                exact .directory rfl rfl (Files.locate?_eq_error.mp hplace)
            | ok place =>
                simp only [hplace, mapError_ok, ok_bind] at h
                split at h <;> cases h
          · rintro (⟨⟨⟩, -, hlost⟩ | ⟨⟨⟩, -, -, -⟩)
            simp only [Files.locate?_eq_error.mpr hlost]
            rfl

end Source

namespace Pack

variable {files : Files} {source : Source} {choice : Choice} {file : RuleFile}
  {given : List RuleFile} {loaded : List Rule} {failure : Failure} {fault : Fault}

theorem verdict?_eq_error {id : Datum} :
    choice.verdict? id = .error fault ↔ id.IsUnfit fault := by
  obtain ⟨verdict, hverdict⟩ := choice.verdict?_eq id
  rw [hverdict, Datum.fitKey]
  unfold Datum.IsUnfit
  cases id.unfitKind? <;> simp [eq_comm]

theorem grant?_eq_error (h : grant? choice file = .error failure) :
    failure.isConfig = true ∨ ∃ fault, failure = .fault fault ∧ file.BreaksOff choice fault := by
  unfold grant? at h
  cases hentries : readFile file with
  | error cause =>
      rw [hentries] at h
      cases h
      exact .inl rfl
  | ok entries =>
      have hdocument := readFile_eq_ok.mp hentries
      rw [hentries, mapError_ok, ok_bind] at h
      cases hverdict : choice.verdict? (entries.getD "rule_id" .null) with
      | error fault =>
          rw [hverdict] at h
          cases h
          exact .inr ⟨fault, rfl, entries, hdocument, .inl (verdict?_eq_error.mp hverdict)⟩
      | ok verdict =>
          rw [hverdict, mapError_ok, ok_bind] at h
          cases verdict with
          | skipped => cases h
          | disabled id => cases h
          | wanted =>
              cases hread : Rule.read file.path (.map entries) with
              | ok rule =>
                  simp only [hread] at h
                  cases h
              | error refused =>
                  obtain ⟨objection, hchecked, rfl⟩ := Rule.read_eq_error.mp hread
                  simp only [hread] at h
                  cases h
                  cases objection with
                  | violation violation => exact .inl rfl
                  | fault fault =>
                      exact .inr ⟨fault, rfl, entries, hdocument, .inr ⟨hverdict, hchecked⟩⟩

theorem grant?_of_breaksOff (h : file.BreaksOff choice fault) :
    grant? choice file = .error (.fault fault) := by
  obtain ⟨entries, hdocument, h⟩ := h
  unfold grant?
  rw [readFile_eq_ok.mpr hdocument, mapError_ok, ok_bind]
  rcases h with hunfit | ⟨hverdict, hchecked⟩
  · rw [verdict?_eq_error.mpr hunfit]
    rfl
  · have hread : Rule.read file.path (.map entries) = .error (.fault fault) :=
      Rule.read_eq_error.mpr ⟨.fault fault, hchecked, rfl⟩
    rw [hverdict, mapError_ok, ok_bind]
    simp only [hread]
    rfl

theorem addition?_eq_error (h : addition? choice loaded file = .error failure) :
    failure.isConfig = true ∨ ∃ fault, failure = .fault fault ∧ file.BreaksOff choice fault := by
  rcases bind_eq_error.mp h with h | ⟨granted, -, h⟩
  · exact grant?_eq_error h
  · cases granted with
    | none => cases h
    | some rule =>
        rcases bind_eq_error.mp h with h | ⟨_, -, h⟩
        · unfold refuseTaken at h
          split at h
          · cases h
            exact .inl rfl
          · cases h
        · cases h

theorem load_eq_error (h : (load files source choice).result = .error failure) :
    failure.isConfig = true
      ∨ ∃ fault, failure = .fault fault ∧ BreaksOff files source choice fault := by
  rcases load_eq_error_iff.mp h with h | ⟨given, hgiven, h⟩
  · refine (Source.collect_eq_error h).imp_right ?_
    rintro ⟨fault, rfl⟩
    exact ⟨fault, rfl, .path (Source.collect_eq_fault.mp h)⟩
  · obtain ⟨before, file, after, admitted, rfl, hbefore, hfile⟩ := compileAll_eq_error_iff.mp h
    refine (addition?_eq_error hfile).imp_right ?_
    rintro ⟨fault, rfl, hbreaks⟩
    exact ⟨fault, rfl, .file hgiven hbefore hbreaks⟩

theorem load_of_breaksOff (h : BreaksOff files source choice fault) :
    (load files source choice).result = .error (.fault fault) := by
  rw [load_eq_error_iff]
  cases h with
  | path hstrays => exact .inl (Source.collect_eq_fault.mpr hstrays)
  | file hcollected hpassed hbreaks =>
      refine .inr ⟨_, hcollected, ?_⟩
      rw [compileAll_eq_error_iff]
      refine ⟨_, _, _, _, rfl, hpassed, ?_⟩
      rw [addition?, grant?_of_breaksOff hbreaks, error_bind]

theorem stumbles_of_breaksOff (h : file.BreaksOff choice fault) :
    ∃ entries : Entries, file.document = .data (.map entries)
      ∧ ((entries.getD "rule_id" .null).IsUnfit fault ∨ Rule.Stumbles entries fault) := by
  obtain ⟨entries, hdocument, hunfit | ⟨-, hchecked⟩⟩ := h
  · exact ⟨entries, hdocument, .inl hunfit⟩
  · exact ⟨entries, hdocument, .inr (Rule.stumbles_of_check hchecked)⟩

theorem BreaksOff.label_mem (h : BreaksOff files source choice fault) :
    fault.label ∈ ["TypeError", "ValueError", "OSError"] := by
  have hlost {path : Path} (h : files.Loses path fault) :
      fault.label ∈ ["TypeError", "ValueError", "OSError"] := by
    cases h with
    | forbidden _ => simp [Fault.label]
    | tooLong _ _ => simp [Fault.label]
  cases h with
  | path hstrays =>
      cases hstrays with
      | directory _ _ lost => exact hlost lost
      | file _ _ _ lost => exact hlost lost
  | file _ _ hbreaks =>
      obtain ⟨entries, -, ⟨kind, -, rfl⟩ | hstumbles⟩ := stumbles_of_breaksOff hbreaks
      · simp [Fault.label]
      · rcases hstumbles.label with hlabel | hlabel <;> simp [hlabel]

theorem load_frozen {registry : Registry}
    (h : (load files source choice).result = .ok registry) : registry.frozen = false := by
  obtain ⟨_, _, _, _, hregistered⟩ := ofSubmissions_of_load h
  exact Registry.frozen_ofSubmissions hregistered

/-- A load comes to a registry that is not frozen, or to a failure of the
configuration, unless it breaks off: on a path without a place, or on the first file
whose id is not looked up or whose rule is not checked to the end.  What a rule stumbles
over is an integer without a text, the name of a strategy, or unknown keys without an
order. -/
theorem load_outcome (files : Files) (source : Source) (choice : Choice) :
    (∀ registry, (load files source choice).result = .ok registry → registry.frozen = false)
      ∧ (∀ failure, (load files source choice).result = .error failure →
          failure.isConfig = true ∨ ∃ fault, failure = .fault fault
            ∧ fault.label ∈ ["TypeError", "ValueError", "OSError"])
      ∧ (∀ fault, (load files source choice).result = .error (.fault fault) ↔
          BreaksOff files source choice fault)
      ∧ ∀ file fault, RuleFile.BreaksOff choice file fault →
          ∃ entries : Entries, file.document = .data (.map entries)
            ∧ ((entries.getD "rule_id" .null).IsUnfit fault ∨ Rule.Stumbles entries fault) := by
  refine ⟨fun registry => load_frozen, fun failure h => ?_, fun fault => ⟨fun h => ?_,
    load_of_breaksOff⟩, fun file fault => stumbles_of_breaksOff⟩
  · exact (load_eq_error h).imp_right
      fun ⟨fault, hfault, hbreaks⟩ => ⟨fault, hfault, hbreaks.label_mem⟩
  · rcases load_eq_error h with ⟨⟨⟩⟩ | ⟨fault, ⟨⟩, hbreaks⟩
    exact hbreaks

def listedIdFiles : Files :=
  ⟨"", [(["listed.yaml"], .data (.map [(.text "rule_id", .list [])]))]⟩

/-- A file whose rule id is a list breaks off the load. -/
theorem load_listedId :
    ∃ failure, (load listedIdFiles ⟨none, some [⟨.root, ["listed.yaml"]⟩]⟩ .everything).result =
        .error failure
      ∧ failure.isConfig = false := by
  refine ⟨.fault (.unhashable .list), load_of_breaksOff ?_, rfl⟩
  have hcollected : Source.collect listedIdFiles ⟨none, some [⟨.root, ["listed.yaml"]⟩]⟩ =
      .ok ([] ++ ⟨"/listed.yaml", "listed.yaml",
        .data (.map [(.text "rule_id", .list [])])⟩ :: []) := rfl
  exact .file hcollected rfl ⟨_, rfl, .inl ⟨.list, rfl, rfl⟩⟩

end Pack

end SutraArbiter
