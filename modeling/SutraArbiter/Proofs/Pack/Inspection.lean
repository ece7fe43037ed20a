import SutraArbiter.Pack.Inspection
import SutraArbiter.Proofs.Pack.Bundled

namespace SutraArbiter.Pack

/-! Inspection and loading are two readings of the same files: the one finds no
problem where the other comes to a registry. -/

variable {files : Files} {source : Source} {owners : Owners} {file : RuleFile}
  {given rest : List RuleFile}

theorem lookup_eq_none {id : String} : owners.lookup id = none ↔ id ∉ owners.map Prod.fst := by
  rw [List.lookup_eq_none_iff]
  constructor
  · intro h hmem
    obtain ⟨owner, howner, rfl⟩ := List.mem_map.mp hmem
    exact bne_iff_ne.mp (h owner howner) rfl
  · intro h owner howner
    exact bne_iff_ne.mpr fun hsame => h (hsame ▸ List.mem_map_of_mem howner)

theorem inspectFile_eq_ok {id : String} :
    inspectFile owners file = .ok (.ok id) ↔
      ∃ rule, file.Bears rule ∧ rule.id = id ∧ id ∉ owners.map Prod.fst := by
  unfold inspectFile RuleFile.Bears
  constructor
  · intro h
    split at h
    · cases h
    · cases h
    · rename_i entries hdocument
      split at h
      · cases h
      · cases h
      · rename_i hchecked
        obtain ⟨rule, hread⟩ := Rule.exists_read (Rule.check_eq_ok.mp hchecked) file.path
        simp only [Rule.getD_id_of_read hread, Datum.plain_text] at h
        split at h
        · cases h
        · rename_i hnone
          cases h
          exact ⟨rule, ⟨entries, hdocument, hread⟩, rfl, lookup_eq_none.mp hnone⟩
    · cases h
  · rintro ⟨rule, ⟨entries, hdocument, hread⟩, rfl, hfresh⟩
    simp only [hdocument, Rule.check_of_read hread, Rule.getD_id_of_read hread,
      Datum.plain_text, lookup_eq_none.mpr hfresh]

theorem inspectFiles_cons :
    inspectFiles owners (file :: rest) = .ok [] ↔
      ∃ id, inspectFile owners file = .ok (.ok id)
        ∧ inspectFiles (owners ++ [(id, file.path)]) rest = .ok [] := by
  simp only [inspectFiles, bind_eq_ok]
  constructor
  · rintro ⟨problem | id, hresult, h⟩
    · obtain ⟨others, -, h⟩ := bind_eq_ok.mp h
      cases h
    · exact ⟨id, hresult, h⟩
  · rintro ⟨id, hresult, h⟩
    exact ⟨.ok id, hresult, h⟩

theorem inspectFiles_eq_nil :
    inspectFiles owners given = .ok [] ↔ ∃ rules, Yields (owners.map Prod.fst) given rules := by
  induction given generalizing owners with
  | nil => simp [inspectFiles, yields_nil]
  | cons file rest ih =>
      simp only [inspectFiles_cons, inspectFile_eq_ok, ih, yields_cons, List.map_append,
        List.map_singleton]
      constructor
      · rintro ⟨_, ⟨rule, hrule, rfl, hfresh⟩, rules, hrules⟩
        exact ⟨rule :: rules, rule, rules, hrule, hfresh, hrules, rfl⟩
      · rintro ⟨_, rule, rules, hrule, hfresh, hrules, rfl⟩
        exact ⟨rule.id, ⟨rule, hrule, rfl, hfresh⟩, rules, hrules⟩

theorem inspectExplicit_eq_ok {path : Path} :
    inspectExplicit files path = .ok (.ok file) ↔ Source.explicitFile files path = .ok file := by
  simp only [inspectExplicit, Source.explicitFile, bind_eq_ok, mapError_eq_ok]
  refine exists_congr fun place => and_congr_right fun _ => ?_
  split
  · exact ⟨nofun, nofun⟩
  · split
    · exact ⟨nofun, nofun⟩
    · exact ⟨fun h => congrArg _ (Except.ok.inj (Except.ok.inj h)),
        fun h => congrArg (Except.ok ∘ Except.ok) (Except.ok.inj h)⟩

theorem eq_map_readable {results : List (Except Problem RuleFile)}
    (h : problems results = []) : results = (readable results).map .ok := by
  induction results with
  | nil => rfl
  | cons result rest ih =>
      cases result with
      | error problem => cases h
      | ok file => exact congrArg _ (ih h)

@[simp] theorem problems_map_ok : problems (given.map .ok) = [] := by
  simp [problems]

@[simp] theorem readable_map_ok : readable (given.map .ok) = given := by
  simp [readable, List.filterMap_map, Function.comp_def, Except.toOption]

theorem inspectExplicit_mapM {paths : List Path} :
    (∃ results, paths.mapM (inspectExplicit files) = .ok results ∧ problems results = []
        ∧ readable results = given) ↔
      paths.mapM (Source.explicitFile files) = .ok given := by
  have hfiles : paths.mapM (inspectExplicit files) = .ok (given.map .ok) ↔
      paths.mapM (Source.explicitFile files) = .ok given := by
    simp only [mapM_eq_ok_iff, List.forall₂_map_right_iff, inspectExplicit_eq_ok]
  rw [← hfiles]
  constructor
  · rintro ⟨results, hresults, hnone, rfl⟩
    rwa [← eq_map_readable hnone]
  · exact fun h => ⟨_, h, problems_map_ok, readable_map_ok⟩

theorem inspect_eq_nil :
    inspect files source = .ok [] ↔
      ∃ given rules, source.collect files = .ok given ∧ Yields [] given rules := by
  have hinspected {given : List RuleFile} :
      inspectFiles [] given = .ok [] ↔ ∃ rules, Yields [] given rules := inspectFiles_eq_nil
  obtain ⟨directory, paths⟩ := source
  unfold inspect Source.collect
  cases directory with
  | none =>
      cases paths with
      | none => simp [hinspected]
      | some paths =>
          simp only [← inspectExplicit_mapM, bind_eq_ok]
          constructor
          · rintro ⟨results, hresults, others, hothers, h⟩
            obtain ⟨hnone, rfl⟩ := List.append_eq_nil_iff.mp (Except.ok.inj h)
            obtain ⟨rules, hrules⟩ := hinspected.mp hothers
            exact ⟨_, rules, ⟨results, hresults, hnone, rfl⟩, hrules⟩
          · rintro ⟨_, rules, ⟨results, hresults, hnone, rfl⟩, hrules⟩
            refine ⟨results, hresults, [], hinspected.mpr ⟨rules, hrules⟩, ?_⟩
            rw [hnone]
            rfl
  | some directory =>
      cases paths with
      | some paths => simp
      | none =>
          simp only [bind_eq_ok, mapError_eq_ok]
          constructor
          · rintro ⟨place, hplace, h⟩
            split at h
            · rename_i hdirectory
              obtain ⟨rules, hrules⟩ := hinspected.mp h
              exact ⟨_, rules, ⟨place, hplace, if_pos hdirectory⟩, hrules⟩
            · cases h
          · rintro ⟨given, rules, ⟨place, hplace, h⟩, hrules⟩
            refine ⟨place, hplace, ?_⟩
            split at h
            · rename_i hdirectory
              cases h
              rw [if_pos hdirectory]
              exact hinspected.mpr ⟨rules, hrules⟩
            · cases h

/-- A source has no problem exactly when it can be loaded, and what is then loaded
is one rule for each of its files.  For whatever the check accepts is compiled, and entered
as it is. -/
theorem inspect_eq_nil_iff_exists_load (files : Files) (source : Source) :
    (inspect files source = .ok [] ↔
        ∃ registry, (load files source .everything).result = .ok registry)
      ∧ (∀ registry, (load files source .everything).result = .ok registry →
          ∃ given rules, source.collect files = .ok given
            ∧ List.Forall₂ RuleFile.Bears given rules
            ∧ (registry.entries.map Entry.toRule).Perm rules)
      ∧ ∀ (path : String) (entries : Entries), Rule.check (.map entries) = .ok () →
          ∃ rule, Rule.compile path entries = .ok rule ∧ rule.draft.toRule = .ok rule := by
  refine ⟨?_, fun registry hload => ?_, fun path entries hchecked => ?_⟩
  · rw [inspect_eq_nil]
    constructor
    · rintro ⟨given, rules, hgiven, hrules⟩
      obtain ⟨registry, hregistry, -⟩ := hrules.exists_registry
      exact ⟨registry, load_eq_ok.mpr ⟨given, rules, hgiven, hrules, hregistry⟩⟩
    · rintro ⟨registry, hload⟩
      obtain ⟨given, rules, hgiven, hrules, -⟩ := load_eq_ok.mp hload
      exact ⟨given, rules, hgiven, hrules⟩
  · obtain ⟨given, rules, hgiven, hrules, hregistered⟩ := load_eq_ok.mp hload
    obtain ⟨entered, hentered, hentries⟩ := hrules.exists_registry
    obtain rfl : registry = entered := Except.ok.inj (hregistered.symm.trans hentered)
    refine ⟨given, rules, hgiven, hrules.bears, ?_⟩
    rw [hentries, Registry.map_toRule_numbered]
    exact List.mergeSort_perm _ _
  · obtain ⟨rule, hcompiled⟩ := Rule.exists_compile_of_check hchecked path
    exact ⟨rule, hcompiled, Rule.toRule_draft_of_read (Rule.read_of_compile hchecked hcompiled)⟩

/-- The bundled files are loaded, so there is no problem with them, and each of them passes
the check and is compiled. -/
theorem inspect_eq_nil_bundled :
    inspect ⟨"", []⟩ .bundled = .ok []
      ∧ (∃ registry rules, (load ⟨"", []⟩ .bundled .everything).result = .ok registry
          ∧ List.Forall₂ RuleFile.Bears Source.bundledFiles rules
          ∧ (registry.entries.map Entry.toRule).Perm rules)
      ∧ Rule.check (.map Profile.pronouns.definition) = .ok ()
      ∧ ∃ rule, Rule.compile "1.2.72.yaml" Profile.pronouns.definition = .ok rule
          ∧ rule.draft.toRule = .ok rule := by
  obtain ⟨hiff, hholds, hcompiles⟩ := inspect_eq_nil_iff_exists_load ⟨"", []⟩ .bundled
  obtain ⟨registry, hload, -⟩ := load_bundled ⟨"", []⟩
  obtain ⟨given, rules, hgiven, hrules, hperm⟩ := hholds registry hload
  obtain rfl : Source.bundledFiles = given := Except.ok.inj hgiven
  obtain ⟨rule, hread, -⟩ := reads_pronouns
  have hchecked : Rule.check (.map Profile.pronouns.definition) = .ok () :=
    Rule.check_of_read hread
  exact ⟨hiff.mpr ⟨registry, hload⟩, ⟨registry, rules, hload, hrules, hperm⟩, hchecked,
    hcompiles _ _ hchecked⟩

end SutraArbiter.Pack
