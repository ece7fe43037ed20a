import SutraArbiter.CommandLine.Run
import SutraArbiter.Proofs.Config.Reading
import SutraArbiter.Proofs.Pack.BreakingOff
import SutraArbiter.Proofs.Text.Trim

namespace SutraArbiter

/-! A configuration that is loaded is one that an engine takes.  Every other load ends in
a fault of the configuration, or is broken off. -/

/-- The entries that a document holds; one that holds nothing has none. -/
def Document.entries? : Document → Option Entries
  | .data .null => some []
  | .data (.map entries) => some entries
  | _ => none

namespace Config

/-- The place at which a configuration is looked for. -/
def place? (files : Files) (root : Path) (explicit : Option Path) : Except Fault Path := do
  let base ← root.resolve?
  match explicit with
  | some given => files.locate? given
  | none => files.seek? (base.join fileName)

/-- The configuration of the file at its place, or the usual one where no file is asked
for and none is there. -/
inductive IsLoaded (files : Files) (root : Path) (explicit : Option Path) : Config → Prop
  | usual {path : Path} (looked : place? files root explicit = .ok path)
      (unasked : explicit = none) (absent : files.has path = false) :
      IsLoaded files root explicit .usual
  | file {path : Path} {entries : Entries} {config : Config}
      (looked : place? files root explicit = .ok path) (there : files.has path = true)
      (held : (files.read path).entries? = some entries)
      (read : IsReadFrom path.parent entries config) : IsLoaded files root explicit config

/-- There is no place at which to look. -/
inductive Strays (files : Files) (root : Path) (explicit : Option Path) : Fault → Prop
  | root (marked : ∃ part ∈ root.parts, Path.forbidden ∈ part.toList) :
      Strays files root explicit .nulInPath
  | asked {given : Path} {fault : Fault} (clear : ∀ part ∈ root.parts, Path.forbidden ∉ part.toList)
      (asked : explicit = some given) (lost : files.Loses given fault) :
      Strays files root explicit fault
  | usual (clear : ∀ part ∈ root.parts, Path.forbidden ∉ part.toList) (unasked : explicit = none)
      (long : Files.pathLimit < (files.shown (root.resolve.join fileName)).utf8ByteSize
        ∨ files.meetsLongName (root.resolve.join fileName) = true) :
      Strays files root explicit
        (.nameTooLong (Text.quoteString (files.shown (root.resolve.join fileName))))

/-- A load ends in something else than a fault of the configuration. -/
inductive BreaksOff (files : Files) (root : Path) (explicit : Option Path) : Failure → Prop
  | place {fault : Fault} (strays : Strays files root explicit fault) :
      BreaksOff files root explicit (.fault fault)
  | directory {path : Path} (looked : place? files root explicit = .ok path)
      (there : files.has path = true) (directory : files.read path = .directory) :
      BreaksOff files root explicit (.directory (files.shown path))
  | entries {path : Path} {entries : Entries} {fault : Fault}
      (looked : place? files root explicit = .ok path) (there : files.has path = true)
      (held : (files.read path).entries? = some entries) (garbled : Garbles entries fault) :
      BreaksOff files root explicit (.fault fault)

/-- The settings make an engine, the scope has tags and all are trimmed, and the rules
have one source, which the paths are collected from without a conflict. -/
structure IsReady (config : Config) : Prop where
  engine : ∀ registry : Registry,
    Engine.ofSettings registry (.int config.limit) (.text config.tieBreak.name) config.scope =
      .ok ⟨registry.freeze, config.limit, config.tieBreak, config.scope⟩
  scope : config.scope ≠ [] ∧ ∀ tag ∈ config.scope, tag ≠ "" ∧ Text.trimString tag = tag
  source : config.source.directory = none ∨ config.source.files = none
  collected : ∀ files, config.source.collect files ≠ .error (.config .sourceConflict)

end Config

/-- The configuration with the source that a request names in place of its own. -/
def Request.configure (request : Request) (config : Config) : Config :=
  match request.source? with
  | some (source, _) => { config with source }
  | none => config

namespace Config

variable {files : Files} {root base path : Path} {explicit : Option Path} {entries : Entries}
  {config : Config} {failure : Failure} {fault : Fault}

theorem place?_eq_error : place? files root explicit = .error fault ↔
    Strays files root explicit fault := by
  unfold place?
  by_cases hmarked : ∃ part ∈ root.parts, Path.forbidden ∈ part.toList
  · rw [Path.resolve?_eq_error hmarked]
    constructor
    · rintro ⟨⟩
      exact .root hmarked
    · rintro (_ | ⟨clear, -, -⟩ | ⟨clear, -, -⟩)
      · rfl
      all_goals
        obtain ⟨part, hpart, hforbidden⟩ := hmarked
        exact absurd hforbidden (clear part hpart)
  · have hclear : ∀ part ∈ root.parts, Path.forbidden ∉ part.toList := by
      simpa using hmarked
    rw [Path.resolve?_eq_ok hclear, ok_bind]
    cases explicit with
    | some given =>
        rw [Files.locate?_eq_error]
        constructor
        · exact .asked hclear rfl
        · rintro (marked | ⟨-, ⟨⟩, lost⟩ | ⟨-, ⟨⟩, -⟩)
          · exact absurd marked hmarked
          · exact lost
    | none =>
        rw [Files.seek?_eq_error]
        constructor
        · rintro ⟨long, rfl⟩
          exact .usual hclear rfl long
        · rintro (marked | ⟨-, ⟨⟩, -⟩ | ⟨-, -, long⟩)
          · exact absurd marked hmarked
          · exact ⟨long, rfl⟩

theorem load_eq (files : Files) (root : Path) (explicit : Option Path) :
    load files root explicit =
      ((place? files root explicit).mapError .fault >>= fun path =>
        if files.has path then readFile files path
        else if explicit.isSome then refuse (.configMissing (files.shown path)) else .ok usual) := by
  unfold load place?
  cases root.resolve? with
  | error fault => rfl
  | ok base => cases explicit <;> rfl

theorem readFile_of_entries (h : (files.read path).entries? = some entries) :
    readFile files path = readEntries files path entries := by
  unfold readFile
  unfold Document.entries? at h
  split at h
  · rename_i hread
    cases h
    simp only [hread]
  · rename_i hread
    cases h
    simp only [hread]
  · cases h

theorem readFile_of_directory (h : files.read path = .directory) :
    readFile files path = .error (.directory (files.shown path)) := by
  simp only [readFile, h]

/-- A document holds entries, is none, or is refused. -/
theorem readFile_cases (files : Files) (path : Path) :
    (∃ entries, (files.read path).entries? = some entries) ∨ files.read path = .directory
      ∨ ∃ cause, readFile files path = refuse cause := by
  cases hread : files.read path with
  | directory => exact .inr (.inl rfl)
  | unparsable told =>
      refine .inr (.inr ⟨.configUnparsable (files.shown path) told, ?_⟩)
      simp only [readFile, hread]
  | data datum =>
      cases datum with
      | null | map _ => exact .inl ⟨_, rfl⟩
      | _ =>
          refine .inr (.inr ⟨.configNotMapping (files.shown path), ?_⟩)
          simp only [readFile, hread]

theorem readFile_eq_ok :
    readFile files path = .ok config ↔
      ∃ entries, (files.read path).entries? = some entries
        ∧ IsReadFrom path.parent entries config := by
  constructor
  · intro h
    rcases readFile_cases files path with ⟨entries, hentries⟩ | hdirectory | ⟨cause, hcause⟩
    · rw [readFile_of_entries hentries] at h
      exact ⟨entries, hentries, readEntries_eq_ok.mp h⟩
    · rw [readFile_of_directory hdirectory] at h
      cases h
    · rw [hcause] at h
      cases h
  · rintro ⟨entries, hentries, hread⟩
    rw [readFile_of_entries hentries, readEntries_eq_ok.mpr hread]

theorem load_of_place? (hplace : place? files root explicit = .ok path) :
    load files root explicit =
      if files.has path then readFile files path
      else if explicit.isSome then refuse (.configMissing (files.shown path)) else .ok usual := by
  rw [load_eq, hplace]
  rfl

theorem load_eq_ok : load files root explicit = .ok config ↔ IsLoaded files root explicit config := by
  constructor
  · intro h
    rw [load_eq] at h
    obtain ⟨path, hplace, h⟩ := bind_eq_ok.mp h
    rw [mapError_eq_ok] at hplace
    split at h
    · rename_i hthere
      obtain ⟨entries, hentries, hread⟩ := readFile_eq_ok.mp h
      exact .file hplace hthere hentries hread
    · rename_i habsent
      split at h
      · cases h
      · rename_i hunasked
        cases h
        exact .usual hplace (by simpa using hunasked) (by simpa using habsent)
  · intro h
    cases h with
    | usual looked unasked absent =>
        rw [load_of_place? looked, absent, unasked]
        rfl
    | file looked there held read =>
        rw [load_of_place? looked, if_pos there]
        exact readFile_eq_ok.mpr ⟨_, held, read⟩

theorem load_eq_error (h : load files root explicit = .error failure) :
    (∃ cause, failure = .config cause) ∨ BreaksOff files root explicit failure := by
  cases hplace : place? files root explicit with
  | error fault =>
      rw [load_eq, hplace] at h
      cases h
      exact .inr (.place (place?_eq_error.mp hplace))
  | ok path =>
      rw [load_of_place? hplace] at h
      split at h
      · rename_i hthere
        rcases readFile_cases files path with ⟨entries, hentries⟩ | hdirectory | ⟨cause, hcause⟩
        · rw [readFile_of_entries hentries] at h
          refine (readEntries_eq_error h).imp_right ?_
          rintro ⟨fault, rfl, hgarbled⟩
          exact .entries hplace hthere hentries hgarbled
        · rw [readFile_of_directory hdirectory] at h
          cases h
          exact .inr (.directory hplace hthere hdirectory)
        · rw [hcause] at h
          exact .inl (refuses_refuse _ _ h)
      · split at h
        · exact .inl (refuses_refuse _ _ h)
        · cases h

theorem load_of_breaksOff (h : BreaksOff files root explicit failure) :
    load files root explicit = .error failure := by
  cases h with
  | place strays =>
      rw [load_eq, place?_eq_error.mpr strays]
      rfl
  | directory looked there directory =>
      rw [load_of_place? looked, if_pos there, readFile_of_directory directory]
  | entries looked there held garbled =>
      rw [load_of_place? looked, if_pos there, readFile_of_entries held,
        readEntries_of_garbles garbled]

theorem BreaksOff.ne_config (h : BreaksOff files root explicit failure) (cause : ConfigFault) :
    failure ≠ .config cause := by
  cases h <;> exact nofun

theorem explicitFile_ne_conflict :
    Source.explicitFile files path ≠ .error (.config .sourceConflict) := by
  unfold Source.explicitFile
  cases files.locate? path with
  | error fault => exact nofun
  | ok place =>
      rw [mapError_ok, ok_bind]
      repeat' split
      all_goals exact nofun

theorem collect_ne_conflict {source : Source}
    (halone : source.directory = none ∨ source.files = none) (files : Files) :
    source.collect files ≠ .error (.config .sourceConflict) := by
  intro h
  unfold Source.collect at h
  split at h
  · rename_i hdirectory hfiles
    simp [hdirectory, hfiles] at halone
  · obtain ⟨_, path, _, _, _, hpath⟩ := mapM_eq_error_iff.mp h
    exact explicitFile_ne_conflict hpath
  · rename_i given _ _
    cases hplace : files.locate? given with
    | error fault =>
        rw [hplace] at h
        cases h
    | ok place =>
        rw [hplace, mapError_ok, ok_bind] at h
        split at h <;> cases h
  · cases h

theorem Names.alone {source : Source} (h : Names base entries source) :
    source.directory = none ∨ source.files = none := by
  cases h with
  | usual => exact .inl rfl
  | directory => exact .inr rfl
  | files => exact .inl rfl

theorem source?_alone {request : Request} {source : Source} {fault : Option Fault}
    (h : request.source? = some (source, fault)) :
    source.directory = none ∨ source.files = none := by
  unfold Request.source? at h
  split at h
  · split at h
    · cases h
      exact .inr rfl
    · cases h
      exact .inl rfl
  · cases h
  · cases h
    exact .inl rfl

theorem ofSettings_of_pos (registry : Registry) (hlimit : 0 < config.limit) :
    Engine.ofSettings registry (.int config.limit) (.text config.tieBreak.name) config.scope =
      .ok ⟨registry.freeze, config.limit, config.tieBreak, config.scope⟩ := by
  have hpolicy : TieBreak.read (.text config.tieBreak.name) = .ok config.tieBreak := by
    cases config.tieBreak <;> rfl
  exact Engine.ofSettings_eq_ok.mpr
    ⟨_, _, Engine.readLimit_eq_ok.mpr ⟨rfl, hlimit⟩, hpolicy, rfl⟩

/-- What is left of a tag that is not blank is no empty text, and trimmed. -/
theorem trimmed_of_mem {texts : List String} {tag : String}
    (h : tag ∈ (texts.filter fun tag => !Text.isBlankString tag).map Text.trimString) :
    tag ≠ "" ∧ Text.trimString tag = tag := by
  obtain ⟨given, hgiven, rfl⟩ := List.mem_map.mp h
  have hshown : ¬Text.isBlankString given = true := by
    simpa using (List.mem_filter.mp hgiven).2
  exact ⟨fun hempty => hshown (Text.isBlankString_eq_true.mpr hempty),
    Text.trimString_trimString given⟩

theorem IsReadFrom.isReady (h : IsReadFrom base entries config) : config.IsReady := by
  obtain ⟨texts, -, hscope, hsome⟩ := h.scope
  exact {
    engine := fun registry => ofSettings_of_pos registry h.limit.2
    scope := ⟨hsome, fun tag htag => trimmed_of_mem (hscope ▸ htag)⟩
    source := h.source.alone
    collected := collect_ne_conflict h.source.alone }

theorem isReady_usual : usual.IsReady where
  engine registry := ofSettings_of_pos registry (by decide)
  scope := by decide
  source := .inl rfl
  collected := collect_ne_conflict (.inl rfl)

theorem IsLoaded.isReady (h : IsLoaded files root explicit config) : config.IsReady := by
  cases h with
  | usual => exact isReady_usual
  | file _ _ _ read => exact read.isReady

/-- The source of a request changes nothing else of the configuration. -/
theorem IsReady.configure (h : config.IsReady) (request : Request) :
    (request.configure config).IsReady := by
  unfold Request.configure
  split
  · rename_i source fault hsource
    exact {
      engine := h.engine
      scope := h.scope
      source := source?_alone hsource
      collected := collect_ne_conflict (source?_alone hsource) }
  · exact h

/-- The engine of a request is that of its configuration, unless one of its paths is none. -/
theorem readEngine_eq {request : Request} (hconfig : request.readConfig files = .ok config)
    (hpaths : ∀ source fault, request.source? ≠ some (source, some fault)) :
    request.readEngine files = (request.configure config).engine files none := by
  unfold Request.readEngine Request.configure
  rw [hconfig]
  cases hgiven : request.source? with
  | none => rfl
  | some given =>
      obtain ⟨source, fault⟩ := given
      cases fault with
      | none => rfl
      | some fault => exact absurd hgiven (hpaths source fault)

/-- A load gives the configuration of the file at its place, or the usual one where none is
asked for and none is there.  Every engine takes it, with its own source or with that of a
request, which is the engine that the request is answered by.  Every other load ends in a
fault of the configuration, except where it breaks off: where there is no place to look at,
the place holds a directory, or an entry that is refused has no text for the refusal. -/
theorem load_engineReady (files : Files) (root : Path) (explicit : Option Path) :
    (∀ config, load files root explicit = .ok config ↔ IsLoaded files root explicit config)
      ∧ (∀ config, load files root explicit = .ok config →
          config.IsReady ∧ ∀ request : Request, (request.configure config).IsReady)
      ∧ (∀ (request : Request) (config : Config), request.readConfig files = .ok config →
          (∀ source fault, request.source? ≠ some (source, some fault)) →
          request.readEngine files = (request.configure config).engine files none)
      ∧ ∀ failure, load files root explicit = .error failure ∧ (∀ cause, failure ≠ .config cause) ↔
          BreaksOff files root explicit failure := by
  refine ⟨fun config => load_eq_ok, fun config h => ?_, fun request config => readEngine_eq,
    fun failure => ⟨?_, fun h => ?_⟩⟩
  · have hready := (load_eq_ok.mp h).isReady
    exact ⟨hready, hready.configure⟩
  · rintro ⟨h, hother⟩
    refine (load_eq_error h).resolve_left ?_
    rintro ⟨cause, hcause⟩
    exact hother cause hcause
  · exact ⟨load_of_breaksOff h, h.ne_config⟩

/-- A directory in place of the usual file is read as one. -/
theorem load_directory :
    load ⟨"", [(["paribhasha.yaml"], .directory)]⟩ .root none =
      .error (.directory "/paribhasha.yaml") := by
  rfl

end Config

end SutraArbiter
