import SutraArbiter.Config
import SutraArbiter.Proofs.Arrangement.Failing
import SutraArbiter.Proofs.Datum
import SutraArbiter.Proofs.Resolution

namespace SutraArbiter

/-! The entries of a configuration file: what is read from them, and what of them can
neither be read nor refused. -/

/-- The datum gives these texts; nothing gives none. -/
inductive Datum.Gives : Datum → List String → Prop
  | nothing : Gives .null []
  | list (texts : List String) : Gives (.list (texts.map .text)) texts
  | tuple (texts : List String) : Gives (.tuple (texts.map .text)) texts

namespace Config

/-- The entries name the source of the rules, seen from the directory `base`. -/
inductive Names (base : Path) (entries : Entries) : Source → Prop
  | usual (no_directory : entries.getD "rules_dir" .null = .null)
      (no_files : entries.getD "rule_files" .null = .null) : Names base entries .bundled
  | directory {name : String} (given : entries.getD "rules_dir" .null = .text name)
      (no_files : entries.getD "rule_files" .null = .null) :
      Names base entries ⟨some (base.join name), none⟩
  | files {names : List String} (no_directory : entries.getD "rules_dir" .null = .null)
      (some_files : entries.getD "rule_files" .null ≠ .null)
      (given : (entries.getD "rule_files" .null).Gives names) :
      Names base entries ⟨none, some (names.map base.join)⟩

/-- The configuration is what the entries of a file in the directory `base` ask for. -/
structure IsReadFrom (base : Path) (entries : Entries) (config : Config) : Prop where
  known : Rule.unknownKeys keys entries = []
  limit : entries.getD "max_candidates" (.int usual.limit) = .int config.limit ∧ 0 < config.limit
  tieBreak : entries.getD "tie_break" (.text usual.tieBreak.name) = .text config.tieBreak.name
  scope : ∃ texts, (entries.getD "default_scope" (Datum.ofStrings usual.scope)).Gives texts
    ∧ config.scope = (texts.filter fun tag => !Text.isBlankString tag).map Text.trimString
    ∧ config.scope ≠ []
  source : Names base entries config.source
  disabled : (entries.getD "disabled_rules" (.list [])).Gives config.disabled

/-- The entries cannot be refused for what is wrong with them: their unknown keys have no
order or cannot be written out, or a policy that is none cannot be. -/
inductive Garbles (entries : Entries) : Fault → Prop
  | unordered {fault : Fault}
      (unordered : Datum.sorted? (Rule.unknownKeys keys entries) = .error fault) :
      Garbles entries fault
  | key {told : List Datum} (ordered : Datum.sorted? (Rule.unknownKeys keys entries) = .ok told)
      (long : ∃ key ∈ Rule.unknownKeys keys entries, key.isOverlong = true) :
      Garbles entries .overlongInteger
  | policy {limit : Int} (known : Rule.unknownKeys keys entries = [])
      (bounded : entries.getD "max_candidates" (.int usual.limit) = .int limit) (positive : 0 < limit)
      (long : (entries.getD "tie_break" (.text usual.tieBreak.name)).isOverlong = true) :
      Garbles entries .overlongInteger

variable {files : Files} {base path : Path} {entries : Entries} {config : Config}
  {failure : Failure} {fault : Fault} {d : Datum}

section

variable {α β : Type}

/-- A step that fails with faults of the configuration only. -/
def Refuses (step : Except Failure α) : Prop :=
  ∀ failure, step = .error failure → ∃ cause, failure = .config cause

theorem refuses_ok (value : α) : Refuses (.ok value) := nofun

theorem refuses_refuse (cause : ConfigFault) : Refuses (refuse cause : Except Failure α) := by
  rintro _ ⟨⟩
  exact ⟨cause, rfl⟩

theorem Refuses.bind {step : Except Failure α} {next : α → Except Failure β}
    (hstep : Refuses step) (hnext : ∀ value, step = .ok value → Refuses (next value)) :
    Refuses (step >>= next) := by
  intro failure h
  rcases bind_eq_error.mp h with h | ⟨value, hvalue, h⟩
  · exact hstep failure h
  · exact hnext value hvalue failure h

end

theorem mapM_text?_eq_some {items : List Datum} {texts : List String} :
    items.mapM text? = some texts ↔ items = texts.map .text := by
  induction items generalizing texts with
  | nil => cases texts <;> simp
  | cons item rest ih =>
      rw [List.mapM_cons]
      cases item with
      | text value =>
          cases texts with
          | nil => cases rest.mapM text? <;> simp [text?]
          | cons first others =>
              cases hrest : rest.mapM text? with
              | none => simp [text?, ← ih, hrest]
              | some found => simp [text?, ← ih, hrest]
      | _ => cases texts <;> simp [text?]

theorem readTexts_list (key : String) (items : List Datum) :
    readTexts key (.list items) =
      match items.mapM text? with
      | some texts => .ok texts
      | none => refuse (.notTexts key) := rfl

theorem readItems_eq_ok {key : String} {items : List Datum} {texts : List String} :
    readTexts key (.list items) = .ok texts ↔ items = texts.map .text := by
  rw [readTexts_list, ← mapM_text?_eq_some]
  cases items.mapM text? <;> simp [refuse]

theorem readTexts_tuple (key : String) (items : List Datum) :
    readTexts key (.tuple items) = readTexts key (.list items) := rfl

theorem readTexts_eq_ok {key : String} {texts : List String} :
    readTexts key d = .ok texts ↔ d.Gives texts := by
  constructor
  · intro h
    cases d with
    | null =>
        cases h
        exact .nothing
    | list items =>
        rw [readItems_eq_ok.mp h]
        exact .list texts
    | tuple items =>
        rw [readTexts_tuple] at h
        rw [readItems_eq_ok.mp h]
        exact .tuple texts
    | _ => cases h
  · rintro (_ | _ | _)
    · rfl
    · exact readItems_eq_ok.mpr rfl
    · rw [readTexts_tuple]
      exact readItems_eq_ok.mpr rfl

theorem refuses_readTexts (key : String) (d : Datum) : Refuses (readTexts key d) := by
  have hitems : ∀ items : List Datum, Refuses (readTexts key (.list items)) := by
    intro items
    rw [readTexts_list]
    split
    · exact refuses_ok _
    · exact refuses_refuse _
  cases d with
  | null => exact refuses_ok _
  | list items => exact hitems items
  | tuple items => exact hitems items
  | _ => exact refuses_refuse _

theorem refuses_readLimit (d : Datum) : Refuses (Engine.readLimit d) := by
  unfold Engine.readLimit
  repeat' split
  all_goals first | exact refuses_ok _ | exact refuses_refuse _

theorem readTieBreak_text (name : String) :
    readTieBreak (.text name) =
      match TieBreak.ofName? name with
      | some policy => .ok policy
      | none => refuse (.tieBreak (Datum.text name).quoted) := by
  cases hname : TieBreak.ofName? name <;> simp [readTieBreak, hname]

theorem readTieBreak_of_not_text (h : d.isText = false) :
    readTieBreak d =
      if d.isOverlong then .error (.fault .overlongInteger) else refuse (.tieBreak d.quoted) := by
  cases d <;> first | rfl | cases h

theorem readTieBreak_eq_ok {policy : TieBreak} :
    readTieBreak d = .ok policy ↔ d = .text policy.name := by
  cases htext : d.isText with
  | false =>
      rw [readTieBreak_of_not_text htext]
      constructor
      · intro h
        split at h <;> cases h
      · rintro rfl
        cases htext
  | true =>
      obtain ⟨name, rfl⟩ := Datum.isText_iff.mp htext
      rw [readTieBreak_text, Datum.text.injEq, ← TieBreak.ofName?_eq_some]
      cases TieBreak.ofName? name <;> simp [refuse]

/-- A policy that is none is refused, unless it cannot be written out. -/
theorem readTieBreak_eq_error (h : readTieBreak d = .error failure) :
    (∃ cause, failure = .config cause) ∨
      failure = .fault .overlongInteger ∧ d.isOverlong = true := by
  cases htext : d.isText with
  | false =>
      rw [readTieBreak_of_not_text htext] at h
      split at h
      · rename_i hlong
        cases h
        exact .inr ⟨rfl, hlong⟩
      · exact .inl (refuses_refuse _ _ h)
  | true =>
      obtain ⟨name, rfl⟩ := Datum.isText_iff.mp htext
      rw [readTieBreak_text] at h
      split at h
      · cases h
      · exact .inl (refuses_refuse _ _ h)

theorem readTieBreak_of_isOverlong (h : d.isOverlong = true) :
    readTieBreak d = .error (.fault .overlongInteger) := by
  have htext : d.isText = false := by
    cases d <;> first | rfl | simp at h
  rw [readTieBreak_of_not_text htext, if_pos h]

theorem readScope_eq_ok {scope : List String} :
    readScope d = .ok scope ↔ ∃ texts, d.Gives texts
      ∧ scope = (texts.filter fun tag => !Text.isBlankString tag).map Text.trimString
      ∧ scope ≠ [] := by
  unfold readScope
  simp only [bind_eq_ok, readTexts_eq_ok]
  refine exists_congr fun texts => and_congr_right fun _ => ?_
  split
  · rename_i hnone
    simp only [refuse, reduceCtorEq, false_iff, not_and, not_not]
    rintro rfl
    simpa using hnone
  · rename_i hsome
    simp only [pure, Except.pure, Except.ok.injEq]
    constructor
    · rintro rfl
      exact ⟨rfl, by simpa using hsome⟩
    · exact fun h => h.1.symm

theorem refuses_readScope (d : Datum) : Refuses (readScope d) := by
  refine (refuses_readTexts _ d).bind fun texts _ => ?_
  dsimp only
  split
  · exact refuses_refuse _
  · exact refuses_ok _

theorem readSource_eq_ok {source : Source} :
    readSource base (entries.getD "rules_dir" .null) (entries.getD "rule_files" .null) =
      .ok source ↔ Names base entries source := by
  constructor
  · intro h
    unfold readSource at h
    split at h
    · rename_i hdirectory hfiles
      cases h
      exact .usual hdirectory hfiles
    · rename_i hdirectory hsome
      obtain ⟨names, hnames, h⟩ := bind_eq_ok.mp h
      cases h
      exact .files hdirectory hsome (readTexts_eq_ok.mp hnames)
    · rename_i name hdirectory hfiles
      cases h
      exact .directory hdirectory hfiles
    · cases h
    · cases h
  · intro h
    cases h with
    | usual no_directory no_files => rw [no_directory, no_files]; rfl
    | directory given no_files => rw [given, no_files]; rfl
    | @files names no_directory some_files given =>
        rw [no_directory]
        generalize entries.getD "rule_files" .null = listed at some_files given
        cases given with
        | nothing => exact absurd rfl some_files
        | list => exact bind_eq_ok.mpr ⟨names, readTexts_eq_ok.mpr (.list names), rfl⟩
        | tuple => exact bind_eq_ok.mpr ⟨names, readTexts_eq_ok.mpr (.tuple names), rfl⟩

theorem refuses_readSource (base : Path) (directory files : Datum) :
    Refuses (readSource base directory files) := by
  unfold readSource
  split
  · exact refuses_ok _
  · exact (refuses_readTexts _ _).bind fun _ _ => refuses_ok _
  · exact refuses_ok _
  · exact refuses_refuse _
  · exact refuses_refuse _

theorem checkKeys_of_ne_nil {shown : String} (h : Rule.unknownKeys keys entries ≠ []) :
    checkKeys shown entries =
      match Datum.sorted? (Rule.unknownKeys keys entries) with
      | .error fault => .error (.fault fault)
      | .ok unknown =>
          if Datum.anyOverlong unknown then .error (.fault .overlongInteger)
          else refuse (.configKeys shown unknown) :=
  if_neg (by simpa using h)

theorem checkKeys_eq_ok {shown : String} :
    checkKeys shown entries = .ok () ↔ Rule.unknownKeys keys entries = [] := by
  by_cases hknown : Rule.unknownKeys keys entries = []
  · simp [checkKeys, hknown]
  · rw [checkKeys_of_ne_nil hknown]
    simp only [hknown, iff_false]
    split
    · exact nofun
    · split <;> exact nofun

/-- Unknown keys are refused, unless they have no order or cannot be written out. -/
theorem checkKeys_eq_error {shown : String} (h : checkKeys shown entries = .error failure) :
    (∃ cause, failure = .config cause) ∨ ∃ fault, failure = .fault fault ∧ Garbles entries fault := by
  have hunknown : Rule.unknownKeys keys entries ≠ [] := by
    intro hknown
    rw [checkKeys_eq_ok.mpr hknown] at h
    cases h
  rw [checkKeys_of_ne_nil hunknown] at h
  split at h
  · rename_i fault hunordered
    cases h
    exact .inr ⟨fault, rfl, .unordered hunordered⟩
  · rename_i told hordered
    split at h
    · rename_i hlong
      cases h
      obtain ⟨key, hkey, hlong⟩ := Datum.anyOverlong_eq_true.mp hlong
      have hkey := (Datum.sorted?_eq_ok hordered).mem_iff.mp hkey
      exact .inr ⟨_, rfl, .key hordered ⟨key, hkey, hlong⟩⟩
    · exact .inl (refuses_refuse _ _ h)

theorem checkKeys_of_unordered {shown : String}
    (h : Datum.sorted? (Rule.unknownKeys keys entries) = .error fault) :
    checkKeys shown entries = .error (.fault fault) := by
  have hunknown : Rule.unknownKeys keys entries ≠ [] := by
    intro hknown
    rw [hknown] at h
    cases h
  rw [checkKeys_of_ne_nil hunknown, h]

theorem checkKeys_of_isOverlong {shown : String} {told : List Datum}
    (h : Datum.sorted? (Rule.unknownKeys keys entries) = .ok told)
    (hlong : ∃ key ∈ Rule.unknownKeys keys entries, key.isOverlong = true) :
    checkKeys shown entries = .error (.fault .overlongInteger) := by
  obtain ⟨key, hkey, hlong⟩ := hlong
  have htold : Datum.anyOverlong told = true :=
    Datum.anyOverlong_eq_true.mpr ⟨key, (Datum.sorted?_eq_ok h).mem_iff.mpr hkey, hlong⟩
  rw [checkKeys_of_ne_nil (List.ne_nil_of_mem hkey), h]
  exact if_pos htold

theorem readEntries_eq_ok :
    readEntries files path entries = .ok config ↔ IsReadFrom path.parent entries config := by
  unfold readEntries
  simp only [bind_eq_ok]
  constructor
  · rintro ⟨_, hkeys, limit, hlimit, policy, hpolicy, scope, hscope, source, hsource, disabled,
      hdisabled, h⟩
    cases h
    exact {
      known := checkKeys_eq_ok.mp hkeys
      limit := Engine.readLimit_eq_ok.mp hlimit
      tieBreak := readTieBreak_eq_ok.mp hpolicy
      scope := readScope_eq_ok.mp hscope
      source := readSource_eq_ok.mp hsource
      disabled := readTexts_eq_ok.mp hdisabled }
  · intro h
    exact ⟨(), checkKeys_eq_ok.mpr h.known, _, Engine.readLimit_eq_ok.mpr h.limit, _,
      readTieBreak_eq_ok.mpr h.tieBreak, _, readScope_eq_ok.mpr h.scope, _,
      readSource_eq_ok.mpr h.source, _, readTexts_eq_ok.mpr h.disabled, rfl⟩

theorem readEntries_eq_error (h : readEntries files path entries = .error failure) :
    (∃ cause, failure = .config cause) ∨ ∃ fault, failure = .fault fault ∧ Garbles entries fault := by
  unfold readEntries at h
  rcases bind_eq_error.mp h with h | ⟨_, hkeys, h⟩
  · exact checkKeys_eq_error h
  rcases bind_eq_error.mp h with h | ⟨limit, hlimit, h⟩
  · exact .inl (refuses_readLimit _ _ h)
  rcases bind_eq_error.mp h with h | ⟨policy, -, h⟩
  · refine (readTieBreak_eq_error h).imp_right ?_
    rintro ⟨rfl, hlong⟩
    obtain ⟨hbounded, hpositive⟩ := Engine.readLimit_eq_ok.mp hlimit
    exact ⟨_, rfl, .policy (checkKeys_eq_ok.mp hkeys) hbounded (by omega) hlong⟩
  · have hrest : Refuses (do
        let scope ← readScope (entries.getD "default_scope" (Datum.ofStrings usual.scope))
        let source ← readSource path.parent (entries.getD "rules_dir" .null)
          (entries.getD "rule_files" .null)
        let disabled ← readTexts "disabled_rules" (entries.getD "disabled_rules" (.list []))
        pure (⟨limit, policy, scope, source, disabled⟩ : Config)) :=
      (refuses_readScope _).bind fun _ _ => (refuses_readSource _ _ _).bind fun _ _ =>
        (refuses_readTexts _ _).bind fun _ _ => refuses_ok _
    exact .inl (hrest failure h)

theorem readEntries_of_garbles (h : Garbles entries fault) :
    readEntries files path entries = .error (.fault fault) := by
  unfold readEntries
  cases h with
  | unordered unordered =>
      rw [checkKeys_of_unordered unordered]
      rfl
  | key ordered long =>
      rw [checkKeys_of_isOverlong ordered long]
      rfl
  | @policy limit known bounded positive long =>
      have hlimit : Engine.readLimit (entries.getD "max_candidates" (.int usual.limit)) =
          .ok limit.toNat :=
        Engine.readLimit_eq_ok.mpr ⟨by rw [bounded, Int.toNat_of_nonneg (by omega)], by omega⟩
      rw [checkKeys_eq_ok.mpr known, ok_bind, hlimit, ok_bind, readTieBreak_of_isOverlong long]
      rfl

end Config

end SutraArbiter
