import SutraArbiter.Proofs.Pack.Filtering

namespace SutraArbiter

/-! What a load warns of.  It tells every disabled id as unknown, also one that a file
has and that keeps this file out of the load. -/

/-- The file holds a mapping with this rule id. -/
def RuleFile.HasId (file : RuleFile) (id : String) : Prop :=
  ∃ entries, file.document = .data (.map entries)
    ∧ Entries.getD entries "rule_id" .null = .text id

namespace Logged

variable {α β : Type} {first : Logged α} {next : α → Logged β} {event : Event}

/-- The texts of the warnings among what was recorded. -/
def warnings (logged : Logged α) : List String :=
  (logged.events.filter fun event => event.severity = .warning).map Event.message

theorem warnings_eq_nil {logged : Logged α} :
    logged.warnings = [] ↔ ∀ event ∈ logged.events, event.severity ≠ .warning := by
  simp [warnings, List.filter_eq_nil_iff]

theorem warnings_bind_of_ok {value : α} (h : first.result = .ok value) :
    (first >>= next).warnings = first.warnings ++ (next value).warnings := by
  simp [warnings, events_bind_of_ok h]

theorem warnings_bind_of_error {failure : Failure} (h : first.result = .error failure) :
    (first >>= next).warnings = first.warnings := by
  simp [warnings, events_bind_of_error h]

/-- What is recorded in the second of two steps is recorded only if the first succeeds. -/
theorem mem_events_bind :
    event ∈ (first >>= next).events ↔
      event ∈ first.events ∨ ∃ value, first.result = .ok value ∧ event ∈ (next value).events := by
  cases h : first.result with
  | ok value => simp [events_bind_of_ok h]
  | error failure => simp [events_bind_of_error h]

@[simp] theorem events_ofExcept (result : Except Failure α) : (ofExcept result).events = [] := rfl

@[simp] theorem events_ofFault (result : Except Fault α) : (ofFault result).events = [] := rfl

end Logged

namespace Choice

variable {choice : Choice} {d : Datum} {id : String}

/-- The id keeps a file that has it out of the load, and is told to do so. -/
def disables (choice : Choice) (id : String) : Bool :=
  (choice.only.all fun ids => ids.contains id) && choice.disabled.contains id

theorem verdict?_text_eq (choice : Choice) (id : String) :
    choice.verdict? (.text id) =
      .ok (if choice.disables id then .disabled id
        else if choice.wants id then .wanted else .skipped) := by
  obtain ⟨only, disabled⟩ := choice
  have hfit : (Datum.text id).fitKey = .ok () := rfl
  unfold verdict? disables wants
  rw [hfit, ok_bind]
  by_cases hdisabled : id ∈ disabled
  all_goals
    cases only with
    | none => simp [hdisabled, pure, Except.pure]
    | some ids => by_cases hnamed : id ∈ ids <;> simp [names, hnamed, hdisabled, pure, Except.pure]

theorem verdict?_eq_disabled :
    choice.verdict? d = .ok (.disabled id) ↔ d = .text id ∧ choice.disables id = true := by
  cases d with
  | text name =>
      rw [verdict?_text_eq, Except.ok.injEq]
      by_cases hdisables : choice.disables name = true
      · rw [if_pos hdisables]
        grind
      · rw [if_neg hdisables]
        grind
  | _ =>
      obtain ⟨only, disabled⟩ := choice
      cases only <;> simp [verdict?, bind_eq_ok, names, pure, Except.pure]

end Choice

namespace Pack

variable {choice : Choice} {files : Files} {source : Source} {file : RuleFile}
  {given : List RuleFile} {loaded all rules : List Rule} {registry : Registry} {event : Event}
  {id : String}

theorem mem_events_compile {entries : Entries}
    (h : event ∈ (compile loaded file entries).events) :
    event.severity = .debug := by
  unfold compile at h
  rcases Logged.mem_events_bind.mp h with h | ⟨rule, -, h⟩
  · simp at h
  rcases Logged.mem_events_bind.mp h with h | ⟨_, -, h⟩
  · unfold noteCompiled at h
    split at h
    · obtain rfl := List.mem_singleton.mp h
      rfl
    · simp at h
  split at h
  · simp [Logged.fail] at h
  · rcases Logged.mem_events_bind.mp h with h | ⟨_, -, h⟩
    · obtain rfl := List.mem_singleton.mp h
      rfl
    · simp at h

theorem mem_events_compileAll (h : event ∈ (compileAll choice loaded given).events) :
    event.severity = .debug ∨ ∃ id, event = .disabled id := by
  induction given generalizing loaded with
  | nil => simp [compileAll] at h
  | cons file rest ih =>
      unfold compileAll at h
      rcases Logged.mem_events_bind.mp h with h | ⟨entries, -, h⟩
      · simp at h
      rcases Logged.mem_events_bind.mp h with h | ⟨verdict, -, h⟩
      · simp at h
      cases verdict with
      | skipped => exact ih h
      | disabled id =>
          rcases Logged.mem_events_bind.mp h with h | ⟨_, -, h⟩
          · exact .inr ⟨id, List.mem_singleton.mp h⟩
          · exact ih h
      | wanted =>
          rcases Logged.mem_events_bind.mp h with h | ⟨rule, -, h⟩
          · exact .inl (mem_events_compile h)
          · exact ih h

theorem warnings_compileAll (choice : Choice) (loaded : List Rule) (given : List RuleFile) :
    (compileAll choice loaded given).warnings = [] := by
  rw [Logged.warnings_eq_nil]
  intro event hevent
  rcases mem_events_compileAll hevent with hdebug | ⟨id, rfl⟩
  · simp [hdebug]
  · simp [Event.severity]

theorem hasId_iff {entries : Entries} (h : readFile file = .ok entries) :
    file.HasId id ↔ entries.getD "rule_id" .null = .text id := by
  have hdocument := readFile_eq_ok.mp h
  constructor
  · rintro ⟨others, hothers, hid⟩
    rw [hdocument, Document.data.injEq, Datum.map.injEq] at hothers
    rwa [hothers]
  · intro hid
    exact ⟨entries, hdocument, hid⟩

/-- The ids that are told to keep files out are those that do. -/
theorem disabled_mem_events_compileAll (h : (compileAll choice loaded given).result = .ok all) :
    .disabled id ∈ (compileAll choice loaded given).events ↔
      choice.disables id = true ∧ ∃ file ∈ given, file.HasId id := by
  induction given generalizing loaded with
  | nil => simp [compileAll]
  | cons file rest ih =>
      unfold compileAll at h ⊢
      rw [Logged.result_bind] at h
      obtain ⟨entries, hentries, h⟩ := bind_eq_ok.mp h
      rw [Logged.result_bind] at h
      obtain ⟨verdict, hverdict, h⟩ := bind_eq_ok.mp h
      rw [Logged.events_bind_of_ok hentries, Logged.events_ofExcept, List.nil_append,
        Logged.events_bind_of_ok hverdict, Logged.events_ofFault, List.nil_append]
      have hread : readFile file = .ok entries := mapError_eq_ok.mp hentries
      have hfound : verdict = .disabled id ↔ file.HasId id ∧ choice.disables id = true := by
        rw [hasId_iff hread, ← Choice.verdict?_eq_disabled]
        have hgiven := mapError_eq_ok.mp hverdict
        rw [hgiven, Except.ok.injEq]
      simp only [List.exists_mem_cons_iff]
      cases verdict with
      | skipped =>
          rw [ih h]
          grind
      | disabled name =>
          rw [Logged.result_bind] at h
          rw [Logged.events_bind_of_ok rfl, Logged.events_note, List.mem_append, ih h]
          grind
      | wanted =>
          rw [Logged.result_bind] at h
          obtain ⟨rule, hrule, h⟩ := bind_eq_ok.mp h
          have hquiet : .disabled id ∉ (compile loaded file entries).events := fun hmem => by
            cases mem_events_compile hmem
          rw [Logged.events_bind_of_ok hrule, List.mem_append, ih h]
          grind

theorem mem_events_registerAll (h : event ∈ (registerAll registry rules).events) :
    event.severity = .debug := by
  induction rules generalizing registry with
  | nil => simp [registerAll] at h
  | cons rule rest ih =>
      unfold registerAll at h
      rcases Logged.mem_events_bind.mp h with h | ⟨⟨next, entry⟩, -, h⟩
      · simp at h
      rcases Logged.mem_events_bind.mp h with h | ⟨_, -, h⟩
      · obtain rfl := List.mem_singleton.mp h
        rfl
      · exact ih h

theorem warnings_registerAll (registry : Registry) (rules : List Rule) :
    (registerAll registry rules).warnings = [] := by
  rw [Logged.warnings_eq_nil]
  intro event hevent
  simp [mem_events_registerAll hevent]

theorem not_disabled_of_grants {granted : List (Option Rule)}
    (h : Grants choice [] given granted) :
    ∀ rule ∈ granted.reduceOption, rule.id ∉ choice.disabled := by
  intro rule hrule hdisabled
  have hfound : some rule ∈ granted := List.reduceOption_mem_iff.mp hrule
  obtain ⟨file, -, hfile⟩ := mem_mapM h.files hfound
  rw [grant?_of_bears (grant?_eq_some hfile)] at hfile
  have hwants : choice.wants rule.id = true := by
    by_contra hnot
    rw [if_neg hnot] at hfile
    cases hfile
  simp [Choice.wants, hdisabled] at hwants

/-- What is loaded is not disabled, so that no disabled id is known. -/
theorem unknownDisabled_of_grants {granted : List (Option Rule)}
    (h : Grants choice [] given granted) :
    unknownDisabled choice granted.reduceOption = Tags.sorted choice.disabled := by
  rw [unknownDisabled, List.filter_eq_self.mpr]
  intro id hid
  simp only [Bool.not_eq_true', List.any_eq_false, decide_eq_true_eq]
  rintro rule hrule rfl
  exact not_disabled_of_grants h rule hrule hid

theorem events_load (h : (load files source choice).result = .ok registry) :
    ∃ given rules, source.collect files = .ok given
      ∧ (compileAll choice [] given).result = .ok rules
      ∧ (load files source choice).events =
        (compileAll choice [] given).events
          ++ ((Tags.sorted choice.disabled).map Event.unknownDisabled
          ++ (registerAll .empty (inOrder rules)).events) := by
  obtain ⟨given, granted, hgiven, hgranted, -⟩ := load_eq_ok_iff.mp h
  have hcompiled : (compileAll choice [] given).result = .ok granted.reduceOption :=
    compileAll_eq_ok_iff.mpr ⟨granted, hgranted, rfl⟩
  refine ⟨given, granted.reduceOption, hgiven, hcompiled, ?_⟩
  unfold load
  rw [Logged.events_bind_of_ok hgiven, Logged.events_ofExcept, List.nil_append,
    Logged.events_bind_of_ok hcompiled, Logged.events_bind_of_ok rfl,
    unknownDisabled_of_grants hgranted]
  rfl

theorem warnings_load (h : (load files source choice).result = .ok registry) :
    (load files source choice).warnings =
      (Tags.sorted choice.disabled).map fun id =>
        s!"Unknown rule id in disabled_rules ignored: {id}" := by
  obtain ⟨given, rules, -, -, hevents⟩ := events_load h
  have hcompiled := warnings_compileAll choice [] given
  have hregistered := warnings_registerAll .empty (inOrder rules)
  have htold : ((Tags.sorted choice.disabled).map Event.unknownDisabled).filter
      (fun event => event.severity = .warning) =
        (Tags.sorted choice.disabled).map Event.unknownDisabled := by
    simp [List.filter_eq_self, Event.severity]
  unfold Logged.warnings at hcompiled hregistered ⊢
  rw [hevents, List.filter_append, List.filter_append, List.map_append, List.map_append,
    hcompiled, hregistered, htold, List.nil_append, List.append_nil, List.map_map]
  rfl

theorem disabled_mem_events_load (h : (load files source choice).result = .ok registry)
    (hgiven : source.collect files = .ok given) :
    .disabled id ∈ (load files source choice).events ↔
      choice.disables id = true ∧ ∃ file ∈ given, file.HasId id := by
  obtain ⟨others, rules, hothers, hcompiled, hevents⟩ := events_load h
  obtain rfl : given = others := Except.ok.inj (hgiven.symm.trans hothers)
  have hregistered : .disabled id ∉ (registerAll .empty (inOrder rules)).events := fun hmem => by
    cases mem_events_registerAll hmem
  rw [hevents, List.mem_append, List.mem_append, disabled_mem_events_compileAll hcompiled]
  simp [hregistered]

theorem warnings_of_failed_load {failure : Failure}
    (h : (load files source choice).result = .error failure) :
    (load files source choice).warnings = [] := by
  unfold load
  rcases load_eq_error_iff.mp h with h | ⟨given, hgiven, h⟩
  · rw [Logged.warnings_bind_of_error h]
    rfl
  · rw [Logged.warnings_bind_of_ok hgiven, Logged.warnings_bind_of_error h, warnings_compileAll]
    rfl

/-- A load that succeeds tells each disabled id as unknown, once and in order, also those
that it told to keep a file out.  So the ids that it tells are those that no file has just
when no file has a disabled id.  A load that fails warns of nothing. -/
theorem load_warns (files : Files) (source : Source) (choice : Choice) :
    (∀ registry, (load files source choice).result = .ok registry →
        ∃ given, ∃ warned : List String, source.collect files = .ok given
          ∧ (load files source choice).warnings =
            warned.map (fun id => s!"Unknown rule id in disabled_rules ignored: {id}")
          ∧ warned.Pairwise (fun s t => s < t)
          ∧ (∀ id, id ∈ warned ↔ id ∈ choice.disabled)
          ∧ (∀ id, .disabled id ∈ (load files source choice).events ↔
              choice.disables id = true ∧ ∃ file ∈ given, file.HasId id)
          ∧ ((∀ id, id ∈ warned ↔ id ∈ choice.disabled ∧ ∀ file ∈ given, ¬ file.HasId id) ↔
              ∀ id ∈ choice.disabled, ∀ file ∈ given, ¬ file.HasId id))
      ∧ ∀ failure, (load files source choice).result = .error failure →
          (load files source choice).warnings = [] := by
  refine ⟨fun registry h => ?_, fun failure => warnings_of_failed_load⟩
  obtain ⟨given, -, hgiven, -, -⟩ := events_load h
  refine ⟨given, Tags.sorted choice.disabled, hgiven, warnings_load h, Tags.pairwise_sorted _,
    fun id => Tags.mem_sorted, fun id => disabled_mem_events_load h hgiven, ?_⟩
  simp only [Tags.mem_sorted]
  constructor
  · intro hunknown id hid
    exact ((hunknown id).mp hid).2
  · intro hunknown id
    exact (and_iff_left_of_imp (hunknown id)).symm

/-- Of two disabled ids the one that keeps a file out is told as unknown like the other. -/
theorem load_warns_pair : ∃ registry,
    (load (pairFiles "1.2.9" "1.2.10") ⟨none, some pairPaths⟩ ⟨none, ["9.9.9", "1.2.9"]⟩).result =
        .ok registry
      ∧ ∃ warned : List String, "1.2.9" ∈ warned ∧ "9.9.9" ∈ warned ∧ "1.2.10" ∉ warned
        ∧ (load (pairFiles "1.2.9" "1.2.10") ⟨none, some pairPaths⟩
            ⟨none, ["9.9.9", "1.2.9"]⟩).warnings =
          warned.map fun id => s!"Unknown rule id in disabled_rules ignored: {id}" := by
  obtain ⟨whole, hwhole, -⟩ :=
    load_pair (show Numeral.isDotted "1.2.9".toList = true by decide)
      (show Numeral.isDotted "1.2.10".toList = true by decide) (by decide)
      (show Numeral.place "1.2.9" ≤ Numeral.place "1.2.10" by decide)
  obtain ⟨registry, hload, -⟩ := exists_load_filtered hwhole ⟨none, ["9.9.9", "1.2.9"]⟩
  obtain ⟨-, warned, -, hwarnings, -, hwarned, -⟩ :=
    (load_warns (pairFiles "1.2.9" "1.2.10") ⟨none, some pairPaths⟩
      ⟨none, ["9.9.9", "1.2.9"]⟩).1 registry hload
  refine ⟨registry, hload, warned, ?_, ?_, ?_, hwarnings⟩
  all_goals simp [hwarned]

/-- A disabled id that a file has, and that keeps it out, is told as unknown. -/
theorem load_warns_of_known : ∃ registry given,
    (load (pairFiles "1.2.9" "1.2.10") ⟨none, some pairPaths⟩ ⟨none, ["1.2.9"]⟩).result =
        .ok registry
      ∧ Source.collect (pairFiles "1.2.9" "1.2.10") ⟨none, some pairPaths⟩ = .ok given
      ∧ (∃ file ∈ given, file.HasId "1.2.9")
      ∧ (load (pairFiles "1.2.9" "1.2.10") ⟨none, some pairPaths⟩ ⟨none, ["1.2.9"]⟩).warnings =
        ["Unknown rule id in disabled_rules ignored: 1.2.9"] := by
  obtain ⟨whole, hwhole, -⟩ :=
    load_pair (show Numeral.isDotted "1.2.9".toList = true by decide)
      (show Numeral.isDotted "1.2.10".toList = true by decide) (by decide)
      (show Numeral.place "1.2.9" ≤ Numeral.place "1.2.10" by decide)
  obtain ⟨registry, hload, -⟩ := exists_load_filtered hwhole ⟨none, ["1.2.9"]⟩
  refine ⟨registry, _, hload, rfl, ⟨_, List.mem_cons_self, _, rfl, rfl⟩, ?_⟩
  have hsorted : Tags.sorted ["1.2.9"] = ["1.2.9"] := Tags.sorted_eq (by decide)
  rw [warnings_load hload, hsorted]
  rfl

end Pack

end SutraArbiter
