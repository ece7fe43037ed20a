import SutraArbiter.Proofs.Misbehaviour

namespace SutraArbiter

/-- The fault that breaks off an answer in which a rule governs, after its action gave this. -/
inductive Standing.Breaks (governing : Standing) : Except Raised Value → Fault → Prop
  | untold {cause : Fault} : Breaks governing (.error (.untold cause)) cause
  | payload {fault : Fault} : Breaks governing (.ok (.brittle fault)) fault
  | reason {payload : Entries} {fault : Fault} (free : shadowed payload = [])
      (brittle : governing.reply.reason = .brittle fault) :
      Breaks governing (.ok (.datum (.map payload))) fault

/-- An answer is concluded unless something breaks it off. -/
theorem Standing.Concludes.breaks_iff {governing : Standing} {trace : List Trace}
    {diagnostics : List Diagnostic} {script : Option Script} {given : Except Raised Value}
    {result : Except Failure Envelope}
    (h : governing.Concludes trace diagnostics script given result) (fault : Fault) :
    result = .error (.fault fault) ↔ governing.Breaks given fault := by
  constructor
  · intro hresult
    cases h with
    | applied => cases hresult
    | refused => cases hresult
    | failed => cases hresult
    | unreasoned free brittle =>
        cases hresult
        exact .reason free brittle
    | untold =>
        cases hresult
        exact .untold
    | brittle =>
        cases hresult
        exact .payload
  · intro hbreaks
    cases hbreaks with
    | untold =>
        cases h
        rfl
    | payload =>
        cases h
        rfl
    | reason free brittle =>
        cases h with
        | applied _ told => cases told.symm.trans brittle
        | unreasoned _ fails =>
            cases fails.symm.trans brittle
            rfl
        | refused refused => simp [checkPayload, free] at refused

namespace Engine

variable {engine : Engine} {group : WordGroup} {context : Context} {tags : List String}
  {evaluation : Evaluation} {envelope : Envelope}

theorem Evaluates.few (hsound : engine.registry.Sound)
    (h : engine.Evaluates group context tags evaluation) :
    (engine.registry.sharing tags).length ≤ engine.limit := by
  have hfew := (Evaluation.ofCandidates_eq_ok.mp h).1
  rwa [List.length_map, (hsound.candidates_perm tags).length_eq] at hfew

theorem Evaluates.readable (hsound : engine.registry.Sound)
    (h : engine.Evaluates group context tags evaluation) :
    ∀ entry ∈ engine.registry.sharing tags, entry.toRule.IsReadable group.words context := by
  intro entry hentry
  obtain ⟨-, hreadable, -⟩ := Evaluation.ofCandidates_eq_ok.mp h
  exact hreadable _ (List.mem_map_of_mem (hsound.mem_candidates.mpr hentry))

/-- No rule of the scope breaks off when it is asked. -/
def Unbroken (engine : Engine) (group : WordGroup) (context : Context) (tags : List String) :
    Prop :=
  ∀ entry ∈ engine.registry.sharing tags, ∀ fault,
    ¬ entry.toRule.Breaks group.words context fault

theorem exists_evaluates (hsound : engine.registry.Sound)
    (hfew : (engine.registry.sharing tags).length ≤ engine.limit)
    (hunbroken : engine.Unbroken group context tags) :
    ∃ evaluation, engine.Evaluates group context tags evaluation :=
  ⟨_, evaluates_gathered hsound hfew fun entry hentry =>
    Rule.isReadable_iff.mpr (hunbroken entry hentry)⟩

theorem Evaluates.unbroken (hsound : engine.registry.Sound)
    (h : engine.Evaluates group context tags evaluation) :
    engine.Unbroken group context tags :=
  fun entry hentry => Rule.isReadable_iff.mp (h.readable hsound entry hentry)

/-- The faults that end the arbitration of few enough rules: the first rule that cannot be
asked to the end; when no rule matches, a first near miss whose reason has no text; and when
one governs, an action whose failure cannot be told, or a payload or a reason that fails while
it is looked into. -/
inductive Escapes (engine : Engine) (group : WordGroup) (context : Context)
    (tags : List String) : Fault → Prop
  | predicate {earlier later : List Entry} {entry : Entry} {fault : Fault}
      (few : (engine.registry.sharing tags).length ≤ engine.limit)
      (asked : engine.registry.candidates tags = earlier ++ entry :: later)
      (unbroken : ∀ other ∈ earlier, ∀ fault, ¬ other.toRule.Breaks group.words context fault)
      (breaks : entry.toRule.Breaks group.words context fault) :
      Escapes engine group context tags fault
  | nearMiss {entry : Entry} {miss : Match} {fault : Fault}
      (few : (engine.registry.sharing tags).length ≤ engine.limit)
      (unbroken : engine.Unbroken group context tags)
      (unmatched : ∀ other ∈ engine.registry.sharing tags,
        other.toRule.reportsMatch group.words context = false)
      (first : engine.registry.FirstMiss tags group.words context entry miss)
      (lacks : miss.reason.LacksText fault) :
      Escapes engine group context tags fault
  | action {governing : Standing} {given : Except Raised Value} {fault : Fault}
      (few : (engine.registry.sharing tags).length ≤ engine.limit)
      (unbroken : engine.Unbroken group context tags)
      (lone : (Ruling.mandatory
        (engine.registry.matching tags group.words context)).length < 2)
      (governs : Standing.Governs engine.tieBreak
        (engine.registry.matching tags group.words context) governing)
      (gives : governing.entry.action.Gives group.words context governing.reply given)
      (breaks : governing.Breaks given fault) :
      Escapes engine group context tags fault

/-- How an arbitration ends: there are too many rules, one of them cannot be asked to the end,
no rule matches, mandatory rules are rivals, or one rule governs. -/
inductive Ends (engine : Engine) (group : WordGroup) (context : Context)
    (tags : List String) : Except Failure Envelope → Prop
  | crowded (many : engine.limit < (engine.registry.sharing tags).length) :
      Ends engine group context tags
        (.error (.exhausted (engine.registry.sharing tags).length engine.limit))
  | broken {earlier later : List Entry} {entry : Entry} {fault : Fault}
      (few : (engine.registry.sharing tags).length ≤ engine.limit)
      (asked : engine.registry.candidates tags = earlier ++ entry :: later)
      (readable : ∀ other ∈ earlier, other.toRule.IsReadable group.words context)
      (breaks : entry.toRule.Breaks group.words context fault) :
      Ends engine group context tags (.error (.fault fault))
  | unmatched {evaluation : Evaluation}
      (evaluates : engine.Evaluates group context tags evaluation)
      (empty : engine.registry.matching tags group.words context = []) :
      Ends engine group context tags
        ((Envelope.ofEvaluation? evaluation group.script).mapError .fault)
  | rivals {evaluation : Evaluation} {ids : List String}
      (evaluates : engine.Evaluates group context tags evaluation) :
      Ends engine group context tags (.error (.ambiguous ids))
  | governed {evaluation : Evaluation} {governing : Standing} {trace : List Trace}
      {diagnostics : List Diagnostic}
      (evaluates : engine.Evaluates group context tags evaluation)
      (lone : (Ruling.mandatory
        (engine.registry.matching tags group.words context)).length < 2)
      (governs : Standing.Governs engine.tieBreak
        (engine.registry.matching tags group.words context) governing) :
      Ends engine group context tags
        ((applied? group context governing trace diagnostics).mapError .fault)

/-- The evaluation of few enough rules fails at the first that cannot be asked to the end. -/
theorem evaluation_eq_error (hsound : engine.registry.Sound)
    (hfew : (engine.registry.sharing tags).length ≤ engine.limit) {failure : Failure} :
    (Evaluation.ofCandidates engine.limit
        ((engine.registry.candidates tags).map Entry.toRule) group.words context).result =
      .error failure ↔
      ∃ earlier entry later fault, engine.registry.candidates tags = earlier ++ entry :: later
        ∧ (∀ other ∈ earlier, other.toRule.IsReadable group.words context)
        ∧ entry.toRule.Breaks group.words context fault ∧ failure = .fault fault := by
  unfold Evaluation.ofCandidates
  rw [List.length_map, (hsound.candidates_perm tags).length_eq, if_neg (Nat.not_lt.mpr hfew),
    Evaluation.ofRules_eq_error]
  constructor
  · rintro ⟨first, rule, rest, fault, hasked, hfirst, hbreaks, rfl⟩
    obtain ⟨earlier, others, hcandidates, rfl, hothers⟩ := List.map_eq_append_iff.mp hasked
    obtain ⟨entry, later, rfl, rfl, rfl⟩ := List.map_eq_cons_iff.mp hothers
    refine ⟨earlier, entry, later, fault, hcandidates, fun other hother => ?_, hbreaks, rfl⟩
    exact hfirst _ (List.mem_map_of_mem hother)
  · rintro ⟨earlier, entry, later, fault, hasked, hearlier, hbreaks, rfl⟩
    refine ⟨earlier.map Entry.toRule, entry.toRule, later.map Entry.toRule, fault, ?_, ?_,
      hbreaks, rfl⟩
    · rw [hasked, List.map_append, List.map_cons]
    · intro rule hrule
      obtain ⟨other, hother, rfl⟩ := List.mem_map.mp hrule
      exact hearlier other hother

theorem ends_arbitrate (hsound : engine.registry.Sound) (group : WordGroup)
    (context : Context) (tags : List String) :
    engine.Ends group context tags (engine.arbitrate group context tags).result := by
  rcases Nat.lt_or_ge engine.limit (engine.registry.sharing tags).length with hmany | hfew
  · rw [arbitrate_result_of_lt hmany hsound]
    exact .crowded hmany
  cases hevaluation : (Evaluation.ofCandidates engine.limit
      ((engine.registry.candidates tags).map Entry.toRule) group.words context).result with
  | error failure =>
      obtain ⟨earlier, entry, later, fault, hasked, hearlier, hbreaks, rfl⟩ :=
        (evaluation_eq_error hsound hfew).mp hevaluation
      rw [arbitrate_result_of_error hevaluation]
      exact .broken hfew hasked hearlier hbreaks
  | ok evaluation =>
      have hevaluates : engine.Evaluates group context tags evaluation := hevaluation
      by_cases hempty : engine.registry.matching tags group.words context = []
      · rw [arbitrate_result_of_nil hsound hevaluates hempty]
        exact .unmatched hevaluates hempty
      rcases Nat.lt_or_ge (Ruling.mandatory
        (engine.registry.matching tags group.words context)).length 2 with hlone | hrivals
      · obtain ⟨governing, hgoverns, hresult⟩ :=
          arbitrate_result_of_ne_nil hsound hevaluates hempty hlone
        rw [hresult]
        exact .governed hevaluates hlone hgoverns
      · obtain ⟨ids, hresult⟩ := arbitrate_result_of_mandatory hsound hevaluates hrivals
        rw [hresult]
        exact .rivals hevaluates

theorem Escapes.arbitrate (hsound : engine.registry.Sound) {fault : Fault}
    (h : engine.Escapes group context tags fault) :
    (engine.arbitrate group context tags).result = .error (.fault fault) := by
  cases h with
  | predicate few asked unbroken breaks =>
      apply arbitrate_result_of_error
      refine (evaluation_eq_error hsound few).mpr ⟨_, _, _, _, asked, ?_, breaks, rfl⟩
      intro other hother
      exact Rule.isReadable_iff.mpr (unbroken other hother)
  | nearMiss few unbroken unmatched first lacks =>
      obtain ⟨evaluation, hevaluation⟩ := exists_evaluates hsound few unbroken
      have hempty := (Registry.matching_eq_nil_iff (hevaluation.readable hsound)).mpr unmatched
      have hmiss := (hevaluation.firstNearMiss?_eq_some hsound).mpr ⟨_, first⟩
      rw [arbitrate_result_of_nil hsound hevaluation hempty,
        Envelope.ofEvaluation?_eq_error.mpr ⟨_, hmiss, lacks⟩]
      rfl
  | action few unbroken lone governs gives breaks =>
      obtain ⟨evaluation, hevaluation⟩ := exists_evaluates hsound few unbroken
      obtain ⟨governing, hgoverns, hresult⟩ := arbitrate_result_of_ne_nil hsound hevaluation
        (List.ne_nil_of_mem governs.member) lone
      obtain rfl := hgoverns.unique governs
      rw [hresult, (concludes_applied? _ _ _).breaks_iff, ← gives.eq_perform]
      exact breaks

/-- A rule that breaks off as the only one of the scope is come to. -/
theorem escapes_of_lone (hsound : engine.registry.Sound)
    (hfew : (engine.registry.sharing tags).length ≤ engine.limit) {entry : Entry}
    (hshared : entry ∈ engine.registry.sharing tags) {fault : Fault}
    (hbreaks : entry.toRule.Breaks group.words context fault)
    (hothers : ∀ other ∈ engine.registry.sharing tags, other ≠ entry → ∀ fault,
      ¬ other.toRule.Breaks group.words context fault) :
    engine.Escapes group context tags fault := by
  obtain ⟨earlier, later, hasked⟩ := List.append_of_mem (hsound.mem_candidates.mpr hshared)
  refine .predicate hfew hasked (fun other hother => ?_) hbreaks
  have hdistinct := engine.registry.pairwise_id_candidates tags
  rw [hasked] at hdistinct
  refine hothers other (hsound.mem_candidates.mp ?_) ?_
  · rw [hasked]
    exact List.mem_append_left _ hother
  · rintro rfl
    exact (List.pairwise_append.mp hdistinct).2.2 other hother other List.mem_cons_self rfl

theorem arbitrate_eq_fault (hsound : engine.registry.Sound) {fault : Fault} :
    (engine.arbitrate group context tags).result = .error (.fault fault) ↔
      engine.Escapes group context tags fault := by
  refine ⟨fun h => ?_, fun h => h.arbitrate hsound⟩
  have hends := ends_arbitrate hsound group context tags
  rw [h] at hends
  generalize hresult : Except.error (Failure.fault fault) = result at hends
  cases hends with
  | crowded many => cases hresult
  | broken few asked readable breaks =>
      cases hresult
      refine .predicate few asked (fun other hother => ?_) breaks
      exact Rule.isReadable_iff.mp (readable other hother)
  | unmatched evaluates empty =>
      obtain ⟨cause, hcause, hfault⟩ := mapError_eq_error.mp hresult.symm
      cases hfault
      obtain ⟨miss, hmiss, hlacks⟩ := Envelope.ofEvaluation?_eq_error.mp hcause
      obtain ⟨entry, hfirst⟩ := (evaluates.firstNearMiss?_eq_some hsound).mp hmiss
      exact .nearMiss (evaluates.few hsound) (evaluates.unbroken hsound)
        ((Registry.matching_eq_nil_iff (evaluates.readable hsound)).mp empty) hfirst hlacks
  | rivals => cases hresult
  | governed evaluates lone governs =>
      have hbreaks := ((concludes_applied? _ _ _).breaks_iff fault).mp hresult.symm
      exact .action (evaluates.few hsound) (evaluates.unbroken hsound) lone governs
        (Action.gives_perform _ _ _ _) hbreaks

/-- No arbitration ends but in too many rules, rival mandatory ones or a fault. -/
theorem arbitrate_eq_error (hsound : engine.registry.Sound) {failure : Failure}
    (h : (engine.arbitrate group context tags).result = .error failure) :
    (∃ ids, failure = .ambiguous ids) ∨ (∃ count limit, failure = .exhausted count limit)
      ∨ ∃ fault, failure = .fault fault := by
  have hends := ends_arbitrate hsound group context tags
  rw [h] at hends
  generalize hresult : Except.error failure = result at hends
  cases hends with
  | crowded many => exact .inr (.inl ⟨_, _, Except.error.inj hresult⟩)
  | broken few asked readable breaks => exact .inr (.inr ⟨_, Except.error.inj hresult⟩)
  | unmatched evaluates empty =>
      obtain ⟨fault, -, rfl⟩ := mapError_eq_error.mp hresult.symm
      exact .inr (.inr ⟨fault, rfl⟩)
  | rivals evaluates => exact .inl ⟨_, Except.error.inj hresult⟩
  | governed evaluates lone governs =>
      obtain ⟨fault, -, rfl⟩ := mapError_eq_error.mp hresult.symm
      exact .inr (.inr ⟨fault, rfl⟩)

end Engine

theorem Execution.told_of_failed {rule : Rule} {words : List Word} {context : Context}
    {reply : Match} {diagnostic : Diagnostic}
    (h : outcome? rule words context reply = .ok (.failed diagnostic)) :
    diagnostic.code = .actionFailure ∧ diagnostic.ruleId = rule.id := by
  unfold outcome? at h
  cases hgiven : rule.action.perform words context reply with
  | error raised =>
      cases raised <;> rw [hgiven] at h <;> cases h
      exact ⟨rfl, rfl⟩
  | ok given =>
      cases given with
      | brittle fault =>
          rw [hgiven] at h
          cases h
      | datum d =>
          rw [hgiven] at h
          have hfailed : ofGiven rule.id d = .failed diagnostic := Except.ok.inj h
          unfold ofGiven at hfailed
          split at hfailed <;> cases hfailed
          exact ⟨rfl, rfl⟩

namespace Engine

variable {engine : Engine} {group : WordGroup} {context : Context} {tags : List String}
  {evaluation : Evaluation} {envelope : Envelope}

theorem trace_of_answer {ranking : List Standing}
    (h : answer group context evaluation ⟨ranking.head?, Ruling.traceOf ranking⟩ = .ok envelope) :
    envelope.trace = Ruling.traceOf ranking := by
  cases ranking with
  | nil =>
      obtain ⟨reason, explanation, rfl, -⟩ :=
        Envelope.eq_of_ofEvaluation? (mapError_eq_ok.mp h)
      rfl
  | cons governing others =>
      have happlied : applied? group context governing (Ruling.traceOf (governing :: others))
          evaluation.diagnostics = .ok envelope := mapError_eq_ok.mp h
      rcases applied?_eq_ok.mp happlied with ⟨payload, reason, -, -, rfl⟩ | ⟨told, -, rfl⟩
      · rfl
      · rfl

/-- What befell the predicates is reported beside what befell the action. -/
theorem predicateFailures_of_answer {ruling : Ruling}
    (h : answer group context evaluation ruling = .ok envelope) :
    (envelope.diagnostics.filter fun told => told.code = .predicateFailure) =
      evaluation.diagnostics.filter fun told => told.code = .predicateFailure := by
  unfold answer at h
  split at h
  · rw [Envelope.diagnostics_ofEvaluation? (mapError_eq_ok.mp h)]
  · rename_i governing _
    rcases applied?_eq_ok.mp (mapError_eq_ok.mp h) with
      ⟨payload, reason, -, -, rfl⟩ | ⟨told, hfailed, rfl⟩
    · rfl
    · have hcode := (Execution.told_of_failed hfailed).1
      simp [Envelope.ofFailedAction, hcode]

theorem told_of_arbitrate (hsound : engine.registry.Sound)
    (h : (engine.arbitrate group context tags).result = .ok envelope) :
    let candidates := engine.registry.candidates tags
    (∃ evaluation, engine.Evaluates group context tags evaluation
        ∧ evaluation.replies.map (fun reply => (reply.ruleId, reply.matched)) =
          candidates.map fun entry =>
            (entry.id, entry.toRule.reportsMatch group.words context))
      ∧ (envelope.diagnostics.filter fun told => told.code = .predicateFailure).map
          Diagnostic.ruleId =
        (candidates.filter fun entry => entry.toRule.misbehaves group.words context).map
          (fun entry => entry.id)
      ∧ (envelope.trace.map Trace.ruleId).Perm
        ((candidates.filter fun entry => entry.toRule.reportsMatch group.words context).map
          fun entry => entry.id) := by
  intro candidates
  obtain ⟨evaluation, hevaluation, -, hanswer⟩ := answer_of_arbitrate hsound h
  have hrules : ∀ rule ∈ candidates.map Entry.toRule, rule.IsReadable group.words context :=
    (Evaluation.ofCandidates_eq_ok.mp hevaluation).2.1
  have hreadable : ∀ entry ∈ candidates, entry.toRule.IsReadable group.words context :=
    fun entry hentry => hrules _ (List.mem_map_of_mem hentry)
  refine ⟨⟨evaluation, hevaluation, ?_⟩, ?_, ?_⟩
  · rw [hevaluation.eq_gathered, Evaluation.replies_gathered hrules, List.map_map]
    rfl
  · have hall : (evaluation.diagnostics.filter fun told => told.code = .predicateFailure) =
        evaluation.diagnostics := by
      refine List.filter_eq_self.mpr fun told htold => ?_
      rw [hevaluation.eq_gathered] at htold
      exact decide_eq_true (Evaluation.code_of_mem_gathered htold)
    rw [predicateFailures_of_answer hanswer, hall, hevaluation.eq_gathered,
      Evaluation.map_ruleId_diagnostics_gathered hrules, List.filter_map, List.map_map]
    rfl
  · rw [trace_of_answer hanswer, Ruling.map_ruleId_traceOf,
      ← Registry.map_id_filterMap_standing? hreadable]
    apply List.Perm.map
    exact (Ruling.ranked_perm _ _).trans (hsound.standings_perm tags group.words context).symm

/-- Registered rules may fail or give what they like: a call of words and flags that are
read is answered, or there are too many rules or rival mandatory ones, unless a fault
escapes.  The answer reports each rule that misbehaved, once and in its place, and ranks
exactly those that reported a match in form. -/
theorem resolve_contains {submissions : List Submission} {registry : Registry}
    {limit tieBreak : Datum} {defaultScope : List String} {words : Datum} {flags : Entries}
    (hregistry : Registry.empty.ofSubmissions submissions = .ok registry)
    (hengine : ofSettings registry limit tieBreak defaultScope = .ok engine)
    (hwords : WordGroup.read words = .ok group)
    (hflags : Context.read (.map flags) = .ok context) (tag : String) :
    let candidates := registry.candidates [tag]
    let result := (engine.resolve words (.map flags) (.text tag)).result
    (∀ failure, result = .error failure →
        (∃ ids, failure = .ambiguous ids) ∨ (∃ count limit, failure = .exhausted count limit)
          ∨ ∃ fault, failure = .fault fault)
      ∧ (∀ fault, result = .error (.fault fault) ↔ engine.Escapes group context [tag] fault)
      ∧ (candidates.Pairwise fun x y => x.id ≠ y.id)
      ∧ ∀ envelope, result = .ok envelope →
        (∃ evaluation, engine.Evaluates group context [tag] evaluation
            ∧ evaluation.replies.map (fun reply => (reply.ruleId, reply.matched)) =
              candidates.map fun entry =>
                (entry.id, entry.toRule.reportsMatch group.words context))
          ∧ (envelope.diagnostics.filter fun told => told.code = .predicateFailure).map
              Diagnostic.ruleId =
            (candidates.filter fun entry => entry.toRule.misbehaves group.words context).map
              (fun entry => entry.id)
          ∧ (envelope.trace.map Trace.ruleId).Perm
            ((candidates.filter fun entry =>
              entry.toRule.reportsMatch group.words context).map fun entry => entry.id) := by
  intro candidates result
  have hsound : engine.registry.Sound := by
    rw [registry_of_settings hengine]
    exact (Registry.sound_empty.ofSubmissions hregistry).freeze
  have hcandidates : engine.registry.candidates [tag] = candidates := by
    rw [registry_of_settings hengine]
    rfl
  have hresult : result = (engine.arbitrate group context [tag]).result :=
    Hears.resolve_result ⟨hwords, readContext_map hflags, rfl⟩
  rw [hresult, ← hcandidates]
  refine ⟨fun failure => arbitrate_eq_error hsound, fun fault => arbitrate_eq_fault hsound,
    Registry.pairwise_id_candidates _ _, fun envelope => told_of_arbitrate hsound⟩

end Engine

namespace Registry

def answering (answer : Except Raised Reply) : Registry where
  entries := [⟨.answering "1.1.1" answer, 0⟩, ⟨.steady "1.1.2" .one, 1⟩]
  shelves := [(Tags.family, [⟨.answering "1.1.1" answer, 0⟩, ⟨.steady "1.1.2" .one, 1⟩])]
  frozen := false

def answeringSubmissions (answer : Except Raised Reply) : List Submission :=
  [.draft (Rule.answering "1.1.1" answer).draft, .draft (Rule.steady "1.1.2" .one).draft]

theorem ofSubmissions_answering (answer : Except Raised Reply) :
    empty.ofSubmissions (answeringSubmissions answer) = .ok (answering answer) := by
  have hfirst : empty.register (.draft (Rule.answering "1.1.1" answer).draft) =
      .ok (empty.enter (.answering "1.1.1" answer)) :=
    register_eq_ok.mpr ⟨rfl, _, Rule.toRule_answering "1.1.1" (by decide) answer, rfl, rfl⟩
  have hsecond : (empty.enter (.answering "1.1.1" answer)).1.register
      (.draft (Rule.steady "1.1.2" .one).draft) =
        .ok ((empty.enter (.answering "1.1.1" answer)).1.enter (.steady "1.1.2" .one)) :=
    register_eq_ok.mpr ⟨rfl, _, Rule.toRule_steady "1.1.2" (by decide) .one, rfl, rfl⟩
  rw [answeringSubmissions, ofSubmissions_cons, hfirst, ok_bind, ofSubmissions_cons, hsecond]
  rfl

theorem matching_answering (fault : Fault) (words : List Word) (context : Context) :
    (answering (.error (.told fault))).matching [Tags.family] words context =
      [.steady words context "1.1.2" .one 1] := by
  have hsharing : (answering (.error (.told fault))).sharing [Tags.family] =
      (answering (.error (.told fault))).entries := rfl
  have hanswering : (Rule.answering "1.1.1" (.error (.told fault))).verdict words context =
      .error fault.line := rfl
  have hsteady : (Rule.steady "1.1.2" .one).verdict words context = _ :=
    Rule.verdict_steady "1.1.2" rfl Double.isShare_one
  rw [matching, hsharing]
  simp [answering, Standing.steady, Entry.standing?, hanswering, hsteady]

end Registry

namespace Engine

def answering (answer : Except Raised Reply) : Engine :=
  ⟨(Registry.answering answer).freeze, 64, .confidenceFirst, [Tags.family]⟩

theorem sound_answering (answer : Except Raised Reply) : (answering answer).registry.Sound :=
  (Registry.sound_empty.ofSubmissions (Registry.ofSubmissions_answering answer)).freeze

theorem hears_answering (answer : Except Raised Reply) :
    (answering answer).Hears twins (.map []) (.text Tags.family) twinGroup .empty [Tags.family] :=
  ⟨rfl, rfl, rfl⟩

theorem few_answering (answer : Except Raised Reply) :
    ((answering answer).registry.sharing [Tags.family]).length ≤ (answering answer).limit := by
  show 2 ≤ 64
  decide

/-- A rule that fails leaves the one beside it to govern. -/
theorem exists_answering (fault : Fault) : ∃ envelope,
    ((answering (.error (.told fault))).resolve twins (.map []) (.text Tags.family)).result =
      .ok envelope := by
  have hsound := sound_answering (.error (.told fault))
  have hmatching : (answering (.error (.told fault))).registry.matching [Tags.family] twinGroup.words
      .empty = [.steady twinGroup.words .empty "1.1.2" .one 1] :=
    Registry.matching_answering fault twinGroup.words .empty
  have hreadable : ∀ entry ∈ (answering (.error (.told fault))).registry.sharing [Tags.family],
      entry.toRule.IsReadable twinGroup.words .empty := by
    intro entry hentry
    rcases List.mem_cons.mp hentry with rfl | hentry
    · exact ⟨_, rfl⟩
    · obtain rfl := List.mem_singleton.mp hentry
      exact Rule.isReadable_steady "1.1.2" rfl Double.isShare_one
  have hevaluation := evaluates_gathered hsound (few_answering _) hreadable
  have hresult := arbitrate_result_of_singleton hsound hevaluation hmatching
  have hreason : (Standing.steady twinGroup.words .empty "1.1.2" .one 1).reply.reason =
      .datum .null := rfl
  obtain ⟨reason, -, happlied⟩ := applied?_of_done rfl hreason _ _
  rw [happlied] at hresult
  exact ⟨_, (hears_answering _).resolve_result.trans hresult⟩

def lost : Except Raised Reply := .error (.told (.reported "LookupError" "lost"))

/-- The rule that failed is reported, and the one beside it is ranked. -/
theorem resolve_contains_lost :
    Registry.empty.ofSubmissions (Registry.answeringSubmissions lost) = .ok (.answering lost)
      ∧ ofSettings (.answering lost) (.int 64) (.text "confidence-first") [Tags.family] =
        .ok (answering lost)
      ∧ WordGroup.read twins = .ok twinGroup ∧ Context.read (.map []) = .ok .empty
      ∧ ∃ envelope,
        ((answering lost).resolve twins (.map []) (.text Tags.family)).result = .ok envelope
        ∧ (envelope.diagnostics.filter fun told => told.code = .predicateFailure).map
            Diagnostic.ruleId = ["1.1.1"]
        ∧ envelope.trace.map Trace.ruleId = ["1.1.2"] := by
  have hregistry := Registry.ofSubmissions_answering lost
  have hengine : ofSettings (.answering lost) (.int 64) (.text "confidence-first")
      [Tags.family] = .ok (answering lost) := rfl
  have hcall := hears_answering lost
  have hflags : Context.read (.map []) = .ok .empty := rfl
  obtain ⟨envelope, hresult⟩ := exists_answering (.reported "LookupError" "lost")
  obtain ⟨-, -, -, htold⟩ :=
    resolve_contains hregistry hengine hcall.words hflags Tags.family
  obtain ⟨-, hdiagnostics, htrace⟩ := htold envelope hresult
  have hperm := (sound_answering lost).candidates_perm [Tags.family]
  refine ⟨hregistry, hengine, hcall.words, hflags, envelope, hresult, ?_, ?_⟩
  · rw [hdiagnostics]
    refine List.Perm.eq_singleton (((hperm.filter _).map _).trans (.of_eq ?_))
    decide +kernel
  · refine List.Perm.eq_singleton ((htrace.trans ((hperm.filter _).map _)).trans (.of_eq ?_))
    decide +kernel

/-- A rule that reports a match with a confidence that is an integer out of range. -/
def tooLarge : Except Raised Reply :=
  .ok (.report ⟨.datum (.bool true), .datum (.int (Nat.pow 10 400)), .map [], .datum .null,
    .datum (.bool false)⟩)

/-- A call that ends in a fault, although the rule beside would answer it. -/
theorem resolve_tooLarge :
    Registry.empty.ofSubmissions (Registry.answeringSubmissions tooLarge) =
        .ok (.answering tooLarge)
      ∧ ofSettings (.answering tooLarge) (.int 64) (.text "confidence-first") [Tags.family] =
        .ok (answering tooLarge)
      ∧ ((answering tooLarge).resolve twins (.map []) (.text Tags.family)).result =
        .error (.fault .integerTooLarge) := by
  refine ⟨Registry.ofSubmissions_answering _, rfl, ?_⟩
  rw [(hears_answering tooLarge).resolve_result, arbitrate_eq_fault (sound_answering tooLarge)]
  have hfar : (Double.ofInt? (Nat.pow 10 400)).isNone = true := by decide +kernel
  refine escapes_of_lone (sound_answering tooLarge) (few_answering tooLarge) List.mem_cons_self
    (.report rfl (.tooLarge rfl rfl (Option.isNone_iff_eq_none.mp hfar))) ?_
  intro other hother hne
  obtain rfl := List.mem_singleton.mp ((List.mem_cons.mp hother).resolve_left hne)
  exact Rule.isReadable_iff.mp (Rule.isReadable_steady "1.1.2" rfl Double.isShare_one)

end Engine

end SutraArbiter
