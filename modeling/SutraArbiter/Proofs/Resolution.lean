import SutraArbiter.Proofs.Arbitration
import SutraArbiter.Proofs.Flags
import SutraArbiter.Proofs.Number.Share
import SutraArbiter.Proofs.Registry.Steady

namespace SutraArbiter

/-- Without a rule that governs the answer says why, and reports what failed. -/
theorem Envelope.eq_of_ofEvaluation? {evaluation : Evaluation} {envelope : Envelope}
    {script : Option Script} (h : ofEvaluation? evaluation script = .ok envelope) :
    ∃ reason explanation,
      envelope = { nothing reason explanation script with
        diagnostics := evaluation.diagnostics }
      ∧ (reason = .text "no-rule-applies" ∨ ∃ miss, evaluation.firstNearMiss? = some miss
        ∧ miss.reason = .datum reason ∧ reason.holds = true) := by
  unfold ofEvaluation? at h
  split at h
  · rename_i miss hmiss
    obtain ⟨given, hgiven, h⟩ := bind_eq_ok.mp h
    split at h
    · rename_i hholds
      obtain ⟨told, -, h⟩ := bind_eq_ok.mp h
      cases h
      exact ⟨_, _, rfl, .inr ⟨miss, hmiss, Value.look_eq_ok.mp hgiven, hholds⟩⟩
    · cases h
      exact ⟨_, _, rfl, .inl rfl⟩
  · cases h
    exact ⟨_, _, rfl, .inl rfl⟩

theorem Envelope.unapplied_of_ofEvaluation? {evaluation : Evaluation} {envelope : Envelope}
    {script : Option Script} (h : ofEvaluation? evaluation script = .ok envelope) :
    envelope.applied = false ∧ envelope.sutra = none := by
  obtain ⟨reason, explanation, rfl, -⟩ := eq_of_ofEvaluation? h
  exact ⟨rfl, rfl⟩

namespace Engine

variable {engine : Engine} {words flags scope : Datum} {group : WordGroup}
  {context : Context} {tags : List String} {evaluation : Evaluation}

theorem readContext_map {script : Option Script} {entries : Entries}
    (h : Context.read (.map entries) = .ok context) :
    readContext script (.map entries) = .ok context := by
  simp [readContext, h]

theorem readContext_eq_fault {script : Option Script} {fault : Fault} :
    readContext script flags = .error (.fault fault) ↔
      fault = .overlongInteger
        ∧ ∃ entries, flags = .map entries ∧ ∃ entry ∈ entries, entry.1.isOverlong = true := by
  cases flags with
  | map entries =>
      have hread : readContext script (.map entries) = .error (.fault fault) ↔
          Context.read (.map entries) = .error fault := by
        cases hcontext : Context.read (.map entries) <;> simp [readContext, hcontext]
      rw [hread, Context.read_eq_error]
      simp
  | _ => simp [readContext]

theorem isClear_of_readContext {script : Option Script} {flags : Datum}
    (hclear : flags.isOverlong = false) (h : readContext script flags = .ok context) :
    context.IsClear := by
  unfold readContext at h
  split at h
  · cases h
    exact Context.isClear_empty
  · rename_i entries
    split at h
    · rename_i read hread
      cases h
      exact Context.isClear_of_read hclear hread
    · cases h
  · cases h

/-- A call that reaches arbitration: its words are usable, its flags and its scope
are read. -/
structure Hears (engine : Engine) (words flags scope : Datum) (group : WordGroup)
    (context : Context) (tags : List String) : Prop where
  words : WordGroup.read words = .ok group
  flags : readContext group.script flags = .ok context
  scope : engine.readScope scope = .ok tags

theorem rejection_result (rejection : Rejection) (flags : Datum) :
    (do noteRejection rejection flags; pure (Envelope.ofRejection rejection) :
      Logged Envelope).result = .ok (.ofRejection rejection) := by
  have hnote : (noteRejection rejection flags).result = .ok () := by
    unfold noteRejection
    split <;> rfl
  simp only [Logged.result_bind, hnote, ok_bind, Logged.result_pure]

/-- What a call comes to whose words or flags cannot be used. -/
def answerUnusable : Unusable → Except Failure Envelope
  | .fault fault => .error (.fault fault)
  | .rejected rejection => .ok (.ofRejection rejection)

theorem resolve_result_of_unreadable {unusable : Unusable}
    (hwords : WordGroup.read words = .error unusable) :
    (engine.resolve words flags scope).result = answerUnusable unusable := by
  unfold resolve
  rw [hwords]
  cases unusable with
  | fault fault => rfl
  | rejected rejection => exact rejection_result rejection flags

theorem resolve_result_of_unusable {unusable : Unusable}
    (hwords : WordGroup.read words = .ok group)
    (hflags : readContext group.script flags = .error unusable) :
    (engine.resolve words flags scope).result = answerUnusable unusable := by
  unfold resolve
  rw [hwords]
  dsimp only
  rw [hflags]
  cases unusable with
  | fault fault => rfl
  | rejected rejection => exact rejection_result rejection flags

/-- Of usable input the scope is read, and then the rules are heard. -/
theorem resolve_result_of_read (hwords : WordGroup.read words = .ok group)
    (hflags : readContext group.script flags = .ok context) :
    (engine.resolve words flags scope).result =
      (engine.readScope scope).mapError .fault >>= fun tags =>
        (engine.arbitrate group context tags).result := by
  have hnote : (noteUnread context).result = .ok () := by
    unfold noteUnread
    split <;> rfl
  unfold resolve
  rw [hwords]
  dsimp only
  rw [hflags]
  simp [hnote]

theorem Hears.resolve_result (hcall : engine.Hears words flags scope group context tags) :
    (engine.resolve words flags scope).result =
      (engine.arbitrate group context tags).result := by
  rw [resolve_result_of_read hcall.words hcall.flags, hcall.scope]
  rfl

/-- What is answered for the rule that governs: its action is run and concluded. -/
def applied? (group : WordGroup) (context : Context) (governing : Standing)
    (trace : List Trace) (diagnostics : List Diagnostic) : Except Fault Envelope := do
  let execution ←
    Execution.outcome? governing.entry.toRule group.words context governing.reply
  conclude governing execution trace diagnostics group.script

/-- What is answered applies the rule, or tells that its action failed. -/
theorem applied?_eq_ok {governing : Standing} {trace : List Trace}
    {diagnostics : List Diagnostic} {envelope : Envelope} :
    applied? group context governing trace diagnostics = .ok envelope ↔
      (∃ payload reason,
        Execution.outcome? governing.entry.toRule group.words context governing.reply =
            .ok (.done payload)
          ∧ Envelope.reasonOf? governing = .ok reason
          ∧ envelope = .ofPayload governing reason payload trace diagnostics group.script)
        ∨ ∃ told,
          Execution.outcome? governing.entry.toRule group.words context governing.reply =
              .ok (.failed told)
            ∧ envelope = .ofFailedAction governing trace (diagnostics ++ [told]) group.script := by
  unfold applied?
  rw [bind_eq_ok]
  constructor
  · rintro ⟨execution, houtcome, h⟩
    cases execution with
    | done payload =>
        obtain ⟨reason, hreason, h⟩ := bind_eq_ok.mp h
        cases h
        exact .inl ⟨payload, reason, houtcome, hreason, rfl⟩
    | failed told =>
        cases h
        exact .inr ⟨told, houtcome, rfl⟩
  · rintro (⟨payload, reason, houtcome, hreason, rfl⟩ | ⟨told, houtcome, rfl⟩)
    · refine ⟨_, houtcome, ?_⟩
      rw [conclude, hreason]
      rfl
    · exact ⟨_, houtcome, rfl⟩

/-- A payload is answered with, unless the reason of the match fails. -/
theorem applied?_of_done {governing : Standing} {payload : Entries} {given : Datum}
    (houtcome : Execution.outcome? governing.entry.toRule group.words context governing.reply =
      .ok (.done payload))
    (hreason : governing.reply.reason = .datum given) (trace : List Trace)
    (diagnostics : List Diagnostic) :
    ∃ reason, Envelope.reasonOf? governing = .ok reason
      ∧ applied? group context governing trace diagnostics =
        .ok (.ofPayload governing reason payload trace diagnostics group.script) := by
  have htold : Envelope.reasonOf? governing =
      .ok (if given.holds then given else .text governing.entry.reason) := by
    rw [Envelope.reasonOf?, hreason]
    rfl
  exact ⟨_, htold, applied?_eq_ok.mpr (.inl ⟨payload, _, houtcome, htold, rfl⟩)⟩

/-- The answer that a ruling comes to. -/
def answer (group : WordGroup) (context : Context) (evaluation : Evaluation)
    (ruling : Ruling) : Except Failure Envelope :=
  match ruling.governing with
  | none => (Envelope.ofEvaluation? evaluation group.script).mapError .fault
  | some governing =>
      (applied? group context governing ruling.trace evaluation.diagnostics).mapError .fault

/-- Every candidate is asked within the limit, and none breaks off the asking. -/
def Evaluates (engine : Engine) (group : WordGroup) (context : Context)
    (tags : List String) (evaluation : Evaluation) : Prop :=
  (Evaluation.ofCandidates engine.limit
    ((engine.registry.candidates tags).map Entry.toRule) group.words context).result =
      .ok evaluation

theorem Evaluates.eq_gathered
    (hevaluation : engine.Evaluates group context tags evaluation) :
    evaluation = Evaluation.gathered group.words context
      ((engine.registry.candidates tags).map Entry.toRule) :=
  (Evaluation.ofCandidates_eq_ok.mp hevaluation).2.2

/-- Evaluation succeeds when the rules of the scope are few enough and each of them
is readable. -/
theorem evaluates_gathered (hsound : engine.registry.Sound)
    (hlimit : (engine.registry.sharing tags).length ≤ engine.limit)
    (hreadable : ∀ entry ∈ engine.registry.sharing tags,
      entry.toRule.IsReadable group.words context) :
    engine.Evaluates group context tags (Evaluation.gathered group.words context
      ((engine.registry.candidates tags).map Entry.toRule)) := by
  refine Evaluation.ofCandidates_eq_ok.mpr ⟨?_, ?_, rfl⟩
  · rwa [List.length_map, (hsound.candidates_perm tags).length_eq]
  · intro rule hrule
    obtain ⟨entry, hentry, rfl⟩ := List.mem_map.mp hrule
    exact hreadable entry (hsound.mem_candidates.mp hentry)

/-- An evaluation that fails ends the arbitration. -/
theorem arbitrate_result_of_error {failure : Failure}
    (hfailed : (Evaluation.ofCandidates engine.limit
      ((engine.registry.candidates tags).map Entry.toRule) group.words context).result =
        .error failure) :
    (engine.arbitrate group context tags).result = .error failure := by
  unfold arbitrate
  simp only [Logged.result_bind, Logged.result_note, ok_bind]
  rw [hfailed]
  rfl

theorem arbitrate_result_of_lt (hlimit : engine.limit < (engine.registry.sharing tags).length)
    (hsound : engine.registry.Sound) :
    (engine.arbitrate group context tags).result =
      .error (.exhausted (engine.registry.sharing tags).length engine.limit) := by
  have hlength := (hsound.candidates_perm tags).length_eq
  apply arbitrate_result_of_error
  unfold Evaluation.ofCandidates
  rw [List.length_map, hlength, if_pos hlimit]
  rfl

theorem arbitrate_result (hsound : engine.registry.Sound)
    (hevaluation : engine.Evaluates group context tags evaluation) :
    (engine.arbitrate group context tags).result =
      (Ruling.ofStandings engine.tieBreak
        ((engine.registry.candidates tags).filterMap
          (Entry.standing? group.words context))).result >>=
        answer group context evaluation := by
  have hstandings := Ruling.standings?_held group.words context
    (engine.registry.candidates tags)
    (fun entry hentry => hsound.find?_id
      (fun x hx => (Registry.mem_sharing.mp (hsound.mem_candidates.mp hx)).1) hentry)
    (fun entry hentry => Ruling.specificity_active hentry) (fun entry hentry => hentry)
  have hreplies : evaluation.replies = (engine.registry.candidates tags).map
      fun entry => entry.toRule.held group.words context := by
    rw [hevaluation.eq_gathered, Evaluation.gathered, List.map_map]
    rfl
  unfold arbitrate
  simp only [Logged.result_bind, Logged.result_note, ok_bind]
  rw [hevaluation, ok_bind, hreplies]
  simp only [Ruling.ofReplies, Logged.result_bind, Logged.result_ofFault]
  rw [hstandings]
  simp only [mapError_ok, ok_bind]
  cases (Ruling.ofStandings engine.tieBreak _).result with
  | error failure => rfl
  | ok ruling =>
      simp only [ok_bind, answer]
      cases ruling.governing with
      | none =>
          simp only [returnNothing, Logged.result_bind, Logged.result_ofFault]
          cases Envelope.ofEvaluation? evaluation group.script with
          | error fault => rfl
          | ok envelope => rfl
      | some governing =>
          simp only [Logged.result_bind, Execution.ofRule_result, Logged.result_note, ok_bind,
            Logged.result_ofFault, applied?]
          cases Execution.outcome? governing.entry.toRule group.words context governing.reply with
          | error fault => rfl
          | ok execution =>
              simp only [mapError_ok, ok_bind]
              cases conclude governing execution ruling.trace evaluation.diagnostics
                group.script <;> rfl

theorem readLimit_eq_ok {d : Datum} {limit : Nat} :
    readLimit d = .ok limit ↔ d = .int limit ∧ 0 < limit := by
  unfold readLimit
  split
  · rename_i given
    split
    · simp only [Except.ok.injEq, Datum.int.injEq]
      omega
    · simp only [reduceCtorEq, Datum.int.injEq, false_iff]
      omega
  · rename_i hother
    simp only [reduceCtorEq, false_iff, not_and]
    rintro rfl
    exact absurd rfl (hother _)

theorem ofSettings_eq_ok {registry : Registry} {limit tieBreak : Datum}
    {defaultScope : List String} :
    ofSettings registry limit tieBreak defaultScope = .ok engine ↔
      ∃ ceiling policy, readLimit limit = .ok ceiling ∧ TieBreak.read tieBreak = .ok policy
        ∧ engine = ⟨registry.freeze, ceiling, policy, defaultScope⟩ := by
  simp only [ofSettings, bind_eq_ok]
  constructor
  · rintro ⟨ceiling, hceiling, policy, hpolicy, h⟩
    cases h
    exact ⟨ceiling, policy, hceiling, hpolicy, rfl⟩
  · rintro ⟨ceiling, policy, hceiling, hpolicy, rfl⟩
    exact ⟨ceiling, hceiling, policy, hpolicy, rfl⟩

theorem registry_of_settings {registry : Registry} {limit tieBreak : Datum}
    {defaultScope : List String}
    (h : ofSettings registry limit tieBreak defaultScope = .ok engine) :
    engine.registry = registry.freeze := by
  obtain ⟨-, -, -, -, rfl⟩ := ofSettings_eq_ok.mp h
  rfl

/-- Only the standings of the scope count, in whatever order they come. -/
theorem arbitrate_result_of_matching (hsound : engine.registry.Sound)
    (hevaluation : engine.Evaluates group context tags evaluation)
    (hmandatory : (Ruling.mandatory
      (engine.registry.matching tags group.words context)).length < 2) :
    let ranking := Ruling.ranked engine.tieBreak
      (engine.registry.matching tags group.words context)
    (engine.arbitrate group context tags).result =
      answer group context evaluation ⟨ranking.head?, Ruling.traceOf ranking⟩ := by
  have hperm := hsound.standings_perm tags group.words context
  have hdistinct := hsound.distinct_matching tags group.words context
  rw [arbitrate_result hsound hevaluation, Ruling.result_ofStandings, ok_bind,
    Ruling.ranked_of_perm hdistinct hperm]
  rwa [Ruling.length_mandatory_of_perm hperm]

/-- Some match and no two mandatory ones: one rule governs, and its action is run. -/
theorem arbitrate_result_of_ne_nil (hsound : engine.registry.Sound)
    (hevaluation : engine.Evaluates group context tags evaluation)
    (hsome : engine.registry.matching tags group.words context ≠ [])
    (hmandatory : (Ruling.mandatory
      (engine.registry.matching tags group.words context)).length < 2) :
    ∃ governing,
      Standing.Governs engine.tieBreak
        (engine.registry.matching tags group.words context) governing
      ∧ (engine.arbitrate group context tags).result =
        (applied? group context governing (Ruling.traceOf (Ruling.ranked engine.tieBreak
          (engine.registry.matching tags group.words context)))
          evaluation.diagnostics).mapError .fault := by
  have hruling := arbitrate_result_of_matching hsound hevaluation hmandatory
  cases hranked : Ruling.ranked engine.tieBreak
      (engine.registry.matching tags group.words context) with
  | nil =>
      have hperm := Ruling.ranked_perm engine.tieBreak
        (engine.registry.matching tags group.words context)
      rw [hranked] at hperm
      exact absurd hperm.symm.eq_nil hsome
  | cons governing others =>
      rw [hranked] at hruling
      have hdistinct := hsound.distinct_matching tags group.words context
      exact ⟨governing, Ruling.governs_of_ranked hdistinct hranked, hruling⟩

/-- A rule that matches alone governs. -/
theorem arbitrate_result_of_singleton (hsound : engine.registry.Sound)
    (hevaluation : engine.Evaluates group context tags evaluation) {standing : Standing}
    (hmatching : engine.registry.matching tags group.words context = [standing]) :
    (engine.arbitrate group context tags).result =
      (applied? group context standing (Ruling.traceOf [standing])
        evaluation.diagnostics).mapError .fault := by
  have hmandatory : (Ruling.mandatory
      (engine.registry.matching tags group.words context)).length < 2 := by
    rw [hmatching]
    exact Nat.lt_succ_of_le (List.length_filter_le _ _)
  have hranked : Ruling.ranked engine.tieBreak [standing] = [standing] :=
    (Ruling.ranked_perm engine.tieBreak [standing]).eq_singleton
  rw [arbitrate_result_of_matching hsound hevaluation hmandatory, hmatching, hranked]
  rfl

theorem answer_ne_ambiguous {ruling : Ruling} {ids : List String} :
    answer group context evaluation ruling ≠ .error (.ambiguous ids) := by
  unfold answer
  split
  · cases Envelope.ofEvaluation? evaluation group.script <;> simp
  · rename_i governing _
    cases applied? group context governing ruling.trace evaluation.diagnostics <;> simp

theorem arbitrate_result_of_mandatory (hsound : engine.registry.Sound)
    (hevaluation : engine.Evaluates group context tags evaluation)
    (hmandatory : 2 ≤ (Ruling.mandatory
      (engine.registry.matching tags group.words context)).length) :
    ∃ ids, (engine.arbitrate group context tags).result = .error (.ambiguous ids) := by
  have hperm := hsound.standings_perm tags group.words context
  rw [arbitrate_result hsound hevaluation, Ruling.result_ofStandings_of_mandatory]
  · exact ⟨_, rfl⟩
  · rwa [Ruling.length_mandatory_of_perm hperm]

theorem arbitrate_ambiguous_iff (hsound : engine.registry.Sound)
    (hevaluation : engine.Evaluates group context tags evaluation) :
    (∃ ids, (engine.arbitrate group context tags).result = .error (.ambiguous ids)) ↔
      2 ≤ (Ruling.mandatory
        (engine.registry.matching tags group.words context)).length := by
  constructor
  · rintro ⟨ids, hambiguous⟩
    by_contra hmandatory
    rw [arbitrate_result_of_matching hsound hevaluation (by omega)] at hambiguous
    exact answer_ne_ambiguous hambiguous
  · exact arbitrate_result_of_mandatory hsound hevaluation

theorem nearMiss?_ruleId {entry : Entry} {miss : Match} {words : List Word}
    (h : entry.nearMiss? words context = some miss) : miss.ruleId = entry.id := by
  unfold Entry.nearMiss? at h
  split at h
  · rename_i reply hverdict
    split at h
    · cases h
      exact (Rule.verdict_eq_ok hverdict).1
    · cases h
  · cases h

theorem Evaluates.firstNearMiss?_eq_some (hsound : engine.registry.Sound)
    (hevaluation : engine.Evaluates group context tags evaluation) {miss : Match} :
    evaluation.firstNearMiss? = some miss ↔
      ∃ entry, engine.registry.FirstMiss tags group.words context entry miss := by
  rw [hevaluation.eq_gathered, Evaluation.firstNearMiss?_gathered]
  exact hsound.findSome?_nearMiss

/-- What the reason of a near miss makes of an answer without a rule. -/
def withoutRule (ruleId : String) (diagnostics : List Diagnostic) (script : Option Script) :
    Value → Except Failure Envelope
  | .brittle fault => .error (.fault fault)
  | .datum given =>
      if given.isOverlong then .error (.fault .overlongInteger)
      else if given.holds then
        .ok { Envelope.nothing given s!"Rule {ruleId} did not apply: {given.plain}" script with
          diagnostics }
      else
        .ok { Envelope.nothing (.text "no-rule-applies") "No rule applied" script with
          diagnostics }

theorem ofEvaluation?_of_miss {miss : Match} {script : Option Script}
    (hmiss : evaluation.firstNearMiss? = some miss) :
    (Envelope.ofEvaluation? evaluation script).mapError Failure.fault =
      withoutRule miss.ruleId evaluation.diagnostics script miss.reason := by
  unfold Envelope.ofEvaluation? withoutRule
  rw [hmiss]
  cases hreason : miss.reason with
  | brittle fault => simp [hreason]
  | datum given =>
      cases hlong : given.isOverlong with
      | true => simp [hreason, Datum.plain?, hlong, Datum.holds_of_isOverlong hlong]
      | false =>
          cases hholds : given.holds <;>
            simp [hreason, Datum.plain?, hlong, hholds, pure, Except.pure]

theorem ofEvaluation?_of_none {script : Option Script}
    (h : evaluation.firstNearMiss? = none) :
    Envelope.ofEvaluation? evaluation script =
      .ok { Envelope.nothing (.text "no-rule-applies") "No rule applied" script with
        diagnostics := evaluation.diagnostics } := by
  unfold Envelope.ofEvaluation?
  rw [h]

theorem arbitrate_result_of_nil (hsound : engine.registry.Sound)
    (hevaluation : engine.Evaluates group context tags evaluation)
    (hempty : engine.registry.matching tags group.words context = []) :
    (engine.arbitrate group context tags).result =
      (Envelope.ofEvaluation? evaluation group.script).mapError .fault := by
  have hfew : (Ruling.mandatory
      (engine.registry.matching tags group.words context)).length < 2 := by
    simp [hempty, Ruling.mandatory]
  have hresult := arbitrate_result_of_matching hsound hevaluation hfew
  rwa [hempty] at hresult

/-- What is answered for the rule that governs is concluded from what its action gives. -/
theorem concludes_applied? (governing : Standing) (trace : List Trace)
    (diagnostics : List Diagnostic) :
    governing.Concludes trace diagnostics group.script
      (governing.entry.action.perform group.words context governing.reply)
      ((applied? group context governing trace diagnostics).mapError .fault) := by
  unfold applied? Execution.outcome?
  cases governing.entry.action.perform group.words context governing.reply with
  | error raised =>
      cases raised with
      | told fault => exact .failed
      | untold cause => exact .untold
  | ok given =>
      cases given with
      | brittle fault => exact .brittle
      | datum d =>
          simp only [Value.look_datum, Except.map, Execution.ofGiven, ok_bind]
          cases hpayload : checkPayload d with
          | error problem => exact .refused hpayload
          | ok payload =>
              obtain ⟨rfl, hfree⟩ := checkPayload_eq_ok.mp hpayload
              simp only [conclude, Envelope.reasonOf?]
              cases hreason : governing.reply.reason with
              | datum reason =>
                  rw [Value.look_datum]
                  exact .applied hfree hreason
              | brittle fault =>
                  rw [Value.look_brittle]
                  exact .unreasoned hfree hreason

theorem arbitrate_result_of_miss (hsound : engine.registry.Sound)
    (hevaluation : engine.Evaluates group context tags evaluation)
    (hempty : engine.registry.matching tags group.words context = []) {entry : Entry}
    {miss : Match} (hfirst : engine.registry.FirstMiss tags group.words context entry miss) :
    (engine.arbitrate group context tags).result =
      withoutRule entry.id evaluation.diagnostics group.script miss.reason := by
  have htold := (hevaluation.firstNearMiss?_eq_some hsound).mpr ⟨entry, hfirst⟩
  rw [arbitrate_result_of_nil hsound hevaluation hempty, ofEvaluation?_of_miss htold,
    nearMiss?_ruleId hfirst.missed]

theorem arbitrate_result_of_no_miss (hsound : engine.registry.Sound)
    (hevaluation : engine.Evaluates group context tags evaluation)
    (hempty : engine.registry.matching tags group.words context = [])
    (hnone : ∀ entry miss, ¬ engine.registry.FirstMiss tags group.words context entry miss) :
    (engine.arbitrate group context tags).result =
      .ok { Envelope.nothing (.text "no-rule-applies") "No rule applied" group.script with
        diagnostics := evaluation.diagnostics } := by
  have htold : evaluation.firstNearMiss? = none := by
    refine Option.eq_none_iff_forall_not_mem.mpr fun miss hmiss => ?_
    obtain ⟨entry, hfirst⟩ := (hevaluation.firstNearMiss?_eq_some hsound).mp hmiss
    exact hnone entry miss hfirst
  rw [arbitrate_result_of_nil hsound hevaluation hempty, ofEvaluation?_of_none htold]
  rfl

theorem exists_concludes (hsound : engine.registry.Sound)
    (hevaluation : engine.Evaluates group context tags evaluation)
    (hsome : engine.registry.matching tags group.words context ≠ [])
    (hmandatory : (Ruling.mandatory
      (engine.registry.matching tags group.words context)).length < 2) :
    ∃ governing given,
      (∀ other, Standing.Governs engine.tieBreak
        (engine.registry.matching tags group.words context) other ↔ other = governing)
        ∧ governing.entry.action.Gives group.words context governing.reply given
        ∧ governing.Concludes
          (Ruling.traceOf (Ruling.ranked engine.tieBreak
            (engine.registry.matching tags group.words context)))
          evaluation.diagnostics group.script given (engine.arbitrate group context tags).result := by
  obtain ⟨governing, hgoverns, hconclusion⟩ :=
    arbitrate_result_of_ne_nil hsound hevaluation hsome hmandatory
  refine ⟨governing, _, fun other => ⟨?_, ?_⟩, Action.gives_perform _ _ _ _, ?_⟩
  · intro hother
    exact hother.unique hgoverns
  · rintro rfl
    exact hgoverns
  · rw [hconclusion]
    exact concludes_applied? _ _ _

/-- Arbitration of a call that the engine hears.  Without a rule that matches only the reason
of the first near miss can fail it, and whatever the action of the rule that governs gives is
what the answer is concluded from. -/
theorem resolve_arbitrates {submissions : List Submission} {registry : Registry}
    {limit tieBreak : Datum} {defaultScope : List String}
    (hregistry : Registry.empty.ofSubmissions submissions = .ok registry)
    (hengine : ofSettings registry limit tieBreak defaultScope = .ok engine)
    (hcall : engine.Hears words flags scope group context tags)
    (hevaluation : engine.Evaluates group context tags evaluation) :
    let matching := registry.matching tags group.words context
    let result := (engine.resolve words flags scope).result
    ((∃ ids, result = .error (.ambiguous ids)) ↔ 2 ≤ (Ruling.mandatory matching).length)
      ∧ (matching = [] →
        (∀ entry miss, registry.FirstMiss tags group.words context entry miss →
          result = withoutRule entry.id evaluation.diagnostics group.script miss.reason)
        ∧ ((∀ entry miss, ¬ registry.FirstMiss tags group.words context entry miss) →
          result = .ok { Envelope.nothing (.text "no-rule-applies") "No rule applied"
            group.script with diagnostics := evaluation.diagnostics }))
      ∧ (matching ≠ [] → (Ruling.mandatory matching).length < 2 →
        ∃ governing given,
          (∀ other, Standing.Governs engine.tieBreak matching other ↔ other = governing)
          ∧ governing.entry.action.Gives group.words context governing.reply given
          ∧ governing.Concludes (Ruling.traceOf (Ruling.ranked engine.tieBreak matching))
            evaluation.diagnostics group.script given result) := by
  intro matching result
  have hsound : engine.registry.Sound := by
    obtain ⟨-, -, -, -, rfl⟩ := ofSettings_eq_ok.mp hengine
    exact (Registry.sound_empty.ofSubmissions hregistry).freeze
  have hmatching : engine.registry.matching tags group.words context = matching := by
    obtain ⟨-, -, -, -, rfl⟩ := ofSettings_eq_ok.mp hengine
    rfl
  have hmiss (entry : Entry) (miss : Match) :
      engine.registry.FirstMiss tags group.words context entry miss ↔
        registry.FirstMiss tags group.words context entry miss := by
    obtain ⟨-, -, -, -, rfl⟩ := ofSettings_eq_ok.mp hengine
    exact Registry.firstMiss_freeze
  have hresult : result = (engine.arbitrate group context tags).result :=
    hcall.resolve_result
  rw [← hmatching, hresult]
  refine ⟨arbitrate_ambiguous_iff hsound hevaluation, fun hempty => ⟨?_, ?_⟩, ?_⟩
  · intro entry miss hfirst
    exact arbitrate_result_of_miss hsound hevaluation hempty ((hmiss entry miss).mpr hfirst)
  · intro hnone
    exact arbitrate_result_of_no_miss hsound hevaluation hempty fun entry miss hfirst =>
      hnone entry miss ((hmiss entry miss).mp hfirst)
  · exact exists_concludes hsound hevaluation

end Engine

namespace Rule

variable {words : List Word} {context : Context} {confidence : Double}

theorem toMatch?_steady (id : String) (hnan : confidence.isNaN = false)
    (hshare : confidence.level.isShare = true) :
    Reply.toMatch? id (.report ⟨.datum (.bool true), .datum (.float confidence), .map [],
        .datum .null, .datum (.bool false)⟩) =
      .ok (.ok ⟨id, true, confidence, .map [], .datum .null, .bool false⟩) := by
  simp [Reply.toMatch?, Report.toMatch?, readConfidence?, hnan, Datum.level?, hshare,
    nearMissOf, Datum.holds, pure, Except.pure]

theorem asked?_steady (id : String) (hnan : confidence.isNaN = false)
    (hshare : confidence.level.isShare = true) :
    (steady id confidence).asked? words context =
      .ok (.ok ⟨id, true, confidence, .map [], .datum .null, .bool false⟩) := by
  rw [asked?_of_reply rfl (toMatch?_steady id hnan hshare)]
  rfl

theorem verdict_steady (id : String) (hnan : confidence.isNaN = false)
    (hshare : confidence.level.isShare = true) :
    (steady id confidence).verdict words context =
      .ok ⟨id, true, confidence, .map [], .datum .null, .bool false⟩ :=
  verdict_of_asked? (asked?_steady id hnan hshare)

theorem isReadable_steady (id : String) (hnan : confidence.isNaN = false)
    (hshare : confidence.level.isShare = true) :
    (steady id confidence).IsReadable words context :=
  ⟨_, asked?_steady id hnan hshare⟩

end Rule

def Standing.steady (words : List Word) (context : Context) (id : String)
    (confidence : Double) (index : Nat) : Standing where
  entry := ⟨.steady id confidence, index⟩
  reply := ⟨id, true, confidence, .map [], .datum .null, .bool false⟩
  specificity := Entry.satisfied words context ⟨.steady id confidence, index⟩

namespace Registry

theorem sharing_steady : steady.sharing [Tags.family] = steady.entries := rfl

theorem matching_steady (words : List Word) (context : Context) :
    steady.matching [Tags.family] words context =
      [.steady words context "1.1.1" .zero 0, .steady words context "1.1.2" .one 1] := by
  have hzero : (Rule.steady "1.1.1" .zero).verdict words context = _ :=
    Rule.verdict_steady "1.1.1" rfl Double.isShare_zero
  have hone : (Rule.steady "1.1.2" .one).verdict words context = _ :=
    Rule.verdict_steady "1.1.2" rfl Double.isShare_one
  rw [matching, sharing_steady]
  simp [steady, Standing.steady, Entry.standing?, hzero, hone]

theorem isReadable_steady {words : List Word} {context : Context} {entry : Entry}
    (hentry : entry ∈ steady.entries) : entry.toRule.IsReadable words context := by
  rcases List.mem_cons.mp hentry with rfl | hentry
  · exact Rule.isReadable_steady "1.1.1" rfl Double.isShare_zero
  · obtain rfl := List.mem_singleton.mp hentry
    exact Rule.isReadable_steady "1.1.2" rfl Double.isShare_one

end Registry

namespace Engine

def steady : Engine := ⟨Registry.steady.freeze, 64, .confidenceFirst, [Tags.family]⟩

theorem ofSettings_steady :
    ofSettings .steady (.int 64) (.text "confidence-first") [Tags.family] = .ok steady :=
  rfl

def twins : Datum := Datum.ofStrings ["rama", "rama"]

def twinGroup : WordGroup where
  words := [⟨0, "rama", "", "", "", "", "", []⟩, ⟨1, "rama", "", "", "", "", "", []⟩]
  script := some .iast

theorem hears_steady : steady.Hears twins .null .null twinGroup .empty [Tags.family] :=
  ⟨rfl, rfl, rfl⟩

theorem evaluates_steady : steady.Evaluates twinGroup .empty [Tags.family]
    (Evaluation.gathered twinGroup.words .empty
      ((steady.registry.candidates [Tags.family]).map Entry.toRule)) := by
  have hsound : steady.registry.Sound :=
    (Registry.sound_empty.ofSubmissions Registry.ofSubmissions_steady).freeze
  exact evaluates_gathered hsound (by decide) fun entry hentry =>
    Registry.isReadable_steady hentry

theorem governs_steady : Standing.Governs .confidenceFirst
    (Registry.steady.matching [Tags.family] twinGroup.words .empty)
    (.steady twinGroup.words .empty "1.1.2" .one 1) := by
  rw [Registry.matching_steady]
  refine ⟨by simp, fun other hother hne => ?_⟩
  rcases List.mem_cons.mp hother with rfl | hother
  · exact .inr ⟨rfl, .inr ⟨rfl, .inl (by decide +kernel)⟩⟩
  · exact absurd (List.mem_singleton.mp hother) hne

theorem mandatory_steady : (Ruling.mandatory
    (Registry.steady.matching [Tags.family] twinGroup.words .empty)).length < 2 := by
  rw [Registry.matching_steady]
  decide

theorem resolve_arbitrates_steady :
    Registry.empty.ofSubmissions Registry.steadySubmissions = .ok .steady
      ∧ ofSettings .steady (.int 64) (.text "confidence-first") [Tags.family] = .ok steady
      ∧ steady.Hears twins .null .null twinGroup .empty [Tags.family]
      ∧ ∃ evaluation, steady.Evaluates twinGroup .empty [Tags.family] evaluation
        ∧ ∃ envelope, (steady.resolve twins .null .null).result = .ok envelope
          ∧ envelope.applied = true ∧ envelope.sutra = some "1.1.2" := by
  refine ⟨Registry.ofSubmissions_steady, ofSettings_steady, hears_steady, _, evaluates_steady, ?_⟩
  obtain ⟨-, -, hruled⟩ := resolve_arbitrates Registry.ofSubmissions_steady ofSettings_steady
    hears_steady evaluates_steady
  obtain ⟨governing, given, hunique, hgives, hconcludes⟩ :=
    hruled (List.ne_nil_of_mem governs_steady.member) mandatory_steady
  obtain rfl := (hunique _).mp governs_steady
  obtain rfl : given = .ok (.datum (.map [])) := by
    cases hgives
    rfl
  generalize hresult : (steady.resolve twins .null .null).result = result at hconcludes ⊢
  cases hconcludes with
  | applied => exact ⟨_, rfl, rfl, rfl⟩
  | unreasoned _ hbrittle => cases hbrittle
  | refused hrefused => cases hrefused

end Engine

/-- A rule that misses by little, and gives the least integer without a text as its reason. -/
def Rule.missing : Rule :=
  .answering "1.1.1" (.ok (.report ⟨.datum (.bool false), .datum (.float .zero), .map [],
    .datum (.int (Nat.pow 10 Number.digitLimit)), .datum (.bool true)⟩))

theorem Rule.asked?_missing (words : List Word) (context : Context) :
    missing.asked? words context = .ok (.ok ⟨"1.1.1", false, .zero, .map [],
      .datum (.int (Nat.pow 10 Number.digitLimit)), .bool true⟩) := by
  have hreading : Reply.toMatch? missing.id (.report ⟨.datum (.bool false),
      .datum (.float .zero), .map [], .datum (.int (Nat.pow 10 Number.digitLimit)),
      .datum (.bool true)⟩) = .ok (.ok ⟨"1.1.1", false, .zero, .map [],
        .datum (.int (Nat.pow 10 Number.digitLimit)), .bool true⟩) := rfl
  exact asked?_of_reply rfl hreading

namespace Registry

def missing : Registry where
  entries := [⟨.missing, 0⟩]
  shelves := [(Tags.family, [⟨.missing, 0⟩])]
  frozen := false

theorem ofSubmissions_missing :
    empty.ofSubmissions [.draft Rule.missing.draft] = .ok missing := by
  have hregister : empty.register (.draft Rule.missing.draft) = .ok (empty.enter .missing) :=
    register_eq_ok.mpr ⟨rfl, _, Rule.toRule_answering "1.1.1" (by decide) _, rfl, rfl⟩
  rw [ofSubmissions_cons, hregister]
  rfl

theorem matching_missing (words : List Word) (context : Context) :
    missing.matching [Tags.family] words context = [] := by
  have hunmatched : Entry.standing? words context ⟨.missing, 0⟩ = none := by
    unfold Entry.standing?
    rw [Rule.verdict_of_asked? (Rule.asked?_missing words context)]
    rfl
  exact List.filterMap_cons_none hunmatched

theorem firstMiss_missing (words : List Word) (context : Context) :
    missing.FirstMiss [Tags.family] words context ⟨.missing, 0⟩
      ⟨"1.1.1", false, .zero, .map [], .datum (.int (Nat.pow 10 Number.digitLimit)),
        .bool true⟩ where
  shared := List.mem_cons_self
  missed := by
    unfold Entry.nearMiss?
    rw [Rule.verdict_of_asked? (Rule.asked?_missing words context)]
    rfl
  first := by
    intro other hother hbefore
    obtain rfl := List.mem_singleton.mp hother
    exact absurd hbefore hbefore.asymm

end Registry

namespace Engine

def missing : Engine := ⟨Registry.missing.freeze, 64, .confidenceFirst, [Tags.family]⟩

/-- No rule matches and one misses by little, but its reason has no text: the call ends in a
fault. -/
theorem resolve_missing :
    Registry.empty.ofSubmissions [.draft Rule.missing.draft] = .ok .missing
      ∧ ofSettings .missing (.int 64) (.text "confidence-first") [Tags.family] = .ok missing
      ∧ missing.Hears twins .null .null twinGroup .empty [Tags.family]
      ∧ (∃ evaluation, missing.Evaluates twinGroup .empty [Tags.family] evaluation)
      ∧ Registry.missing.matching [Tags.family] twinGroup.words .empty = []
      ∧ (∃ entry miss,
        Registry.missing.FirstMiss [Tags.family] twinGroup.words .empty entry miss
          ∧ miss.reason = .datum (.int (Nat.pow 10 Number.digitLimit)))
      ∧ (missing.resolve twins .null .null).result = .error (.fault .overlongInteger) := by
  have hsound : missing.registry.Sound :=
    (Registry.sound_empty.ofSubmissions Registry.ofSubmissions_missing).freeze
  have hfew : (missing.registry.sharing [Tags.family]).length ≤ missing.limit := by
    show 1 ≤ 64
    decide
  have hreadable : ∀ entry ∈ missing.registry.sharing [Tags.family],
      entry.toRule.IsReadable twinGroup.words .empty := by
    intro entry hentry
    obtain rfl := List.mem_singleton.mp hentry
    exact ⟨_, Rule.asked?_missing _ _⟩
  have hcall : missing.Hears twins .null .null twinGroup .empty [Tags.family] := ⟨rfl, rfl, rfl⟩
  have hevaluation := evaluates_gathered hsound hfew hreadable
  have hempty := Registry.matching_missing twinGroup.words .empty
  have hfirst := Registry.firstMiss_missing twinGroup.words .empty
  refine ⟨Registry.ofSubmissions_missing, rfl, hcall, ⟨_, hevaluation⟩, hempty,
    ⟨_, _, hfirst, rfl⟩, ?_⟩
  have hlong : (Datum.int (Nat.pow 10 Number.digitLimit)).isOverlong = true :=
    Datum.isOverlong_natCast (Nat.le_refl _)
  rw [hcall.resolve_result, arbitrate_result_of_miss hsound hevaluation hempty
    (Registry.firstMiss_freeze.mpr hfirst), withoutRule, if_pos hlong]

end Engine

end SutraArbiter
