import SutraArbiter.Proofs.Answer
import SutraArbiter.Proofs.Conformance
import SutraArbiter.Proofs.Containment
import SutraArbiter.Proofs.Registry.History

namespace SutraArbiter

/-! An answer agrees with itself: what it says of the governing rule is what the first
line of its trace says, and written out as data it keeps its own names. -/

namespace Envelope

/-- A rule is applied, and it is the one that the line tells. -/
structure Applies (envelope : Envelope) (line : Trace) : Prop where
  applied : envelope.applied = true
  leads : envelope.trace.head? = some line
  ranks : line.rank = 1
  sutra : envelope.sutra = some line.ruleId
  confidence : envelope.confidence = line.confidence
  tier : envelope.tier = some line.tier
  mandatory : envelope.mandatory = true ↔ envelope.tier = some .mandatory
  error : envelope.error = none

/-- No rule is applied, and nothing is said of one. -/
structure Declines (envelope : Envelope) : Prop where
  applied : envelope.applied = false
  sutra : envelope.sutra = none
  tier : envelope.tier = none
  mandatory : envelope.mandatory = false
  confidence : envelope.confidence = .zero
  payload : envelope.payload = []
  error : envelope.error ≠ none → envelope.trace = [] ∧ envelope.diagnostics = []

/-- What stands under the names that an envelope keeps. -/
def own? (envelope : Envelope) : String → Option Datum
  | "applied" => some (.bool envelope.applied)
  | "sutra" => some (optionalText envelope.sutra)
  | "mandatory" => some (.bool envelope.mandatory)
  | "reason" => some envelope.reason
  | "confidence" => some (.float envelope.confidence)
  | "priority_class" => some (optionalText (envelope.tier.map Tier.name))
  | "explanation" => some (.text envelope.explanation)
  | "script" => some (optionalText (envelope.script.map Script.name))
  | "error" => envelope.error.map fun error => .text error.code
  | "trace" => some (.list (envelope.trace.map traceDatum))
  | "diagnostics" => some (.list (envelope.diagnostics.map diagnosticDatum))
  | _ => none

variable {envelope : Envelope} {script : Option Script} {governing : Standing}

theorem get?_toEntries_own (hfree : shadowed envelope.payload = []) {name : String}
    (hname : name ∈ reservedNames) : envelope.toEntries.get? name = envelope.own? name := by
  have hpayload := get?_payload_of_reserved hfree hname
  simp only [reservedNames, List.mem_cons, List.not_mem_nil, or_false] at hname
  rcases hname with rfl | rfl | rfl | rfl | rfl | rfl | rfl | rfl | rfl | rfl | rfl <;>
    simp [toEntries, Entries.get?_append, Entries.get?_cons_text, Entries.get?_nil,
      get?_errorEntries, hpayload, own?]

theorem payload_infix_toEntries (envelope : Envelope) :
    envelope.payload <:+: envelope.toEntries :=
  ⟨_, _, rfl⟩

/-- Only a text is the key of an entry that an envelope keeps. -/
theorem find?_toEntries_of_not_text {key : Datum} (hkey : key.isText = false) :
    envelope.toEntries.find? key = envelope.payload.find? key := by
  have hother : ∀ name : String, (Datum.text name).sameKey key = false := by
    intro name
    cases key <;> first | rfl | cases hkey
  have herror : List.find? (fun entry => entry.1.sameKey key) (errorEntries envelope.error) =
      none := by
    cases envelope.error <;> simp [errorEntries, hother]
  unfold Entries.find? toEntries
  simp [List.find?_append, hother, herror]

theorem find?_toEntries (hfree : shadowed envelope.payload = []) {key : Datum}
    (hfound : (envelope.payload.find? key).isSome = true) :
    envelope.toEntries.find? key = envelope.payload.find? key := by
  cases htext : key.isText with
  | false => exact find?_toEntries_of_not_text htext
  | true =>
      obtain ⟨name, rfl⟩ : ∃ name, key = .text name := by
        cases key <;> first | exact ⟨_, rfl⟩ | cases htext
      refine get?_toEntries fun hname => ?_
      have hnone : envelope.payload.find? (.text name) = none :=
        get?_payload_of_reserved hfree hname
      rw [hnone] at hfound
      cases hfound

theorem declines_ofRejection (rejection : Rejection) : (ofRejection rejection).Declines :=
  ⟨rfl, rfl, rfl, rfl, rfl, rfl, fun _ => ⟨rfl, rfl⟩⟩

theorem declines_ofEvaluation? {evaluation : Evaluation}
    (h : ofEvaluation? evaluation script = .ok envelope) :
    envelope.Declines ∧ envelope.trace = [] := by
  obtain ⟨reason, explanation, rfl, -⟩ := eq_of_ofEvaluation? h
  exact ⟨⟨rfl, rfl, rfl, rfl, rfl, rfl, fun herror => absurd rfl herror⟩, rfl⟩

theorem declines_ofFailedAction {trace : List Trace} {diagnostics : List Diagnostic} :
    (ofFailedAction governing trace diagnostics script).Declines :=
  ⟨rfl, rfl, rfl, rfl, rfl, rfl, fun herror => absurd rfl herror⟩

theorem applies_ofPayload {reason : Datum} {payload : Entries} {others : List Standing}
    {diagnostics : List Diagnostic} :
    (ofPayload governing reason payload (Ruling.traceOf (governing :: others)) diagnostics
      script).Applies (Ruling.traceLine governing 1) where
  applied := rfl
  leads := rfl
  ranks := rfl
  sutra := rfl
  confidence := rfl
  tier := rfl
  mandatory := by simp [ofPayload, Rule.isMandatory]
  error := rfl

end Envelope

theorem Execution.outcome_eq_done {rule : Rule} {words : List Word} {context : Context}
    {reply : Match} {payload : Entries} :
    outcome? rule words context reply = .ok (.done payload) ↔
      rule.action.perform words context reply = .ok (.datum (.map payload))
        ∧ shadowed payload = [] := by
  unfold outcome?
  constructor
  · intro h
    cases hperformed : rule.action.perform words context reply with
    | error raised => cases raised <;> rw [hperformed] at h <;> cases h
    | ok given =>
        rw [hperformed] at h
        cases given with
        | brittle fault => cases h
        | datum d =>
            have hdone : ofGiven rule.id d = .done payload := Except.ok.inj h
            unfold ofGiven at hdone
            split at hdone
            · cases hdone
            · rename_i checked hchecked
              obtain rfl := Execution.done.inj hdone
              obtain ⟨rfl, hfree⟩ := checkPayload_eq_ok.mp hchecked
              exact ⟨rfl, hfree⟩
  · rintro ⟨hperformed, hfree⟩
    have hchecked := checkPayload_eq_ok.mpr ⟨rfl, hfree⟩
    rw [hperformed]
    simp only [Value.look_datum, Except.map, ofGiven, hchecked]

namespace Engine

variable {engine : Engine} {words flags scope : Datum} {group other : WordGroup}
  {context unlike : Context} {tags : List String} {governing rival : Standing}
  {envelope : Envelope}

/-- The call is heard, and the rule of the standing governs it. -/
def IsGoverned (engine : Engine) (words flags scope : Datum) (group : WordGroup)
    (context : Context) (governing : Standing) : Prop :=
  ∃ tags, engine.Hears words flags scope group context tags
    ∧ Standing.Governs engine.tieBreak
      (engine.registry.matching tags group.words context) governing

/-- A call is heard in one way only. -/
theorem Hears.unique {others : List String}
    (h : engine.Hears words flags scope group context tags)
    (hother : engine.Hears words flags scope other unlike others) :
    group = other ∧ context = unlike ∧ tags = others := by
  obtain rfl := Except.ok.inj (h.words.symm.trans hother.words)
  exact ⟨rfl, Except.ok.inj (h.flags.symm.trans hother.flags),
    Except.ok.inj (h.scope.symm.trans hother.scope)⟩

theorem IsGoverned.unique (h : engine.IsGoverned words flags scope group context governing)
    (hrival : engine.IsGoverned words flags scope other unlike rival) :
    group = other ∧ context = unlike ∧ governing = rival := by
  obtain ⟨tags, hhears, hgoverns⟩ := h
  obtain ⟨others, hheard, hgoverned⟩ := hrival
  obtain ⟨rfl, rfl, rfl⟩ := hhears.unique hheard
  exact ⟨rfl, rfl, hgoverns.unique hgoverned⟩

/-- The action of the rule that governs the call fails. -/
def ActionFails (engine : Engine) (words flags scope : Datum) (governing : Standing)
    (told : Diagnostic) : Prop :=
  ∃ group context, engine.IsGoverned words flags scope group context governing
    ∧ Execution.outcome? governing.entry.toRule group.words context governing.reply =
      .ok (.failed told)

/-- The ways to an answer: the input is turned away, no rule governs, or one does and its
action is run. -/
inductive Answers (engine : Engine) (words flags scope : Datum) : Envelope → Prop
  | turnedAway (rejection : Rejection)
      (unheard : ∀ group context governing,
        ¬ engine.IsGoverned words flags scope group context governing) :
      Answers engine words flags scope (.ofRejection rejection)
  | ungoverned {evaluation : Evaluation} {script : Option Script} {envelope : Envelope}
      (told : Envelope.ofEvaluation? evaluation script = .ok envelope)
      (unmatched : ∀ group context governing,
        ¬ engine.IsGoverned words flags scope group context governing) :
      Answers engine words flags scope envelope
  | governed {group : WordGroup} {context : Context} {governing : Standing}
      {others : List Standing} {diagnostics : List Diagnostic} {envelope : Envelope}
      (governs : engine.IsGoverned words flags scope group context governing)
      (applies : applied? group context governing (Ruling.traceOf (governing :: others))
        diagnostics = .ok envelope) :
      Answers engine words flags scope envelope

theorem answers_of_resolve (hsound : engine.registry.Sound)
    (h : (engine.resolve words flags scope).result = .ok envelope) :
    engine.Answers words flags scope envelope := by
  by_cases hheard : ∃ group context tags, engine.Hears words flags scope group context tags
  · obtain ⟨group, context, tags, hhears⟩ := hheard
    rw [hhears.resolve_result] at h
    obtain ⟨evaluation, -, -, hanswer⟩ := answer_of_arbitrate hsound h
    have hperm := Ruling.ranked_perm engine.tieBreak
      (engine.registry.matching tags group.words context)
    cases hranked : Ruling.ranked engine.tieBreak
        (engine.registry.matching tags group.words context) with
    | nil =>
        rw [hranked] at hanswer hperm
        refine .ungoverned (mapError_eq_ok.mp hanswer) fun other unlike governing hgoverned => ?_
        obtain ⟨others, hother, hgoverns⟩ := hgoverned
        obtain ⟨rfl, rfl, rfl⟩ := hhears.unique hother
        have hmember := hgoverns.member
        rw [hperm.symm.eq_nil] at hmember
        cases hmember
    | cons governing others =>
        rw [hranked] at hanswer
        have hdistinct := hsound.distinct_matching tags group.words context
        have hgoverns := Ruling.governs_of_ranked hdistinct hranked
        exact .governed ⟨tags, hhears, hgoverns⟩ (mapError_eq_ok.mp hanswer)
  · rcases heard_of_resolve h with ⟨rejection, rfl⟩ | hheard'
    · refine .turnedAway rejection fun group context governing hgoverned => hheard ?_
      obtain ⟨tags, hhears, -⟩ := hgoverned
      exact ⟨group, context, tags, hhears⟩
    · exact absurd hheard' hheard

theorem shadowed_of_answers (h : engine.Answers words flags scope envelope) :
    shadowed envelope.payload = [] := by
  cases h with
  | turnedAway => exact List.filter_eq_nil_iff.mpr fun name _ => Bool.false_ne_true
  | ungoverned told =>
      rw [(Envelope.declines_ofEvaluation? told).1.payload]
      exact List.filter_eq_nil_iff.mpr fun name _ => Bool.false_ne_true
  | governed governs applies =>
      rcases applied?_eq_ok.mp applies with ⟨payload, reason, hdone, -, rfl⟩ | ⟨told, -, rfl⟩
      · exact (Execution.outcome_eq_done.mp hdone).2
      · exact List.filter_eq_nil_iff.mpr fun name _ => Bool.false_ne_true

/-- Whatever is done to a registry and whatever its rules do, an answer agrees with itself.
If a rule is applied, it governs, and the answer tells of it what the first line of the
trace tells, with what its action gave as payload.  If none is, nothing is told of one, and
there is a trace just when the action of the governing rule failed, which is then the last
thing reported.  As data the envelope has its own values under its own names, and all of
the payload besides. -/
theorem resolve_coherent {operations : List Registry.Operation} {limit tieBreak : Datum}
    {defaultScope : List String}
    (hengine : ofSettings (Registry.empty.afterAll operations) limit tieBreak defaultScope =
      .ok engine)
    (hresult : (engine.resolve words flags scope).result = .ok envelope) :
    ((∃ group context governing, engine.IsGoverned words flags scope group context governing
          ∧ envelope.Applies (Ruling.traceLine governing 1)
          ∧ governing.entry.action.perform group.words context governing.reply =
            .ok (.datum (.map envelope.payload)))
        ∨ envelope.Declines
          ∧ (envelope.trace ≠ [] ↔
            ∃ governing told, engine.ActionFails words flags scope governing told)
          ∧ ∀ governing told, engine.ActionFails words flags scope governing told →
            envelope.trace.head? = some (Ruling.traceLine governing 1)
              ∧ envelope.diagnostics.getLast? = some told
              ∧ told.code = .actionFailure ∧ told.ruleId = governing.entry.id)
      ∧ (∀ name ∈ Envelope.reservedNames, envelope.toEntries.get? name = envelope.own? name)
      ∧ envelope.payload <:+: envelope.toEntries
      ∧ ∀ key, (envelope.payload.find? key).isSome = true →
        envelope.toEntries.find? key = envelope.payload.find? key := by
  have hsound : engine.registry.Sound := by
    rw [registry_of_settings hengine]
    exact (Registry.sound_afterAll operations).freeze
  have hanswers := answers_of_resolve hsound hresult
  have hfree := shadowed_of_answers hanswers
  refine ⟨?_, fun name => Envelope.get?_toEntries_own hfree, envelope.payload_infix_toEntries,
    fun key => Envelope.find?_toEntries hfree⟩
  -- Without a rule that governs no action is run.
  have hidle (h : ∀ group context governing,
      ¬ engine.IsGoverned words flags scope group context governing) (governing : Standing)
      (told : Diagnostic) : ¬ engine.ActionFails words flags scope governing told :=
    fun ⟨group, context, hgoverned, _⟩ => h group context governing hgoverned
  cases hanswers with
  | turnedAway rejection unheard =>
      refine .inr ⟨Envelope.declines_ofRejection rejection, ⟨fun h => absurd rfl h, ?_⟩, ?_⟩
      · rintro ⟨governing, told, hfails⟩
        exact absurd hfails (hidle unheard governing told)
      · exact fun governing told hfails => absurd hfails (hidle unheard governing told)
  | ungoverned told unmatched =>
      obtain ⟨hdeclines, htrace⟩ := Envelope.declines_ofEvaluation? told
      refine .inr ⟨hdeclines, ⟨fun h => absurd htrace h, ?_⟩, ?_⟩
      · rintro ⟨governing, told, hfails⟩
        exact absurd hfails (hidle unmatched governing told)
      · exact fun governing told hfails => absurd hfails (hidle unmatched governing told)
  | @governed group context governing others diagnostics _ governs applies =>
      rcases applied?_eq_ok.mp applies with
        ⟨payload, reason, hdone, -, rfl⟩ | ⟨told, hfailed, rfl⟩
      · have hperformed := (Execution.outcome_eq_done.mp hdone).1
        exact .inl ⟨group, context, governing, governs, Envelope.applies_ofPayload, hperformed⟩
      · refine .inr ⟨Envelope.declines_ofFailedAction, ⟨fun _ => ?_, fun _ => ?_⟩, ?_⟩
        · exact ⟨governing, told, group, context, governs, hfailed⟩
        · exact List.cons_ne_nil _ _
        · rintro rival other ⟨_, _, hgoverned, hfails⟩
          obtain ⟨rfl, rfl, rfl⟩ := governs.unique hgoverned
          obtain rfl : told = other :=
            Execution.failed.inj (Except.ok.inj (hfailed.symm.trans hfails))
          exact ⟨rfl, List.getLast?_concat, Execution.told_of_failed hfailed⟩

end Engine

def Rule.acting (given : Except Raised Value) : Rule :=
  { steady "1.1.1" .one with action := .custom fun _ _ _ => given }

namespace Registry

def acting (given : Except Raised Value) : Registry where
  entries := [⟨.acting given, 0⟩]
  shelves := [(Tags.family, [⟨.acting given, 0⟩])]
  frozen := false

theorem afterAll_acting (given : Except Raised Value) :
    empty.afterAll [.register (.draft (Rule.acting given).draft)] = acting given := by
  have hrule : (Rule.acting given).draft.toRule = .ok (Rule.acting given) := by
    have hid : Numeral.isDotted "1.1.1".toList = true := by decide
    refine Draft.toRule_draft hid (List.cons_ne_nil _ _) ?_ ?_
    · intro tag htag
      obtain rfl := List.mem_singleton.mp htag
      exact Draft.tag?_text (by decide) (by decide)
    · simp [Rule.acting, Rule.steady, Tags.sorted, List.eraseDups_cons]
  have hregister : empty.register (.draft (Rule.acting given).draft) =
      .ok (empty.enter (.acting given)) :=
    register_eq_ok.mpr ⟨rfl, _, hrule, rfl, rfl⟩
  exact after_of_register hregister

end Registry

namespace Engine

def acting (given : Except Raised Value) : Engine :=
  ⟨(Registry.acting given).freeze, 64, .confidenceFirst, [Tags.family]⟩

/-- The rule governs, so that the answer hangs on its action alone. -/
theorem resolve_acting (given : Except Raised Value) : ∃ governing diagnostics,
    governing.entry = ⟨.acting given, 0⟩
      ∧ ((acting given).resolve twins (.map []) .null).result =
        (applied? twinGroup .empty governing (Ruling.traceOf [governing])
          diagnostics).mapError .fault := by
  have hsound : (acting given).registry.Sound := by
    have hsound := Registry.sound_afterAll [.register (.draft (Rule.acting given).draft)]
    rw [Registry.afterAll_acting] at hsound
    exact hsound.freeze
  have hsharing : (acting given).registry.sharing [Tags.family] =
      [⟨.acting given, 0⟩] := rfl
  have hsteady : (Rule.acting given).asked? twinGroup.words .empty =
      (Rule.steady "1.1.1" .one).asked? twinGroup.words .empty := by
    simp only [Rule.asked?, Rule.acting]
  obtain ⟨reply, hasked, hmatched⟩ : ∃ reply,
      (Rule.acting given).asked? twinGroup.words .empty = .ok (.ok reply)
        ∧ reply.matched = true :=
    ⟨_, hsteady.trans (Rule.asked?_steady "1.1.1" rfl Double.isShare_one), rfl⟩
  have hverdict := Rule.verdict_of_asked? hasked
  obtain ⟨governing, hentry, hmatching⟩ : ∃ governing : Standing,
      governing.entry = ⟨.acting given, 0⟩
        ∧ (acting given).registry.matching [Tags.family] twinGroup.words .empty =
          [governing] := by
    unfold Registry.matching
    rw [hsharing]
    simp [Entry.standing?, hverdict, hmatched]
  have hreadable : ∀ entry ∈ (acting given).registry.sharing [Tags.family],
      entry.toRule.IsReadable twinGroup.words .empty := by
    intro entry hentry
    rw [hsharing] at hentry
    obtain rfl := List.mem_singleton.mp hentry
    exact ⟨_, hasked⟩
  have hfew : ((acting given).registry.sharing [Tags.family]).length ≤ (acting given).limit := by
    rw [hsharing]
    show 1 ≤ 64
    decide
  have hcall : (acting given).Hears twins (.map []) .null twinGroup .empty [Tags.family] :=
    ⟨rfl, rfl, rfl⟩
  have hresult := arbitrate_result_of_singleton hsound
    (evaluates_gathered hsound hfew hreadable) hmatching
  exact ⟨governing, _, hentry, hcall.resolve_result.trans hresult⟩

/-- What an action gives that would pass for another rule. -/
def passingOff : Except Raised Value :=
  .ok (.datum (.map [(.text "note", .text "kept"), (.text "sutra", .text "9.9.9")]))

/-- The action takes a name that the envelope keeps: it is reported as failed, in an answer
that applies no rule and still ranks the one that governs. -/
theorem resolve_coherent_passingOff :
    ofSettings (Registry.empty.afterAll [.register (.draft (Rule.acting passingOff).draft)])
        (.int 64) (.text "confidence-first") [Tags.family] = .ok (acting passingOff)
      ∧ ∃ envelope,
        ((acting passingOff).resolve twins (.map []) .null).result = .ok envelope
          ∧ envelope.applied = false
          ∧ envelope.toEntries.get? "sutra" = some .null
          ∧ ∃ line told, envelope.trace.head? = some line ∧ line.rank = 1
            ∧ envelope.diagnostics.getLast? = some told
            ∧ told.code = .actionFailure ∧ told.ruleId = line.ruleId := by
  have hengine : ofSettings
      (Registry.empty.afterAll [.register (.draft (Rule.acting passingOff).draft)])
      (.int 64) (.text "confidence-first") [Tags.family] = .ok (acting passingOff) := by
    rw [Registry.afterAll_acting]
    rfl
  obtain ⟨governing, diagnostics, hentry, hresult⟩ := resolve_acting passingOff
  obtain ⟨told, hfailed⟩ : ∃ told, Execution.outcome? governing.entry.toRule twinGroup.words .empty
      governing.reply = .ok (.failed told) := by
    rw [hentry]
    exact ⟨_, rfl⟩
  rw [applied?_eq_ok.mpr (.inr ⟨told, hfailed, rfl⟩)] at hresult
  obtain ⟨hcases, hown, -, -⟩ := resolve_coherent hengine hresult
  refine ⟨hengine, _, hresult, rfl, ?_, ?_⟩
  · rw [hown "sutra" (by decide)]
    rfl
  · rcases hcases with ⟨_, _, _, -, happlies, -⟩ | ⟨-, htrace, hfailure⟩
    · cases happlies.applied
    · obtain ⟨rival, told, hfails⟩ := htrace.mp (List.cons_ne_nil _ _)
      obtain ⟨hhead, hlast, hcode, hid⟩ := hfailure rival told hfails
      exact ⟨_, told, hhead, rfl, hlast, hcode, hid⟩

end Engine

end SutraArbiter
