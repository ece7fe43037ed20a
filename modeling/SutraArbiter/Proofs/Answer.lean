import SutraArbiter.Proofs.Payload
import SutraArbiter.Proofs.Resolution

namespace SutraArbiter

namespace Registry

variable {registry : Registry} {policy : TieBreak} {tags : List String} {words : List Word}
  {context : Context} {standing : Standing}

theorem exists_of_mem_matching (h : standing ∈ registry.matching tags words context) :
    standing.entry ∈ registry.entries
      ∧ standing.entry.toRule.verdict words context = .ok standing.reply
      ∧ standing.reply.matched = true := by
  obtain ⟨entry, hentry, hstanding⟩ := List.mem_filterMap.mp h
  obtain ⟨hverdict, hmatched, -⟩ := Entry.standing?_eq_some.mp hstanding
  rw [Entry.entry_of_standing? hstanding]
  exact ⟨(mem_sharing.mp hentry).1, hverdict, hmatched⟩

/-- The rule that an answer applies stands among the rules of the scope that match. -/
theorem exists_of_ranked {governing : Standing} {others : List Standing}
    (h : Ruling.ranked policy (registry.matching tags words context) = governing :: others) :
    governing.entry ∈ registry.entries
      ∧ governing.entry.toRule.verdict words context = .ok governing.reply
      ∧ governing.reply.matched = true := by
  have hmem : governing ∈ registry.matching tags words context := by
    rw [← (Ruling.ranked_perm policy _).mem_iff, h]
    exact List.mem_cons_self
  exact exists_of_mem_matching hmem

end Registry

namespace Engine

variable {engine : Engine} {words flags scope : Datum} {group : WordGroup}
  {context : Context} {tags : List String} {envelope : Envelope}

/-- Input is rejected or heard. -/
theorem heard_of_resolve (h : (engine.resolve words flags scope).result = .ok envelope) :
    (∃ rejection, envelope = .ofRejection rejection)
      ∨ ∃ group context tags, engine.Hears words flags scope group context tags := by
  have hrejected : ∀ rejection : Rejection,
      (do noteRejection rejection flags; pure (Envelope.ofRejection rejection) :
        Logged Envelope).result = .ok envelope → envelope = .ofRejection rejection := by
    intro rejection hresult
    rw [rejection_result, Except.ok.injEq] at hresult
    exact hresult.symm
  unfold resolve at h
  cases hwords : WordGroup.read words with
  | error unusable =>
      rw [hwords] at h
      cases unusable with
      | rejected rejection => exact .inl ⟨rejection, hrejected rejection h⟩
      | fault fault => cases h
  | ok group =>
      rw [hwords] at h
      dsimp only at h
      cases hflags : readContext group.script flags with
      | error unusable =>
          rw [hflags] at h
          cases unusable with
          | rejected rejection => exact .inl ⟨rejection, hrejected rejection h⟩
          | fault fault => cases h
      | ok context =>
          rw [hflags] at h
          simp only [Logged.result_bind] at h
          obtain ⟨-, -, h⟩ := bind_eq_ok.mp h
          obtain ⟨tags, htags, -⟩ := bind_eq_ok.mp h
          exact .inr ⟨group, context, tags, hwords, hflags, mapError_eq_ok.mp htags⟩

theorem hears_of_applied (h : (engine.resolve words flags scope).result = .ok envelope)
    (happlied : envelope.applied = true) :
    ∃ group context tags, engine.Hears words flags scope group context tags := by
  rcases heard_of_resolve h with ⟨rejection, rfl⟩ | hheard
  · cases happlied
  · exact hheard

theorem evaluates_of_arbitrate (h : (engine.arbitrate group context tags).result = .ok envelope) :
    ∃ evaluation, engine.Evaluates group context tags evaluation := by
  unfold arbitrate at h
  simp only [Logged.result_bind] at h
  obtain ⟨-, -, h⟩ := bind_eq_ok.mp h
  obtain ⟨evaluation, hevaluation, -⟩ := bind_eq_ok.mp h
  exact ⟨evaluation, hevaluation⟩

theorem answer_of_arbitrate (hsound : engine.registry.Sound)
    (h : (engine.arbitrate group context tags).result = .ok envelope) :
    ∃ evaluation, engine.Evaluates group context tags evaluation
      ∧ (Ruling.mandatory
          (engine.registry.matching tags group.words context)).length < 2
      ∧ let ranking := Ruling.ranked engine.tieBreak
          (engine.registry.matching tags group.words context)
        answer group context evaluation ⟨ranking.head?, Ruling.traceOf ranking⟩ =
          .ok envelope := by
  obtain ⟨evaluation, hevaluation⟩ := evaluates_of_arbitrate h
  have hmandatory : (Ruling.mandatory
      (engine.registry.matching tags group.words context)).length < 2 := by
    by_contra hmany
    obtain ⟨ids, hambiguous⟩ := arbitrate_result_of_mandatory hsound hevaluation (by omega)
    rw [hambiguous] at h
    cases h
  rw [arbitrate_result_of_matching hsound hevaluation hmandatory] at h
  exact ⟨evaluation, hevaluation, hmandatory, h⟩

theorem arbitrate_applied (hsound : engine.registry.Sound)
    (h : (engine.arbitrate group context tags).result = .ok envelope)
    (happlied : envelope.applied = true) :
    ∃ evaluation governing others payload reason,
      engine.Evaluates group context tags evaluation
      ∧ (Ruling.mandatory
          (engine.registry.matching tags group.words context)).length < 2
      ∧ Ruling.ranked engine.tieBreak
          (engine.registry.matching tags group.words context) = governing :: others
      ∧ Execution.outcome? governing.entry.toRule group.words context governing.reply =
          .ok (.done payload)
      ∧ Envelope.reasonOf? governing = .ok reason
      ∧ envelope = .ofPayload governing reason payload (Ruling.traceOf (governing :: others))
          evaluation.diagnostics group.script := by
  obtain ⟨evaluation, hevaluation, hmandatory, hanswer⟩ := answer_of_arbitrate hsound h
  cases hranked : Ruling.ranked engine.tieBreak
      (engine.registry.matching tags group.words context) with
  | nil =>
      rw [hranked] at hanswer
      rw [(Envelope.unapplied_of_ofEvaluation? (mapError_eq_ok.mp hanswer)).1] at happlied
      cases happlied
  | cons governing others =>
      rw [hranked] at hanswer
      rcases applied?_eq_ok.mp (mapError_eq_ok.mp hanswer) with
        ⟨payload, reason, houtcome, hreason, rfl⟩ | ⟨told, -, rfl⟩
      · exact ⟨evaluation, governing, others, payload, reason, hevaluation, hmandatory, rfl,
          houtcome, hreason, rfl⟩
      · cases happlied

/-- A rule that judges by a plan and reports its selection is applied. -/
theorem applied?_of_standing {governing : Standing} {plan : Plan} {settings : Entries}
    (hplan : governing.entry.predicate = .plan plan)
    (haction : governing.entry.action = .retainSelection settings)
    (hplaced : Placed group.words)
    (hstanding : governing.entry.standing? group.words context = some governing)
    (trace : List Trace) (diagnostics : List Diagnostic) :
    ∃ selection reason,
      plan.judge group.words context = .ok (.selected selection governing.reply.confidence)
        ∧ Envelope.reasonOf? governing = .ok reason
        ∧ applied? group context governing trace diagnostics =
          .ok (.ofPayload governing reason (Payload.ofWords group.words selection settings) trace
            diagnostics group.script) := by
  obtain ⟨hverdict, hmatched, -⟩ := Entry.standing?_eq_some.mp hstanding
  obtain ⟨selection, hjudged, houtcome⟩ :=
    Execution.outcome_of_verdict hplan haction hplaced hverdict hmatched
  obtain ⟨given, hreason, -⟩ := Rule.verdict_reason hplan hverdict
  obtain ⟨reason, htold, happlied⟩ := applied?_of_done houtcome hreason trace diagnostics
  exact ⟨selection, reason, hjudged, htold, happlied⟩

end Engine

end SutraArbiter
