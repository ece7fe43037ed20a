import SutraArbiter.Proofs.Answer
import SutraArbiter.Proofs.Pack.Answer

namespace SutraArbiter

/-! A rule that was read never fails on words and flags that can be written out, and
so the answers of a pack report no failure. -/

namespace Rule

variable {rule : Rule} {words : List Word} {context : Context}

theorem isCompiled_of_read {source : String} {d : Datum} (h : Rule.read source d = .ok rule) :
    rule.IsCompiled := by
  refine ⟨source, rule, ?_, rfl, rfl⟩
  rwa [← Rule.definition_of_read h]

/-- A planned rule answers in form; when it matches, its action gives a payload. -/
theorem IsPlanned.answers (hplanned : rule.IsPlanned) (hclear : ∀ word ∈ words, word.IsClear)
    (hcontext : context.IsClear) (hplaced : Placed words) :
    ∃ report accepted, rule.predicate.answer words context = .ok (.report report)
      ∧ report.toMatch? rule.id = .ok (.ok accepted)
      ∧ (accepted.matched = true → ∃ payload,
        rule.action.perform words context accepted = .ok (.datum (.map payload))
          ∧ checkPayload (.map payload) = .ok payload) := by
  obtain ⟨plan, settings, hplan, haction, hproper⟩ := hplanned
  have hjudged := Plan.judge_eq_ok hproper hclear hcontext
  obtain ⟨accepted, haccepted⟩ := Plan.exists_verdict hproper rule.id words context
  obtain ⟨reading, hreading, hverdict⟩ :=
    Finding.toMatch?_report rule.id (plan.finding words context)
  rw [haccepted] at hverdict
  obtain rfl := mapError_eq_ok.mp hverdict.symm
  refine ⟨(plan.finding words context).report, accepted, ?_, hreading, fun hmatched => ?_⟩
  · rw [hplan]
    simp only [Predicate.answer, hjudged]
    rfl
  · obtain ⟨selection, hfinding, hextracted⟩ := Finding.verdict_matched haccepted hmatched
    rw [hfinding] at hjudged
    have hdivides := (Plan.divides_of_judge hplaced hjudged).1
    exact ⟨_, Execution.perform_retainSelection context haction hextracted hdivides,
      Execution.checkPayload_ofWords words selection settings⟩

theorem IsPlanned.failure?_eq_none (hplanned : rule.IsPlanned)
    (hclear : ∀ word ∈ words, word.IsClear) (hcontext : context.IsClear) :
    rule.failure? words context = none := by
  obtain ⟨plan, -, hplan, -, hproper⟩ := hplanned
  obtain ⟨accepted, haccepted⟩ := Plan.exists_verdict hproper rule.id words context
  unfold failure?
  rw [verdict_plan hplan hproper hclear hcontext, haccepted]

end Rule

theorem Envelope.diagnostics_ofEvaluation? {evaluation : Evaluation} {envelope : Envelope}
    {script : Option Script} (h : ofEvaluation? evaluation script = .ok envelope) :
    envelope.diagnostics = evaluation.diagnostics := by
  obtain ⟨reason, explanation, rfl, -⟩ := eq_of_ofEvaluation? h
  rfl

namespace Engine

variable {engine : Engine} {group : WordGroup} {context : Context} {tags : List String}
  {envelope : Envelope}

theorem diagnostics_of_arbitrate (hsound : engine.registry.Sound)
    (hplanned : ∀ entry ∈ engine.registry.entries, entry.toRule.IsPlanned)
    (hclear : ∀ word ∈ group.words, word.IsClear) (hcontext : context.IsClear)
    (hplaced : Placed group.words)
    (h : (engine.arbitrate group context tags).result = .ok envelope) :
    envelope.diagnostics = [] := by
  obtain ⟨evaluation, hevaluation, -, hanswer⟩ := answer_of_arbitrate hsound h
  have hnone : evaluation.diagnostics = [] := by
    rw [hevaluation.eq_gathered]
    refine List.filterMap_eq_nil_iff.mpr fun rule hrule => ?_
    obtain ⟨entry, hentry, rfl⟩ := List.mem_map.mp hrule
    have hmem := (Registry.mem_sharing.mp (hsound.mem_candidates.mp hentry)).1
    exact (hplanned entry hmem).failure?_eq_none hclear hcontext
  cases hranked : Ruling.ranked engine.tieBreak
      (engine.registry.matching tags group.words context) with
  | nil =>
      rw [hranked] at hanswer
      rw [Envelope.diagnostics_ofEvaluation? (mapError_eq_ok.mp hanswer), hnone]
  | cons governing others =>
      obtain ⟨hentry, hverdict, hmatched⟩ := Registry.exists_of_ranked hranked
      obtain ⟨plan, settings, hplan, haction, -⟩ := hplanned _ hentry
      obtain ⟨selection, -, hdone⟩ :=
        Execution.outcome_of_verdict hplan haction hplaced hverdict hmatched
      rw [hranked] at hanswer
      have happlied : applied? group context governing (Ruling.traceOf (governing :: others))
          evaluation.diagnostics = .ok envelope := mapError_eq_ok.mp hanswer
      rcases applied?_eq_ok.mp happlied with ⟨payload, reason, -, -, rfl⟩ | ⟨told, hfailed, -⟩
      · exact hnone
      · rw [hdone] at hfailed
        cases hfailed

theorem diagnostics_of_resolve {words flags scope : Datum} (hsound : engine.registry.Sound)
    (hplanned : ∀ entry ∈ engine.registry.entries, entry.toRule.IsPlanned)
    (hwords : words.isOverlong = false) (hflags : flags.isOverlong = false)
    (h : (engine.resolve words flags scope).result = .ok envelope) :
    envelope.diagnostics = [] := by
  rcases heard_of_resolve h with ⟨rejection, rfl⟩ | ⟨group, context, tags, hcall⟩
  · rfl
  · rw [hcall.resolve_result] at h
    obtain ⟨items, hitems⟩ := WordGroup.exists_items hcall.words
    have hclear := WordGroup.isClear_of_read hitems (WordGroup.isOverlong_of_items hwords hitems)
      hcall.words
    exact diagnostics_of_arbitrate hsound hplanned hclear
      (isClear_of_readContext hflags hcall.flags) (WordGroup.placed_of_read hcall.words) h

end Engine

/-- What the grammar accepts is enough: a rule that was read answers every group and
every mapping that can be written out, in form and with a payload when it matches.
So no answer that a pack of such rules gives has diagnostics. -/
theorem Rule.answers_of_read :
    (∀ (source : String) (d : Datum) (rule : Rule),
      Rule.read source d = .ok rule → d.IsProper →
      ∀ (words : Datum) (flags : Entries) (group : WordGroup),
        WordGroup.read words = .ok group →
        words.isOverlong = false → (Datum.map flags).isOverlong = false →
        ∃ context report accepted, Context.read (.map flags) = .ok context
          ∧ rule.predicate.answer group.words context = .ok (.report report)
          ∧ report.toMatch? rule.id = .ok (.ok accepted)
          ∧ (accepted.matched = true → ∃ payload,
            rule.action.perform group.words context accepted = .ok (.datum (.map payload))
              ∧ checkPayload (.map payload) = .ok payload))
      ∧ ∀ (files : Files) (source : Source) (choice : Choice) (registry : Registry)
          (limit tieBreak : Datum) (defaultScope : List String) (engine : Engine)
          (words flags scope : Datum) (envelope : Envelope),
        (Pack.load files source choice).result = .ok registry →
        (∀ entry ∈ registry.entries, (Datum.map entry.definition).IsProper) →
        Engine.ofSettings registry limit tieBreak defaultScope = .ok engine →
        words.isOverlong = false → flags.isOverlong = false →
        (engine.resolve words flags scope).result = .ok envelope →
        envelope.diagnostics = [] := by
  refine ⟨?_, ?_⟩
  · intro source d rule hread hproper words flags group hwords hclear hflags
    obtain ⟨items, hitems⟩ := WordGroup.exists_items hwords
    obtain ⟨context, hcontext⟩ := Context.exists_read fun entry hentry =>
      (Datum.isOverlong_map_eq_false.mp hflags entry hentry).1
    rw [Rule.definition_of_read hread] at hproper
    have hplanned : rule.IsPlanned := (isCompiled_of_read hread).exists_plan hproper
    obtain ⟨report, accepted, hanswer⟩ := hplanned.answers
      (WordGroup.isClear_of_read hitems (WordGroup.isOverlong_of_items hclear hitems) hwords)
      (Context.isClear_of_read hflags hcontext) (WordGroup.placed_of_read hwords)
    exact ⟨context, report, accepted, hcontext, hanswer⟩
  · intro files source choice registry limit tieBreak defaultScope engine words flags scope
      envelope hload hproper hengine hwords hflags h
    have hregistry := Engine.registry_of_settings hengine
    have hsound : engine.registry.Sound := by
      rw [hregistry]
      exact (Pack.sound_of_load hload).freeze
    refine Engine.diagnostics_of_resolve hsound (fun entry hentry => ?_) hwords hflags h
    rw [hregistry] at hentry
    exact (Pack.isCompiled_of_load hload entry hentry).exists_plan (hproper entry hentry)

/-- The bundled rule of pronouns matches a pronoun and a noun and gives a payload, and
the bundled pack answers them without diagnostics. -/
theorem Rule.answers_of_read_pronouns : ∃ rule context report accepted payload registry envelope,
    Rule.read "1.2.72.yaml" Pack.pronouns = .ok rule
      ∧ rule.predicate.answer Pack.pronounAndNoun.words context = .ok (.report report)
      ∧ report.toMatch? rule.id = .ok (.ok accepted) ∧ accepted.matched = true
      ∧ rule.action.perform Pack.pronounAndNoun.words context accepted =
        .ok (.datum (.map payload))
      ∧ checkPayload (.map payload) = .ok payload
      ∧ (Pack.load ⟨"", []⟩ .bundled .everything).result = .ok registry
      ∧ ((Pack.usualEngine registry.freeze).resolve (Datum.ofStrings ["tat", "rama"])
          (.map []) .null).result = .ok envelope
      ∧ envelope.applied = true ∧ envelope.diagnostics = [] := by
  have hread := Pack.read_pronounAndNoun
  have hwords : (Datum.ofStrings ["tat", "rama"]).isOverlong = false := by decide
  have hflags : (Datum.map []).isOverlong = false := by decide
  have hpronoun : ∃ word ∈ Pack.pronounAndNoun.words, Pack.isPronoun word = true := by decide
  obtain ⟨hrules, hpacks⟩ := answers_of_read
  -- The rule of its own.
  obtain ⟨rule, hrule, hfits⟩ := Pack.reads_pronouns
  have hproper : Pack.pronouns.IsProper := ⟨by decide +kernel, by decide⟩
  obtain ⟨context, report, accepted, hcontext, hanswer, haccepted, hpayload⟩ :=
    hrules _ _ rule hrule hproper _ [] _ hread hwords hflags
  have hreading : (Reply.report report).toMatch? rule.id = .ok (.ok accepted) := haccepted
  have hverdict : rule.verdict Pack.pronounAndNoun.words context = .ok accepted :=
    verdict_of_asked? (asked?_of_reply hanswer hreading)
  have hmatched : accepted.matched = true := by
    have hdefinition : (Datum.map rule.definition).IsProper := definition_of_read hrule ▸ hproper
    obtain ⟨plan, -, hplan, -, hplanProper⟩ :=
      (isCompiled_of_read hrule).exists_plan hdefinition
    obtain rfl := Predicate.plan.inj (hfits.predicate.symm.trans hplan)
    rw [verdict_plan hplan hplanProper Pack.isClear_pronounAndNoun
      (Context.isClear_of_read hflags hcontext),
      Pack.finding_pronouns (WordGroup.placed_of_read hread) context hpronoun,
      Finding.verdict] at hverdict
    split at hverdict
    · cases hverdict
    · cases hverdict
      rfl
  obtain ⟨payload, hperformed, hchecked⟩ := hpayload hmatched
  -- The rule in its pack.
  obtain ⟨registry, envelope, hload, hbundled, hengine, hresult, happlied, -⟩ :=
    Pack.exists_pronounAndNoun
  have hnone := hpacks _ _ _ _ _ _ _ _ _ _ _ _ hload hbundled.proper hengine hwords hflags
    hresult
  exact ⟨rule, context, report, accepted, payload, registry, envelope, hrule, hanswer, haccepted,
    hmatched, hperformed, hchecked, hload, hresult, happlied, hnone⟩

end SutraArbiter
