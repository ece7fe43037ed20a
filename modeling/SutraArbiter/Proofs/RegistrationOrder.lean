import SutraArbiter.Proofs.Containment
import SutraArbiter.Proofs.Registry.Rearrangement
import SutraArbiter.Proofs.Ruling

namespace SutraArbiter

/-! The order in which rules are registered decides between rules that tie completely,
and nothing else. -/

/-- Of one tier, with as many active tags and the same confidence. -/
def Trace.Ties (x y : Trace) : Prop :=
  x.tier = y.tier ∧ x.specificity = y.specificity ∧ x.confidence.level = y.confidence.level

/-- No other rule that matches ties with the rule that governs. -/
def Envelope.IsUntied (envelope : Envelope) : Prop :=
  ∀ line ∈ envelope.trace, ∀ rival ∈ envelope.trace, envelope.sutra = some line.ruleId →
    rival.ruleId ≠ line.ruleId → ¬ line.Ties rival

namespace Ruling

variable {ranking : List Standing} {standing : Standing} {line : Trace}

theorem exists_mem_traceOf (h : standing ∈ ranking) :
    ∃ rank, traceLine standing rank ∈ traceOf ranking := by
  obtain ⟨place, hplace, rfl⟩ := List.mem_iff_getElem.mp h
  rw [traceOf_eq_mapIdx]
  exact ⟨place + 1, List.mem_mapIdx.mpr ⟨place, hplace, rfl⟩⟩

theorem exists_of_mem_traceOf (h : line ∈ traceOf ranking) :
    ∃ standing ∈ ranking, ∃ rank, line = traceLine standing rank := by
  rw [traceOf_eq_mapIdx] at h
  obtain ⟨place, hplace, hline⟩ := List.mem_mapIdx.mp h
  exact ⟨ranking[place], List.getElem_mem hplace, place + 1, hline.symm⟩

end Ruling

namespace Envelope

theorem isUntied_ofPayload {ranking : List Standing} {governing : Standing}
    (hgoverning : governing ∈ ranking)
    (hunique : ∀ x ∈ ranking, x.entry.id = governing.entry.id → x = governing)
    (reason : Datum) (payload : Entries) (diagnostics : List Diagnostic)
    (script : Option Script) :
    (ofPayload governing reason payload (Ruling.traceOf ranking) diagnostics script).IsUntied ↔
      ∀ rival ∈ ranking, rival ≠ governing → ¬ governing.Ties rival := by
  constructor
  · intro huntied rival hrival hne
    obtain ⟨rank, hline⟩ := Ruling.exists_mem_traceOf hgoverning
    obtain ⟨place, hother⟩ := Ruling.exists_mem_traceOf hrival
    exact huntied _ hline _ hother rfl fun hid => hne (hunique rival hrival hid)
  · intro halone line hline other hother hsutra hne
    obtain ⟨standing, hstanding, rank, rfl⟩ := Ruling.exists_of_mem_traceOf hline
    obtain ⟨rival, hrival, place, rfl⟩ := Ruling.exists_of_mem_traceOf hother
    obtain rfl := hunique standing hstanding (Option.some.inj hsutra).symm
    exact halone rival hrival fun hsame => hne (congrArg (fun x => x.entry.id) hsame)

end Envelope

theorem Envelope.ofPayload_of_unplaced {x y : Standing} (h : x.unplaced = y.unplaced)
    (reason : Datum) (payload : Entries) (trace trace' : List Trace)
    (diagnostics diagnostics' : List Diagnostic) (script : Option Script) :
    ofPayload x reason payload trace diagnostics script =
      { ofPayload y reason payload trace' diagnostics' script with trace, diagnostics } := by
  have hx : ofPayload x reason payload trace diagnostics script =
      ofPayload x.unplaced reason payload trace diagnostics script := rfl
  rw [hx, h]
  rfl

namespace Engine

variable {engine : Engine} {group : WordGroup} {context : Context} {tags : List String}
  {evaluation : Evaluation} {words flags scope : Datum} {envelope : Envelope}

theorem arbitrate_eq_exhausted_iff (hsound : engine.registry.Sound) {count ceiling : Nat} :
    (engine.arbitrate group context tags).result = .error (.exhausted count ceiling) ↔
      engine.limit < (engine.registry.sharing tags).length
        ∧ count = (engine.registry.sharing tags).length ∧ ceiling = engine.limit := by
  constructor
  · intro h
    have hends := ends_arbitrate hsound group context tags
    rw [h] at hends
    generalize hresult : Except.error (Failure.exhausted count ceiling) = result at hends
    cases hends with
    | crowded many =>
        cases hresult
        exact ⟨many, rfl, rfl⟩
    | unmatched =>
        obtain ⟨fault, -, hfault⟩ := mapError_eq_error.mp hresult.symm
        cases hfault
    | governed =>
        obtain ⟨fault, -, hfault⟩ := mapError_eq_error.mp hresult.symm
        cases hfault
    | broken | rivals => cases hresult
  · rintro ⟨hmany, rfl, rfl⟩
    exact arbitrate_result_of_lt hmany hsound

theorem evaluates_of_ambiguous (hsound : engine.registry.Sound) {ids : List String}
    (h : (engine.arbitrate group context tags).result = .error (.ambiguous ids)) :
    ∃ evaluation, engine.Evaluates group context tags evaluation := by
  have hends := ends_arbitrate hsound group context tags
  rw [h] at hends
  generalize hresult : Except.error (Failure.ambiguous ids) = result at hends
  cases hends with
  | rivals evaluates => exact ⟨_, evaluates⟩
  | unmatched evaluates => exact ⟨_, evaluates⟩
  | governed evaluates => exact ⟨_, evaluates⟩
  | crowded | broken => cases hresult

/-- Mandatory rules are found to be rivals once every rule of the scope has answered. -/
theorem arbitrate_eq_ambiguous (hsound : engine.registry.Sound) {ids : List String}
    (h : (engine.arbitrate group context tags).result = .error (.ambiguous ids)) :
    (∃ evaluation, engine.Evaluates group context tags evaluation)
      ∧ 2 ≤ (Ruling.mandatory (engine.registry.matching tags group.words context)).length
      ∧ ids.Perm ((Ruling.mandatory (engine.registry.matching tags group.words context)).map
        fun standing => standing.entry.id) := by
  obtain ⟨evaluation, hevaluation⟩ := evaluates_of_ambiguous hsound h
  have hrivals := (arbitrate_ambiguous_iff hsound hevaluation).mp ⟨ids, h⟩
  have hperm := hsound.standings_perm tags group.words context
  refine ⟨⟨evaluation, hevaluation⟩, hrivals, ?_⟩
  rw [arbitrate_result hsound hevaluation, Ruling.result_ofStandings_of_mandatory] at h
  · cases h
    exact (hperm.filter _).map _
  · rwa [Ruling.length_mandatory_of_perm hperm]

/-- Engines that differ in the places of their rules only. -/
structure Rearranges (first second : Engine) : Prop where
  registry : first.registry.Rearranges second.registry
  limit : first.limit = second.limit
  tieBreak : first.tieBreak = second.tieBreak
  defaultScope : first.defaultScope = second.defaultScope

variable {first second : Engine}

theorem Rearranges.symm (h : first.Rearranges second) : second.Rearranges first :=
  ⟨h.registry.symm, h.limit.symm, h.tieBreak.symm, h.defaultScope.symm⟩

theorem Rearranges.exists_evaluates (h : first.Rearranges second)
    (hevaluation : first.Evaluates group context tags evaluation) :
    ∃ others, second.Evaluates group context tags others := by
  obtain ⟨hlimit, hreadable, -⟩ := Evaluation.ofCandidates_eq_ok.mp hevaluation
  have hsound := h.registry.sound
  rw [List.length_map, (hsound.candidates_perm tags).length_eq, h.limit,
    h.registry.length_sharing] at hlimit
  have hsharing : ∀ entry ∈ first.registry.sharing tags,
      entry.toRule.IsReadable group.words context := by
    intro entry hentry
    exact hreadable _ (List.mem_map_of_mem (hsound.mem_candidates.mpr hentry))
  exact ⟨_, evaluates_gathered h.registry.resound hlimit (h.registry.forall_sharing hsharing)⟩

theorem Rearranges.arbitrate_exhausted (h : first.Rearranges second) {count ceiling : Nat} :
    (first.arbitrate group context tags).result = .error (.exhausted count ceiling) ↔
      (second.arbitrate group context tags).result = .error (.exhausted count ceiling) := by
  rw [arbitrate_eq_exhausted_iff h.registry.sound, arbitrate_eq_exhausted_iff h.registry.resound,
    h.registry.length_sharing, h.limit]

/-- The same mandatory rules are told to be rivals. -/
theorem Rearranges.arbitrate_ambiguous (h : first.Rearranges second) {ids : List String}
    (hresult : (first.arbitrate group context tags).result = .error (.ambiguous ids)) :
    ∃ others, others.Perm ids
      ∧ (second.arbitrate group context tags).result = .error (.ambiguous others) := by
  obtain ⟨⟨evaluation, hevaluation⟩, hrivals, hids⟩ :=
    arbitrate_eq_ambiguous h.registry.sound hresult
  obtain ⟨reevaluation, hreevaluation⟩ := h.exists_evaluates hevaluation
  rw [h.registry.length_mandatory] at hrivals
  obtain ⟨others, hambiguous⟩ :=
    arbitrate_result_of_mandatory h.registry.resound hreevaluation hrivals
  obtain ⟨-, -, hothers⟩ := arbitrate_eq_ambiguous h.registry.resound hambiguous
  have hsame := h.registry.mandatory_perm tags group.words context
  exact ⟨others, hothers.trans (hsame.symm.trans hids.symm), hambiguous⟩

/-- An answer in which the governing rule is not tied is given whatever the order, but for
what it tells of the other rules. -/
theorem Rearranges.arbitrate_applied (h : first.Rearranges second)
    (hpolicy : first.tieBreak = .confidenceFirst)
    (hresult : (first.arbitrate group context tags).result = .ok envelope)
    (happlied : envelope.applied = true) (huntied : envelope.IsUntied) :
    ∃ trace diagnostics, (second.arbitrate group context tags).result =
      .ok { envelope with trace, diagnostics } := by
  have hsound := h.registry.sound
  have hresound := h.registry.resound
  obtain ⟨evaluation, governing, others, payload, reason, hevaluation, hmandatory, hranked,
    hexecution, hreason, rfl⟩ := Engine.arbitrate_applied hsound hresult happlied
  obtain ⟨reevaluation, hreevaluation⟩ := h.exists_evaluates hevaluation
  have hdistinct := hsound.distinct_matching tags group.words context
  have hgoverns := Ruling.governs_of_ranked hdistinct hranked
  have hranking : ∀ standing, standing ∈ governing :: others ↔
      standing ∈ first.registry.matching tags group.words context := by
    intro standing
    rw [← hranked]
    exact (Ruling.ranked_perm _ _).mem_iff
  have halone : ∀ rival ∈ first.registry.matching tags group.words context,
      rival ≠ governing → ¬ governing.Ties rival := by
    intro rival hrival
    refine (Envelope.isUntied_ofPayload List.mem_cons_self ?_ _ _ _ _).mp huntied rival
      ((hranking rival).mpr hrival)
    intro x hx hid
    exact hsound.eq_of_mem_matching ((hranking x).mp hx) hgoverns.member hid
  rw [hpolicy] at hgoverns
  obtain ⟨moved, hmoved, hremains⟩ := h.registry.exists_governs hgoverns halone
  rw [h.registry.length_mandatory] at hmandatory
  obtain ⟨leading, hleading, hconclusion⟩ := arbitrate_result_of_ne_nil hresound hreevaluation
    (List.ne_nil_of_mem hremains.member) hmandatory
  rw [← h.tieBreak, hpolicy] at hleading
  obtain rfl := hleading.unique hremains
  obtain ⟨hrule, hreply, -⟩ := Standing.unplaced_inj hmoved
  have hsame : Envelope.reasonOf? leading = .ok reason := by
    rw [← hreason]
    unfold Envelope.reasonOf?
    rw [hrule, hreply]
  rw [← hrule, ← hreply] at hexecution
  rw [applied?_eq_ok.mpr (.inl ⟨payload, reason, hexecution, hsame, rfl⟩)] at hconclusion
  exact ⟨_, _, hconclusion.trans
    (congrArg Except.ok (Envelope.ofPayload_of_unplaced hmoved _ _ _ _ _ _ _))⟩

/-- A call is heard by both, or comes to the same with both without a rule being asked. -/
theorem Rearranges.resolve_eq_or_hears (h : first.Rearranges second)
    (words flags scope : Datum) :
    (first.resolve words flags scope).result = (second.resolve words flags scope).result
      ∨ ∃ group context tags, first.Hears words flags scope group context tags
        ∧ second.Hears words flags scope group context tags := by
  cases hwords : WordGroup.read words with
  | error unusable =>
      rw [resolve_result_of_unreadable hwords, resolve_result_of_unreadable hwords]
      exact .inl rfl
  | ok group =>
      cases hflags : readContext group.script flags with
      | error unusable =>
          rw [resolve_result_of_unusable hwords hflags, resolve_result_of_unusable hwords hflags]
          exact .inl rfl
      | ok context =>
          have hscope : second.readScope scope = first.readScope scope := by
            unfold readScope
            rw [h.defaultScope]
          cases htags : first.readScope scope with
          | error fault =>
              rw [resolve_result_of_read hwords hflags, resolve_result_of_read hwords hflags,
                hscope, htags, mapError_error, error_bind, error_bind]
              exact .inl rfl
          | ok tags =>
              exact .inr ⟨group, context, tags, ⟨hwords, hflags, htags⟩,
                ⟨hwords, hflags, hscope.trans htags⟩⟩

theorem Rearranges.resolve_applied (h : first.Rearranges second)
    (hpolicy : first.tieBreak = .confidenceFirst)
    (hresult : (first.resolve words flags scope).result = .ok envelope)
    (happlied : envelope.applied = true) (huntied : envelope.IsUntied) :
    ∃ trace diagnostics, (second.resolve words flags scope).result =
      .ok { envelope with trace, diagnostics } := by
  rcases h.resolve_eq_or_hears words flags scope with hsame | ⟨group, context, tags, hcall, hother⟩
  · exact ⟨envelope.trace, envelope.diagnostics, hsame ▸ hresult⟩
  · rw [hcall.resolve_result] at hresult
    rw [hother.resolve_result]
    exact h.arbitrate_applied hpolicy hresult happlied huntied

theorem Rearranges.resolve_ambiguous (h : first.Rearranges second) {ids : List String}
    (hresult : (first.resolve words flags scope).result = .error (.ambiguous ids)) :
    ∃ others, others.Perm ids
      ∧ (second.resolve words flags scope).result = .error (.ambiguous others) := by
  rcases h.resolve_eq_or_hears words flags scope with hsame | ⟨group, context, tags, hcall, hother⟩
  · exact ⟨ids, .refl _, hsame ▸ hresult⟩
  · rw [hcall.resolve_result] at hresult
    rw [hother.resolve_result]
    exact h.arbitrate_ambiguous hresult

theorem Rearranges.resolve_exhausted (h : first.Rearranges second) {count ceiling : Nat} :
    (first.resolve words flags scope).result = .error (.exhausted count ceiling) ↔
      (second.resolve words flags scope).result = .error (.exhausted count ceiling) := by
  rcases h.resolve_eq_or_hears words flags scope with hsame | ⟨group, context, tags, hcall, hother⟩
  · rw [hsame]
  · rw [hcall.resolve_result, hother.resolve_result]
    exact h.arbitrate_exhausted

/-- Rules of distinct ids may be registered in any order.  Where confidence comes before
place, an answer whose governing rule is not tied is the same but for its trace and its
diagnostics, and a call ends in rival mandatory rules or in too many rules with the one
registry as with the other. -/
theorem resolve_reregistered {submissions others : List Submission} {rules : List Rule}
    {limit : Datum} {ceiling : Nat} (hrules : submissions.mapM Submission.toRule = .ok rules)
    (hids : (rules.map fun rule => rule.id).Nodup) (hperm : others.Perm submissions)
    (hlimit : readLimit limit = .ok ceiling) (defaultScope : List String) :
    ∃ registry reregistered first second,
      Registry.empty.ofSubmissions submissions = .ok registry
        ∧ Registry.empty.ofSubmissions others = .ok reregistered
        ∧ ofSettings registry limit (.text "confidence-first") defaultScope = .ok first
        ∧ ofSettings reregistered limit (.text "confidence-first") defaultScope = .ok second
        ∧ ∀ words flags scope : Datum,
          let one := (first.resolve words flags scope).result
          let other := (second.resolve words flags scope).result
          (∀ envelope, one = .ok envelope → envelope.applied = true → envelope.IsUntied →
              ∃ trace diagnostics, other = .ok { envelope with trace, diagnostics })
            ∧ (∀ ids, one = .error (.ambiguous ids) →
              ∃ ids', ids'.Perm ids ∧ other = .error (.ambiguous ids'))
            ∧ (∀ ids, other = .error (.ambiguous ids) →
              ∃ ids', ids'.Perm ids ∧ one = .error (.ambiguous ids'))
            ∧ ∀ count ceiling, one = .error (.exhausted count ceiling) ↔
              other = .error (.exhausted count ceiling) := by
  obtain ⟨registry, reregistered, hregistry, hreregistered, hsame⟩ :=
    Registry.exists_rearranges hrules hids hperm
  have hpolicy : TieBreak.read (.text "confidence-first") = .ok .confidenceFirst := rfl
  have hengines : Rearranges ⟨registry.freeze, ceiling, .confidenceFirst, defaultScope⟩
      ⟨reregistered.freeze, ceiling, .confidenceFirst, defaultScope⟩ :=
    ⟨hsame.freeze, rfl, rfl, rfl⟩
  refine ⟨registry, reregistered, _, _, hregistry, hreregistered,
    ofSettings_eq_ok.mpr ⟨ceiling, _, hlimit, hpolicy, rfl⟩,
    ofSettings_eq_ok.mpr ⟨ceiling, _, hlimit, hpolicy, rfl⟩, ?_⟩
  intro words flags scope one other
  refine ⟨?_, ?_, ?_, ?_⟩
  · intro envelope hone happlied huntied
    exact hengines.resolve_applied rfl hone happlied huntied
  · intro ids hone
    exact hengines.resolve_ambiguous hone
  · intro ids hother
    exact hengines.symm.resolve_ambiguous hother
  · intro count ceiling
    exact hengines.resolve_exhausted

theorem resolve_untied_steady :
    ∃ envelope, (steady.resolve twins .null .null).result = .ok envelope
      ∧ envelope.applied = true ∧ envelope.IsUntied ∧ envelope.sutra = some "1.1.2" := by
  have hsound := Registry.sound_empty.ofSubmissions Registry.ofSubmissions_steady
  have hfrozen : steady.registry.matching [Tags.family] twinGroup.words .empty =
      Registry.steady.matching [Tags.family] twinGroup.words .empty := rfl
  obtain ⟨governing, hgoverns, hresult⟩ := arbitrate_result_of_ne_nil hsound.freeze
    evaluates_steady (List.ne_nil_of_mem governs_steady.member) mandatory_steady
  obtain rfl := hgoverns.unique governs_steady
  have hreason : (Standing.steady twinGroup.words .empty "1.1.2" .one 1).reply.reason =
      .datum .null := rfl
  obtain ⟨reason, -, happlied⟩ := applied?_of_done rfl hreason _ _
  rw [happlied, hfrozen, ← hears_steady.resolve_result] at hresult
  have hranking : ∀ standing, standing ∈ Ruling.ranked steady.tieBreak
      (Registry.steady.matching [Tags.family] twinGroup.words .empty) ↔ standing ∈
        Registry.steady.matching [Tags.family] twinGroup.words .empty :=
    fun _ => (Ruling.ranked_perm _ _).mem_iff
  refine ⟨_, hresult, rfl, ?_, rfl⟩
  refine (Envelope.isUntied_ofPayload ((hranking _).mpr governs_steady.member) ?_ _ _ _ _).mpr ?_
  · intro x hx hid
    exact hsound.eq_of_mem_matching ((hranking x).mp hx) governs_steady.member hid
  · intro rival hrival hne hties
    rw [hranking, Registry.matching_steady] at hrival
    rcases List.mem_cons.mp hrival with rfl | hrival
    · exact absurd hties.2.2 (by decide +kernel)
    · exact hne (List.mem_singleton.mp hrival)

theorem resolve_reregistered_steady : ∃ registry reregistered first second envelope,
    Registry.empty.ofSubmissions Registry.steadySubmissions = .ok registry
      ∧ Registry.empty.ofSubmissions Registry.steadySubmissions.reverse = .ok reregistered
      ∧ ofSettings registry (.int 64) (.text "confidence-first") [Tags.family] = .ok first
      ∧ ofSettings reregistered (.int 64) (.text "confidence-first") [Tags.family] = .ok second
      ∧ (first.resolve twins .null .null).result = .ok envelope
      ∧ envelope.applied = true ∧ envelope.IsUntied ∧ envelope.sutra = some "1.1.2"
      ∧ ∃ trace diagnostics, (second.resolve twins .null .null).result =
        .ok { envelope with trace, diagnostics } := by
  have hrules : Registry.steadySubmissions.mapM Submission.toRule =
      .ok [.steady "1.1.1" .zero, .steady "1.1.2" .one] :=
    mapM_eq_ok_iff.mpr (.cons (Rule.toRule_steady "1.1.1" (by decide) .zero)
      (.cons (Rule.toRule_steady "1.1.2" (by decide) .one) .nil))
  obtain ⟨registry, reregistered, first, second, hregistry, hreregistered, hfirst, hsecond,
    hcalls⟩ := resolve_reregistered hrules (by decide) (List.reverse_perm _)
      (rfl : readLimit (.int 64) = .ok 64) [Tags.family]
  obtain rfl := Except.ok.inj (Registry.ofSubmissions_steady.symm.trans hregistry)
  obtain rfl := Except.ok.inj (ofSettings_steady.symm.trans hfirst)
  obtain ⟨envelope, hresult, happlied, huntied, hsutra⟩ := resolve_untied_steady
  obtain ⟨hsame, -⟩ := hcalls twins .null .null
  exact ⟨_, _, _, _, envelope, hregistry, hreregistered, hfirst, hsecond, hresult, happlied,
    huntied, hsutra, hsame envelope hresult happlied huntied⟩

end Engine

end SutraArbiter
