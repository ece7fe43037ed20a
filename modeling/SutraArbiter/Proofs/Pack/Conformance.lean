import SutraArbiter.Proofs.Conformance
import SutraArbiter.Proofs.Pack.Solitary
import SutraArbiter.Proofs.Partition
import SutraArbiter.Proofs.Rule.Wording
import SutraArbiter.Proofs.Strategy.NearMiss

namespace SutraArbiter

theorem Pack.isWorded_of_load {files : Files} {source : Source} {choice : Choice}
    {registry : Registry} (h : (load files source choice).result = .ok registry) :
    ∀ entry ∈ registry.entries, entry.toRule.IsWorded := by
  obtain ⟨given, -, hborne⟩ := bears_of_load h
  intro entry hentry
  obtain ⟨file, -, entries, -, hread⟩ := hborne entry hentry
  exact Rule.isWorded_of_read hread

theorem Entries.exists_of_get? {entries : Entries} {name : String} {value : Datum}
    (h : entries.get? name = some value) : ∃ entry ∈ entries, entry.2 = value := by
  obtain ⟨entry, hentry, hvalue⟩ := Option.map_eq_some_iff.mp h
  exact ⟨entry, List.mem_of_find?_eq_some hentry, hvalue⟩

namespace Payload

variable {words : List Word} {selection : Selection} {settings : Entries}

theorem isText_of_overrides (hsettings : RepeatsTexts settings) (name : String) :
    ((overrides settings).get? name).all Schema.text = true := by
  cases hgiven : (overrides settings).get? name with
  | none => rfl
  | some value =>
      obtain ⟨entry, hentry, rfl⟩ := Entries.exists_of_get? hgiven
      obtain ⟨other, hother, htold⟩ := List.mem_filterMap.mp hentry
      obtain ⟨value, hvalue, rfl⟩ := Option.map_eq_some_iff.mp htold
      exact hsettings other hother value hvalue

theorem listOf_position {places : List Int} {count : Nat} (h : Selection.Within count places) :
    Schema.listOf Schema.position (.list (places.map .int)) = true :=
  Schema.listOf_map.mpr fun i hi => Schema.position_int.mpr (h i hi).1

theorem listOf_spellings {places : List Int} (h : Selection.Within words.length places) :
    Schema.listOf Schema.text (.list (places.map (spellingOf words))) = true := by
  refine Schema.listOf_map.mpr fun i hi => ?_
  have hplace : i.toNat < words.length := by
    have := h i hi
    omega
  simp [spellingOf, hplace, Schema.text_text]

theorem fields_ofWords (hdivides : selection.Divides words.length)
    (hsettings : RepeatsTexts settings) :
    Schema.fields Schema.payloadFields (.map (ofWords words selection settings)) = true := by
  have htells := tells_ofWords hdivides settings
  obtain ⟨last, hindex, hlast, -⟩ := htells.retained_index
  have hwithin := hdivides.kept_within last (List.mem_of_getLast? hlast)
  have hlastIndex : Schema.all [Schema.either Schema.integer Schema.null, Schema.atLeast 0]
      (.int last) = true := by
    simp [Schema.all, Schema.either, Schema.integer, Schema.atLeast, hwithin.1]
  have hoptional : (ofWords words selection settings).get? "optional" =
      some (.bool (settings.getD "optional" (.bool false)).holds) := rfl
  have hoverride : ∀ name ∈ overrideNames, (ofWords words selection settings).get? name =
      (overrides settings).get? name := by
    simp only [overrideNames, List.forall_mem_cons]
    exact ⟨rfl, rfl, rfl, by simp⟩
  have hgiven : ∀ name ∈ overrideNames,
      ((ofWords words selection settings).get? name).all Schema.text = true := by
    intro name hname
    rw [hoverride name hname]
    exact isText_of_overrides hsettings name
  simp only [overrideNames, List.forall_mem_cons] at hgiven
  simp only [Schema.fields, Schema.payloadFields, List.all_cons, List.all_nil, hindex,
    htells.retained_indices, htells.dropped_indices, htells.retained_forms, htells.dropped_forms,
    hoptional, hgiven, Option.all_some, hlastIndex, listOf_position hdivides.kept_within,
    listOf_position hdivides.dropped_within, listOf_spellings hdivides.kept_within,
    listOf_spellings hdivides.dropped_within, Schema.boolean_bool, Bool.and_self]

end Payload

theorem Finding.reply_of_matched {id : String} {finding : Finding} {reply : Match}
    (h : finding.verdict id = .ok reply) (hmatched : reply.matched = true) :
    reply.reason = .datum .null ∧ reply.confidence.level.isShare = true := by
  cases finding with
  | selected selection confidence =>
      simp only [verdict] at h
      split at h
      · cases h
      · rename_i hnone
        cases h
        refine ⟨rfl, ?_⟩
        unfold problem? at hnone
        split at hnone
        · cases hnone
        · split at hnone
          · assumption
          · cases hnone
  | passed reason nearMiss =>
      cases h
      cases hmatched

theorem Rule.reply_of_matched {rule : Rule} {plan : Plan} {words : List Word} {context : Context}
    {reply : Match} (hplan : rule.predicate = .plan plan)
    (hreply : rule.verdict words context = .ok reply) (hmatched : reply.matched = true) :
    reply.reason = .datum .null ∧ reply.confidence.level.isShare = true := by
  obtain ⟨finding, -, hverdict⟩ := exists_finding hplan hreply
  exact Finding.reply_of_matched hverdict hmatched

theorem Ruling.line_of_mem_traceOf {ranking : List Standing} {line : Trace}
    (h : line ∈ traceOf ranking) :
    (∃ standing ∈ ranking, line.confidence = standing.reply.confidence) ∧ 1 ≤ line.rank := by
  obtain ⟨⟨standing, rank⟩, hplace, rfl⟩ := List.mem_map.mp h
  have hrank := List.le_snd_of_mem_zipIdx hplace
  exact ⟨⟨standing, List.fst_mem_of_mem_zipIdx hplace, rfl⟩, hrank⟩

namespace Envelope

theorem shadowed_nil : shadowed [] = [] := by decide

theorem conforms_ofRejection (rejection : Rejection) :
    Schema.resolution (ofRejection rejection).toDatum = true := by
  refine (conforms_iff shadowed_nil).mpr ⟨?_, ⟨_, rfl, by decide⟩, Double.isShare_zero, ?_, rfl, ?_,
    fun _ => rfl⟩
  · intro id hid
    cases hid
  · intro line hline
    cases hline
  · intro happlied
    cases happlied

theorem conforms_ofEvaluation? {evaluation : Evaluation} {script : Option Script}
    {envelope : Envelope} (h : ofEvaluation? evaluation script = .ok envelope)
    (hmiss : ∀ miss, evaluation.firstNearMiss? = some miss →
      miss.reason = .datum (.text "case-mismatch")) :
    Schema.resolution envelope.toDatum = true := by
  obtain ⟨reason, explanation, rfl, hreason⟩ := eq_of_ofEvaluation? h
  have hwording : reason = .text "no-rule-applies" ∨ reason = .text "case-mismatch" := by
    rcases hreason with hnone | ⟨miss, hfirst, hgiven, -⟩
    · exact .inl hnone
    · exact .inr (Value.datum.inj (hgiven.symm.trans (hmiss miss hfirst)))
  refine (conforms_iff shadowed_nil).mpr ⟨?_, ?_, Double.isShare_zero, ?_, rfl, ?_, ?_⟩
  · intro id hid
    cases hid
  · rcases hwording with rfl | rfl
    · exact ⟨_, rfl, by decide⟩
    · exact ⟨_, rfl, by decide⟩
  · intro line hline
    cases hline
  · intro happlied
    cases happlied
  · intro hinvalid
    have hother : reason ≠ .text "invalid-input" := by
      rcases hwording with rfl | rfl <;> simp
    exact absurd hinvalid hother

/-- An envelope that applies a rule fails the schema only by the name of the rule or by
its reason. -/
theorem conforms_ofPayload {governing : Standing} {payload : Entries} {trace : List Trace}
    {diagnostics : List Diagnostic} {script : Option Script}
    (hreason : governing.entry.reason ≠ "")
    (hconfidence : governing.reply.confidence.level.isShare = true)
    (htrace : ∀ line ∈ trace, line.confidence.level.isShare = true ∧ 1 ≤ line.rank)
    (hfree : shadowed payload = [])
    (hfields : Schema.fields Schema.payloadFields (.map payload) = true)
    (hrequired : Schema.required ["retained_indices", "dropped_indices"] (.map payload) = true) :
    Schema.resolution (ofPayload governing (.text governing.entry.reason) payload trace diagnostics
        script).toDatum = true ↔
      Schema.isNumeral governing.entry.id = true
        ∧ governing.entry.reason ≠ "invalid-input" := by
  rw [conforms_iff hfree]
  constructor
  · rintro ⟨hnumeral, -, -, -, -, -, hinvalid⟩
    refine ⟨hnumeral _ rfl, fun hsame => ?_⟩
    rw [hsame] at hinvalid
    cases hinvalid rfl
  · rintro ⟨hnumeral, hvalid⟩
    refine ⟨?_, ⟨_, rfl, hreason⟩, hconfidence, htrace, hfields, fun _ => ⟨rfl, hrequired⟩, ?_⟩
    · intro id hid
      cases hid
      exact hnumeral
    · intro hsame
      exact absurd (Datum.text.inj hsame) hvalid

end Envelope

namespace Engine

variable {engine : Engine} {group : WordGroup} {context : Context} {tags : List String}
  {envelope : Envelope}

/-- Every line of the trace tells a share of one, and a place in the ranking. -/
theorem lines_of_ranked {registry : Registry}
    (hworded : ∀ entry ∈ registry.entries, entry.toRule.IsWorded) {policy : TieBreak}
    {words : List Word} {ranking : List Standing}
    (hranked : Ruling.ranked policy (registry.matching tags words context) = ranking) :
    ∀ line ∈ Ruling.traceOf ranking, line.confidence.level.isShare = true ∧ 1 ≤ line.rank := by
  intro line hline
  obtain ⟨⟨standing, hstanding, hlevel⟩, hrank⟩ := Ruling.line_of_mem_traceOf hline
  rw [← hranked, (Ruling.ranked_perm policy _).mem_iff] at hstanding
  obtain ⟨hentry, hverdict, hmatched⟩ := Registry.exists_of_mem_matching hstanding
  obtain ⟨plan, -, hplan, -⟩ := (hworded _ hentry).planned
  rw [hlevel]
  exact ⟨(Rule.reply_of_matched hplan hverdict hmatched).2, hrank⟩

theorem conforms_of_arbitrate (hsound : engine.registry.Sound)
    (hworded : ∀ entry ∈ engine.registry.entries, entry.toRule.IsWorded)
    (hplaced : Placed group.words)
    (h : (engine.arbitrate group context tags).result = .ok envelope) :
    Schema.resolution envelope.toDatum = true ↔
      ∀ entry ∈ engine.registry.entries, envelope.sutra = some entry.id →
        Schema.isNumeral entry.id = true ∧ entry.reason ≠ "invalid-input" := by
  obtain ⟨evaluation, hevaluation, -, hanswer⟩ := answer_of_arbitrate hsound h
  cases hranked : Ruling.ranked engine.tieBreak
      (engine.registry.matching tags group.words context) with
  | nil =>
      rw [hranked] at hanswer
      -- no rule is named, so that the reason alone could offend, and it is one of two
      have htold := mapError_eq_ok.mp hanswer
      have hconforms := Envelope.conforms_ofEvaluation? htold fun miss hmiss => by
        obtain ⟨entry, hfirst⟩ := (hevaluation.firstNearMiss?_eq_some hsound).mp hmiss
        obtain ⟨plan, -, hplan, -⟩ :=
          (hworded entry (Registry.mem_sharing.mp hfirst.shared).1).planned
        exact Entry.reason_of_nearMiss hplan hfirst.missed
      have hsutra := (Envelope.unapplied_of_ofEvaluation? htold).2
      simp [hconforms, hsutra]
  | cons governing others =>
      obtain ⟨hentry, hverdict, hmatched⟩ := Registry.exists_of_ranked hranked
      obtain ⟨hreason, plan, settings, hplan, haction, hsettings⟩ := hworded _ hentry
      obtain ⟨selection, hjudged, hdone⟩ :=
        Execution.outcome_of_verdict hplan haction hplaced hverdict hmatched
      have hdivides := (Plan.divides_of_judge hplaced hjudged).1
      obtain ⟨hreply, hconfidence⟩ := Rule.reply_of_matched hplan hverdict hmatched
      have htrace := lines_of_ranked hworded hranked
      have hfree : shadowed (Payload.ofWords group.words selection settings) = [] :=
        Payload.shadowed_ofForms _ _
      have hrequired : Schema.required ["retained_indices", "dropped_indices"]
          (.map (Payload.ofWords group.words selection settings)) = true := rfl
      rw [hranked] at hanswer
      have htold : Envelope.reasonOf? governing = .ok (.text governing.entry.reason) := by
        rw [Envelope.reasonOf?, hreply]
        rfl
      have happlied : applied? group context governing (Ruling.traceOf (governing :: others))
          evaluation.diagnostics = .ok envelope := mapError_eq_ok.mp hanswer
      rw [applied?_eq_ok.mpr (.inl ⟨_, _, hdone, htold, rfl⟩)] at happlied
      obtain rfl := Except.ok.inj happlied
      rw [Envelope.conforms_ofPayload hreason hconfidence htrace hfree
        (Payload.fields_ofWords hdivides hsettings) hrequired]
      constructor
      · intro hconforms entry hother hsame
        obtain rfl := hsound.eq_of_id hentry hother (Option.some.inj hsame)
        exact hconforms
      · intro hall
        exact hall _ hentry rfl

theorem conforms_of_resolve {words flags scope : Datum} (hsound : engine.registry.Sound)
    (hworded : ∀ entry ∈ engine.registry.entries, entry.toRule.IsWorded)
    (h : (engine.resolve words flags scope).result = .ok envelope) :
    Schema.resolution envelope.toDatum = true ↔
      ∀ entry ∈ engine.registry.entries, envelope.sutra = some entry.id →
        Schema.isNumeral entry.id = true ∧ entry.reason ≠ "invalid-input" := by
  rcases heard_of_resolve h with ⟨rejection, rfl⟩ | ⟨group, context, tags, hcall⟩
  · refine iff_of_true (Envelope.conforms_ofRejection rejection) fun entry _ hsutra => ?_
    cases hsutra
  · rw [hcall.resolve_result] at h
    exact conforms_of_arbitrate hsound hworded (WordGroup.placed_of_read hcall.words) h

/-- An answer of a loaded pack is as the published schema says unless the rule that it
applies is named by more than the ten digits and points, or gives for its reason that of
input that is turned away. -/
theorem resolve_conforms {files : Files} {source : Source} {choice : Choice}
    {registry : Registry} {limit tieBreak words flags scope : Datum}
    {defaultScope : List String} {engine : Engine} {envelope : Envelope}
    (hload : (Pack.load files source choice).result = .ok registry)
    (hengine : ofSettings registry limit tieBreak defaultScope = .ok engine)
    (hresult : (engine.resolve words flags scope).result = .ok envelope) :
    Schema.resolution envelope.toDatum = true ↔
      ∀ entry ∈ registry.entries, envelope.sutra = some entry.id →
        Schema.isNumeral entry.id = true ∧ entry.reason ≠ "invalid-input" := by
  have hregistry := registry_of_settings hengine
  have hsound : engine.registry.Sound := by
    rw [hregistry]
    exact (Pack.sound_of_load hload).freeze
  have hworded : ∀ entry ∈ engine.registry.entries, entry.toRule.IsWorded := by
    rw [hregistry]
    exact fun entry hentry => Pack.isWorded_of_load hload entry hentry
  have hconforms := conforms_of_resolve hsound hworded hresult
  rwa [hregistry] at hconforms

/-- Under a plain id and with a reason of its own the rule of a pack answers as the
schema says. -/
theorem resolve_conforms_plain : ∃ registry envelope,
    (Pack.load (Pack.solitaryFiles "1.2.64" "identical-forms") Pack.solitarySource
        .everything).result = .ok registry
      ∧ ofSettings registry (.int 64) (.text "confidence-first") [Tags.family] =
        .ok (Pack.usualEngine registry.freeze)
      ∧ ((Pack.usualEngine registry.freeze).resolve twins .null .null).result = .ok envelope
      ∧ envelope.sutra = some "1.2.64" ∧ Schema.resolution envelope.toDatum = true := by
  obtain ⟨registry, envelope, hload, hentries, hengine, hresult, hsutra⟩ :=
    Pack.exists_solitary (show Numeral.isDotted "1.2.64".toList = true by decide)
      (show Text.isBlankString "identical-forms" = false by decide)
  refine ⟨registry, envelope, hload, hengine, hresult, hsutra, ?_⟩
  refine (resolve_conforms hload hengine hresult).mpr fun entry hentry _ => ?_
  rw [hentries] at hentry
  obtain rfl := List.mem_singleton.mp hentry
  exact ⟨by decide, by decide⟩

/-- An id in the digits of another script is accepted, and published as it is. -/
theorem resolve_devanagariId : ∃ registry envelope,
    (Pack.load (Pack.solitaryFiles "१.२.६४" "identical-forms") Pack.solitarySource
        .everything).result = .ok registry
      ∧ ofSettings registry (.int 64) (.text "confidence-first") [Tags.family] =
        .ok (Pack.usualEngine registry.freeze)
      ∧ ((Pack.usualEngine registry.freeze).resolve twins .null .null).result = .ok envelope
      ∧ envelope.sutra = some "१.२.६४" ∧ Schema.resolution envelope.toDatum = false := by
  obtain ⟨registry, envelope, hload, hentries, hengine, hresult, hsutra⟩ :=
    Pack.exists_solitary (show Numeral.isDotted "१.२.६४".toList = true by decide)
      (show Text.isBlankString "identical-forms" = false by decide)
  refine ⟨registry, envelope, hload, hengine, hresult, hsutra, ?_⟩
  have hconforms := conforms_of_resolve (Pack.sound_of_load hload).freeze
    (fun entry hentry => Pack.isWorded_of_load hload entry hentry) hresult
  have hrule : (⟨.solitary "१.२.६४" "identical-forms", 0⟩ : Entry) ∈ registry.entries := by
    rw [hentries]
    exact List.mem_singleton_self _
  rw [Bool.eq_false_iff]
  intro hall
  have hnumeral := (hconforms.mp hall _ hrule hsutra).1
  exact absurd hnumeral (by decide)

end Engine

end SutraArbiter
