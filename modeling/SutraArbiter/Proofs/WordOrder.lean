import SutraArbiter.Proofs.Answer
import SutraArbiter.Proofs.Pack.Bundled
import SutraArbiter.Proofs.Reordering

namespace SutraArbiter

/-! The order of the words has no part in an answer, but for the positions and the
words that its payload tells. -/

/-- The envelope with nothing told of positions and words. -/
def Envelope.unplaced (envelope : Envelope) : Envelope :=
  { envelope with payload := Payload.unplaced envelope.payload }

namespace Engine

variable {engine : Engine} {group regroup : WordGroup} {words others : List Word}
  {context : Context} {tags : List String}

theorem applied?_reordered {governing regoverning : Standing} {trace : List Trace}
    {diagnostics : List Diagnostic} (hplanned : governing.entry.toRule.IsPlanned)
    (h : Reordered group.words regroup.words) (hscript : group.script = regroup.script)
    (hgoverning : governing.entry.standing? group.words context = some governing)
    (hregoverning : regoverning.entry.standing? regroup.words context = some regoverning)
    (houtline : governing.outline = regoverning.outline) :
    ((applied? group context governing trace diagnostics).mapError Failure.fault).map
        Envelope.unplaced =
      ((applied? regroup context regoverning trace diagnostics).mapError Failure.fault).map
        Envelope.unplaced := by
  obtain ⟨hentry, hreply, -⟩ := Standing.outline_inj houtline
  obtain ⟨-, -, hconfidence, hreason, -⟩ := Match.outline_inj hreply
  obtain ⟨plan, settings, hplan, haction, hproper⟩ := hplanned
  obtain ⟨selection, reason, -, htold, happlied⟩ :=
    applied?_of_standing hplan haction h.placed hgoverning trace diagnostics
  obtain ⟨reselection, others, -, hretold, hreapplied⟩ := applied?_of_standing (hentry ▸ hplan)
    (hentry ▸ haction) h.replaced hregoverning trace diagnostics
  have hsame : Envelope.reasonOf? governing = Envelope.reasonOf? regoverning := by
    unfold Envelope.reasonOf?
    rw [hreason, hentry]
  obtain rfl : reason = others := Except.ok.inj (htold.symm.trans (hsame.trans hretold))
  rw [happlied, hreapplied]
  simp only [mapError_ok, Except.map, Envelope.unplaced, Envelope.ofPayload, hentry, hconfidence,
    hscript]
  unfold Payload.ofWords
  rw [Payload.unplaced_ofForms (selection.retain.map _),
    Payload.unplaced_ofForms (reselection.retain.map _)]

theorem answer_reordered {entries : List Entry} {ranking reranking : List Standing}
    (hplanned : ∀ entry ∈ entries, entry.toRule.IsPlanned)
    (h : Reordered group.words regroup.words) (hscript : group.script = regroup.script)
    (hcontext : context.IsClear)
    (hranking : ∀ standing ∈ ranking,
      standing ∈ entries.filterMap (Entry.standing? group.words context))
    (hreranking : ∀ standing ∈ reranking,
      standing ∈ entries.filterMap (Entry.standing? regroup.words context))
    (houtline : ranking.map Standing.outline = reranking.map Standing.outline) :
    (answer group context (Evaluation.gathered group.words context (entries.map Entry.toRule))
      ⟨ranking.head?, Ruling.traceOf ranking⟩).map Envelope.unplaced =
    (answer regroup context
      (Evaluation.gathered regroup.words context (entries.map Entry.toRule))
      ⟨reranking.head?, Ruling.traceOf reranking⟩).map Envelope.unplaced := by
  have hrules : ∀ rule ∈ entries.map Entry.toRule, rule.IsPlanned := by
    intro rule hrule
    obtain ⟨entry, hentry, rfl⟩ := List.mem_map.mp hrule
    exact hplanned entry hentry
  have hdiagnostics := Evaluation.diagnostics_reordered hrules h hcontext
  have hreplies := Evaluation.replies_reordered hrules h hcontext
  have htrace : Ruling.traceOf ranking = Ruling.traceOf reranking := by
    rw [← Ruling.traceOf_outline, houtline, Ruling.traceOf_outline]
  cases ranking with
  | nil =>
      obtain rfl := List.map_eq_nil_iff.mp houtline.symm
      simp only [answer, List.head?_nil]
      rw [Evaluation.ofEvaluation?_outline hreplies hdiagnostics, hscript]
  | cons governing below =>
      cases reranking with
      | nil => cases houtline
      | cons regoverning rebelow =>
          obtain ⟨entry, hentry, hstanding⟩ :=
            List.mem_filterMap.mp (hranking governing List.mem_cons_self)
          obtain ⟨reentry, -, hrestanding⟩ :=
            List.mem_filterMap.mp (hreranking regoverning List.mem_cons_self)
          obtain rfl := Entry.entry_of_standing? hstanding
          obtain rfl := Entry.entry_of_standing? hrestanding
          simp only [answer, List.head?_cons]
          rw [htrace, hdiagnostics]
          exact applied?_reordered (hplanned _ hentry) h hscript hstanding hrestanding
            (List.cons.inj houtline).1

theorem arbitrate_reordered (hsound : engine.registry.Sound)
    (hplanned : ∀ entry ∈ engine.registry.entries, entry.toRule.IsPlanned)
    (h : Reordered group.words regroup.words) (hscript : group.script = regroup.script)
    (hcontext : context.IsClear) :
    (engine.arbitrate group context tags).result.map Envelope.unplaced =
      (engine.arbitrate regroup context tags).result.map Envelope.unplaced := by
  by_cases hlimit : (engine.registry.sharing tags).length ≤ engine.limit
  · have hshared : ∀ entry ∈ engine.registry.sharing tags, entry.toRule.IsPlanned :=
      fun entry hentry => hplanned entry (Registry.mem_sharing.mp hentry).1
    have hcandidates : ∀ entry ∈ engine.registry.candidates tags, entry.toRule.IsPlanned :=
      fun entry hentry => hshared entry (hsound.mem_candidates.mp hentry)
    have hreadable : ∀ words, ∀ entry ∈ engine.registry.sharing tags,
        entry.toRule.IsReadable words context := by
      intro words entry hentry
      obtain ⟨plan, -, hplan, -⟩ := hshared entry hentry
      exact Rule.isReadable_plan hplan
    have hdistinct : ∀ words, Ruling.Distinct
        ((engine.registry.candidates tags).filterMap (Entry.standing? words context)) :=
      fun words => (hsound.distinct_matching tags words context).of_perm
        (hsound.standings_perm tags words context)
    rw [arbitrate_result hsound (evaluates_gathered hsound hlimit (hreadable group.words)),
      arbitrate_result hsound (evaluates_gathered hsound hlimit (hreadable regroup.words))]
    rcases Ruling.ofStandings_outline engine.tieBreak (hdistinct group.words)
      (hdistinct regroup.words) (standings_reordered hcandidates h hcontext) with
      ⟨failure, hruling, hreruling⟩ |
      ⟨ranking, reranking, houtline, hranking, hreranking, hruling, hreruling⟩
    · rw [hruling, hreruling]
      rfl
    · rw [hruling, hreruling, ok_bind, ok_bind]
      exact answer_reordered hcandidates h hscript hcontext hranking hreranking houtline
  · have hexceeded := Nat.lt_of_not_le hlimit
    rw [arbitrate_result_of_lt hexceeded hsound, arbitrate_result_of_lt hexceeded hsound]

end Engine

namespace WordGroup

variable {items reitems : List Datum}

/-- The same items in another order are read as the same words in another order. -/
theorem reordered_of_read {words others : Datum} {group : WordGroup}
    (hitems : WordGroup.items words = .ok items)
    (hreitems : WordGroup.items others = .ok reitems) (hperm : items.Perm reitems)
    (hclear : ∀ item ∈ items, item.isOverlong = false)
    (hread : WordGroup.read words = .ok group) :
    ∃ regroup, WordGroup.read others = .ok regroup ∧ Reordered group.words regroup.words
      ∧ group.script = regroup.script := by
  obtain ⟨hsome, readings, hreadings, hgroup⟩ := (read_eq_ok hitems).mp hread
  obtain ⟨rereadings, hrereadings, hreordered⟩ := mapM_perm hperm hreadings
  have hresome : reitems ≠ [] := by
    rintro rfl
    exact hsome hperm.eq_nil
  have hreread := (read_eq_ok hreitems).mpr ⟨hresome, rereadings, hrereadings, rfl⟩
  have hreclear : ∀ item ∈ reitems, item.isOverlong = false :=
    fun item hitem => hclear item (hperm.mem_iff.mpr hitem)
  refine ⟨_, hreread, ?_, hgroup ▸ commonScript?_perm (hreordered.map _)⟩
  exact {
    alike := hgroup ▸ .of_perm hreordered
    placed := placed_of_read hread
    replaced := placed_of_read hreread
    clear := isClear_of_read hitems hclear hread
    reclear := isClear_of_read hreitems hreclear hreread
    nonempty := ne_nil_of_read hread }

end WordGroup

namespace Engine

/-- The order of the words decides neither whether a rule governs nor which one. -/
theorem resolve_reordered {engine : Engine} {files : Files} {source : Source} {choice : Choice}
    {registry : Registry} {limit tieBreak words others flags scope : Datum}
    {defaultScope : List String} {items reitems : List Datum} {group : WordGroup}
    (hload : (Pack.load files source choice).result = .ok registry)
    (hproper : ∀ entry ∈ registry.entries, (Datum.map entry.definition).IsProper)
    (hengine : ofSettings registry limit tieBreak defaultScope = .ok engine)
    (hread : WordGroup.read words = .ok group)
    (hitems : WordGroup.items words = .ok items)
    (hreitems : WordGroup.items others = .ok reitems) (hperm : items.Perm reitems)
    (hclear : ∀ item ∈ items, item.isOverlong = false) (hflags : flags.isOverlong = false) :
    (engine.resolve words flags scope).result.map Envelope.unplaced =
      (engine.resolve others flags scope).result.map Envelope.unplaced := by
  obtain ⟨regroup, hreread, hreordered, hscript⟩ :=
    WordGroup.reordered_of_read hitems hreitems hperm hclear hread
  cases hcontext : readContext group.script flags with
  | error unusable =>
      rw [resolve_result_of_unusable hread hcontext,
        resolve_result_of_unusable hreread (hscript ▸ hcontext)]
  | ok context =>
      rw [resolve_result_of_read hread hcontext,
        resolve_result_of_read hreread (hscript ▸ hcontext)]
      have hsound : engine.registry.Sound := by
        obtain ⟨-, -, -, -, rfl⟩ := ofSettings_eq_ok.mp hengine
        exact (Pack.sound_of_load hload).freeze
      have hplanned : ∀ entry ∈ engine.registry.entries, entry.toRule.IsPlanned := by
        obtain ⟨-, -, -, -, rfl⟩ := ofSettings_eq_ok.mp hengine
        exact fun entry hentry =>
          (Pack.isCompiled_of_load hload entry hentry).exists_plan (hproper entry hentry)
      have hclearly := isClear_of_readContext hflags hcontext
      cases engine.readScope scope with
      | error fault => rfl
      | ok tags => exact arbitrate_reordered hsound hplanned hreordered hscript hclearly

/-- A pronoun and a noun are answered by the bundled pack alike in either order. -/
theorem resolve_reordered_pair : ∃ registry engine,
    (Pack.load ⟨"", []⟩ .bundled .everything).result = .ok registry
      ∧ ofSettings registry (.int 64) (.text "confidence-first") [Tags.family] = .ok engine
      ∧ (engine.resolve (Datum.ofStrings ["tat", "rama"]) .null .null).result.map
          Envelope.unplaced =
        (engine.resolve (Datum.ofStrings ["rama", "tat"]) .null .null).result.map
          Envelope.unplaced := by
  obtain ⟨registry, hload, hbundled⟩ := Pack.load_bundled ⟨"", []⟩
  have hclear : ∀ item ∈ ["tat", "rama"].map Datum.text, item.isOverlong = false := by
    intro item hitem
    obtain ⟨text, -, rfl⟩ := List.mem_map.mp hitem
    exact Datum.isOverlong_text text
  have hengine : ofSettings registry (.int 64) (.text "confidence-first") [Tags.family] =
      .ok ⟨registry.freeze, 64, .confidenceFirst, [Tags.family]⟩ := rfl
  obtain ⟨group, hread⟩ : ∃ group,
      WordGroup.read (Datum.ofStrings ["tat", "rama"]) = .ok group := ⟨_, rfl⟩
  have hturned := (List.Perm.swap "rama" "tat" []).map Datum.text
  exact ⟨registry, _, hload, hengine,
    resolve_reordered hload hbundled.proper hengine hread rfl rfl hturned hclear rfl⟩

end Engine

end SutraArbiter
