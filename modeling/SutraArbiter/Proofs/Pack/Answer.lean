import SutraArbiter.Proofs.Answer
import SutraArbiter.Proofs.Pack.Precedence

namespace SutraArbiter

theorem Config.engine_usual (files : Files) :
    ∃ registry, registry.IsBundled ∧ (usual.engine files none).result =
      .ok ⟨registry, 64, .confidenceFirst, [Tags.family]⟩ := by
  obtain ⟨registry, hload, hbundled⟩ := Pack.load_bundled files
  refine ⟨registry.freeze, hbundled.freeze, ?_⟩
  have hchosen : (Pack.load files usual.source ⟨none, usual.disabled⟩).result = .ok registry :=
    hload
  simp only [engine, Logged.result_bind, hchosen, ok_bind, Logged.result_pure]
  rfl

namespace Registry.IsBundled

variable {registry : Registry} {words : List Word} {context : Context}

/-- One bundled rule is mandatory, so that no two of them can match. -/
theorem length_mandatory (h : registry.IsBundled) (tags : List String) (words : List Word)
    (context : Context) :
    (Ruling.mandatory (registry.matching tags words context)).length < 2 := by
  have hplace : ∀ place ∈ Profile.places, place.1.tier = .mandatory → place.2 = 8 := by
    decide
  have hsame : ∀ standing ∈ Ruling.mandatory (registry.matching tags words context),
      standing.entry.index = 8 := by
    intro standing hstanding
    obtain ⟨hmember, hmandatory⟩ := List.mem_filter.mp hstanding
    obtain ⟨entry, hentry, hentered⟩ := List.mem_filterMap.mp hmember
    rw [Entry.entry_of_standing? hentered] at hmandatory ⊢
    obtain ⟨place, hplaces, htakes⟩ := h.placed entry (Registry.mem_sharing.mp hentry).1
    rw [htakes.2]
    exact hplace place hplaces (htakes.1.tier ▸ of_decide_eq_true hmandatory)
  have hdistinct := (h.sound.distinct_matching tags words context).places.filter
    fun standing => standing.entry.isMandatory
  change (Ruling.mandatory _).Pairwise _ at hdistinct
  match hlist : Ruling.mandatory (registry.matching tags words context) with
  | [] => simp
  | [_] => simp
  | first :: second :: rest =>
      rw [hlist] at hsame hdistinct
      have hfirst := hsame first List.mem_cons_self
      have hsecond := hsame second (List.mem_cons_of_mem _ List.mem_cons_self)
      exact absurd (hfirst.trans hsecond.symm)
        (List.rel_of_pairwise_cons hdistinct List.mem_cons_self)

theorem matching_eq_nil (h : registry.IsBundled) (hplaced : Placed words)
    (hclear : ∀ word ∈ words, word.IsClear) (hcontext : context.IsClear)
    (hnone : Pack.governing? registry words context = none) :
    registry.matching [Tags.family] words context = [] := by
  obtain ⟨hprecedence, hcontenders⟩ := Option.or_eq_none_iff.mp hnone
  apply List.eq_nil_iff_forall_not_mem.mpr
  intro standing hstanding
  obtain ⟨place, hplace, -, hid⟩ := h.exists_holds hplaced hclear hcontext hstanding
  have hmatch := h.isMatch_eq_true.mpr ⟨standing, hstanding, rfl⟩
  rcases Pack.mem_precedence_or_contenders place hplace with hearly | hlate
  · exact List.find?_eq_none.mp hprecedence _ (hid ▸ hearly) hmatch
  · have hmem := List.mem_filter.mpr ⟨hid ▸ hlate, hmatch⟩
    rw [List.argmax_eq_none.mp hcontenders] at hmem
    cases hmem

theorem exists_governs (h : registry.IsBundled) (hplaced : Placed words)
    (hclear : ∀ word ∈ words, word.IsClear) (hcontext : context.IsClear) {id : String}
    (hid : Pack.governing? registry words context = some id) :
    ∃ governing, Standing.Governs .confidenceFirst
        (registry.matching [Tags.family] words context) governing
      ∧ governing.entry.id = id := by
  rcases Option.or_eq_some_iff.mp hid with hfirst | ⟨hnone, hbest⟩
  · exact h.governs_of_find? hplaced hclear hcontext hfirst
  · exact h.governs_of_argmax hplaced hclear hcontext hnone hbest

theorem length_le (h : registry.IsBundled) : registry.entries.length ≤ 10 := by
  have hplaces : ∀ place ∈ Profile.places, place.2 < 10 := by decide
  by_contra hmany
  have hmem : 10 ∈ registry.entries.map Entry.index := by
    rw [h.sound.places]
    exact List.mem_range.mpr (Nat.lt_of_not_le hmany)
  obtain ⟨entry, hentry, hindex⟩ := List.mem_map.mp hmem
  obtain ⟨place, hplace, htakes⟩ := h.placed entry hentry
  have hlt := hplaces place hplace
  rw [← htakes.2, hindex] at hlt
  exact Nat.lt_irrefl _ hlt

end Registry.IsBundled

theorem Envelope.exists_ofEvaluation? {evaluation : Evaluation} (script : Option Script)
    (h : ∀ reply ∈ evaluation.replies,
      ∃ given, reply.reason = .datum given ∧ given.isOverlong = false) :
    ∃ envelope, ofEvaluation? evaluation script = .ok envelope := by
  unfold ofEvaluation?
  split
  · rename_i miss hmiss
    obtain ⟨given, hreason, hshort⟩ := h miss (List.mem_of_find?_eq_some hmiss)
    rw [hreason, Value.look_datum]
    cases hholds : given.holds with
    | true =>
        simp only [ok_bind, hholds, if_true, Datum.plain?_eq_ok hshort]
        exact ⟨_, rfl⟩
    | false =>
        simp only [ok_bind, hholds, Bool.false_eq_true, if_false]
        exact ⟨_, rfl⟩
  · exact ⟨_, rfl⟩

namespace Pack

variable {registry : Registry} {group : WordGroup} {context : Context}

/-- The engine over the bundled rules, as it is had without any configuration. -/
def usualEngine (registry : Registry) : Engine :=
  ⟨registry, 64, .confidenceFirst, [Tags.family]⟩

theorem evaluates_usual (h : registry.IsBundled) (group : WordGroup) (context : Context) :
    (usualEngine registry).Evaluates group context [Tags.family]
      (Evaluation.gathered group.words context
        ((registry.candidates [Tags.family]).map Entry.toRule)) := by
  refine Engine.evaluates_gathered h.sound ?_ fun entry hentry => ?_
  · have hall : (registry.sharing [Tags.family]).length ≤ registry.entries.length :=
      List.length_filter_le _ _
    have hten := h.length_le
    exact hall.trans (hten.trans (show 10 ≤ 64 by decide))
  · obtain ⟨place, -, htakes⟩ := h.placed entry (Registry.mem_sharing.mp hentry).1
    exact Rule.isReadable_plan htakes.1.predicate

theorem reasons_usual (h : registry.IsBundled) (group : WordGroup) (context : Context) :
    ∀ reply ∈ (Evaluation.gathered group.words context
      ((registry.candidates [Tags.family]).map Entry.toRule)).replies,
        ∃ given, reply.reason = .datum given ∧ given.isOverlong = false := by
  intro reply hreply
  obtain ⟨rule, hrule, rfl⟩ := List.mem_map.mp hreply
  obtain ⟨entry, hentry, rfl⟩ := List.mem_map.mp hrule
  have hentry := (Registry.mem_sharing.mp (h.sound.mem_candidates.mp hentry)).1
  obtain ⟨place, -, htakes⟩ := h.placed entry hentry
  exact Rule.held_reason group.words context htakes.1.predicate

/-- Whatever the words and flags are, arbitration by the bundled rules gives an answer. -/
theorem arbitrate_usual (h : registry.IsBundled) (hplaced : Placed group.words)
    (context : Context) :
    ∃ envelope, ((usualEngine registry).arbitrate group context [Tags.family]).result =
      .ok envelope := by
  have hevaluates := evaluates_usual h group context
  by_cases hempty : registry.matching [Tags.family] group.words context = []
  · obtain ⟨envelope, henvelope⟩ :=
      Envelope.exists_ofEvaluation? group.script (reasons_usual h group context)
    rw [Engine.arbitrate_result_of_nil h.sound hevaluates hempty, henvelope]
    exact ⟨envelope, rfl⟩
  · obtain ⟨governing, hgoverns, hresult⟩ := Engine.arbitrate_result_of_ne_nil h.sound hevaluates
      hempty (h.length_mandatory [Tags.family] group.words context)
    obtain ⟨hentry, hstanding⟩ := h.mem_matching.mp hgoverns.member
    obtain ⟨place, -, htakes⟩ := h.placed _ hentry
    obtain ⟨selection, reason, -, -, happlied⟩ := Engine.applied?_of_standing htakes.1.predicate
      htakes.1.action hplaced hstanding _ _
    rw [hresult, happlied]
    exact ⟨_, rfl⟩

theorem arbitrate_of_none (h : registry.IsBundled) (hplaced : Placed group.words)
    (hclear : ∀ word ∈ group.words, word.IsClear) (hcontext : context.IsClear)
    (hnone : governing? registry group.words context = none) :
    ∃ envelope, ((usualEngine registry).arbitrate group context [Tags.family]).result =
        .ok envelope ∧ envelope.applied = false ∧ envelope.sutra = none := by
  have hempty := h.matching_eq_nil hplaced hclear hcontext hnone
  have hunruled := Engine.arbitrate_result_of_nil h.sound (evaluates_usual h group context) hempty
  have hreasons := reasons_usual h group context
  obtain ⟨envelope, henvelope⟩ := Envelope.exists_ofEvaluation? group.script hreasons
  obtain ⟨happlied, hsutra⟩ := Envelope.unapplied_of_ofEvaluation? henvelope
  exact ⟨envelope, by rw [hunruled, henvelope]; rfl, happlied, hsutra⟩

/-- The rule that is told beforehand is applied, with what its plan selects. -/
theorem arbitrate_of_governing (h : registry.IsBundled) (hplaced : Placed group.words)
    (hclear : ∀ word ∈ group.words, word.IsClear) (hcontext : context.IsClear)
    {id : String}
    (hid : governing? registry group.words context = some id) :
    ∃ envelope place selection,
      ((usualEngine registry).arbitrate group context [Tags.family]).result = .ok envelope
        ∧ envelope.applied = true ∧ envelope.sutra = some id
        ∧ place ∈ Profile.places ∧ place.1.id = id
        ∧ place.1.plan.finding group.words context = .selected selection envelope.confidence
        ∧ envelope.retainedIndices? = .ok (selection.retain.map .int)
        ∧ envelope.droppedIndices? = .ok (selection.drop.map .int) := by
  obtain ⟨governing, hgoverns, rfl⟩ := h.exists_governs hplaced hclear hcontext hid
  obtain ⟨other, hother, hresult⟩ := Engine.arbitrate_result_of_ne_nil h.sound
    (evaluates_usual h group context) (List.ne_nil_of_mem hgoverns.member)
    (h.length_mandatory [Tags.family] group.words context)
  obtain rfl : other = governing := hother.unique hgoverns
  obtain ⟨hentry, hstanding⟩ := h.mem_matching.mp hgoverns.member
  obtain ⟨place, hplace, htakes⟩ := h.placed _ hentry
  obtain ⟨selection, reason, hjudged, -, happlied⟩ := Engine.applied?_of_standing
    htakes.1.predicate htakes.1.action hplaced hstanding _ _
  rw [happlied] at hresult
  rw [Plan.judge_eq_ok (h.isProper hentry htakes) hclear hcontext] at hjudged
  exact ⟨_, place, selection, hresult, rfl, rfl, hplace, htakes.1.id.symm,
    Except.ok.inj hjudged, rfl, rfl⟩

/-- The series of pronouns that tyad begins, in either script. -/
def tyad : Entries :=
  [(.text "iast", texts ["tyad", "tad", "tat", "etad", "yad", "idam", "adas"]),
    (.text "devanagari", texts ["त्यद्", "तद्", "तत्", "एतद्", "यद्", "इदम्", "अदस्"])]

/-- A word that is listed in the series under its own script, or is marked. -/
def isPronoun (word : Word) : Bool :=
  Lexicon.lists tyad word || word.has "pronoun"

theorem isSeriesMember_pronouns :
    Strategy.isSeriesMember Profile.pronouns.plan.params = isPronoun := rfl

/-- The pronouns of a group stay, and all other words fall away. -/
theorem finding_pronouns {words : List Word} (hplaced : Placed words) (context : Context)
    (hpronoun : ∃ word ∈ words, isPronoun word = true) :
    Profile.pronouns.plan.finding words context =
      .selected ⟨positions (words.filter isPronoun),
        positions (words.filter fun word => !isPronoun word)⟩ Profile.pronouns.plan.share := by
  have hpasses : context.passes Profile.pronouns.plan.require Profile.pronouns.plan.forbid =
      true := rfl
  have henough : Strategy.enough Profile.pronouns.plan.params words = true := by
    obtain ⟨word, hword, -⟩ := hpronoun
    have hpositive := List.length_pos_of_mem hword
    have hgiven : Profile.pronouns.plan.params.getD "min_words" (.int usualMinimum) = .int 1 :=
      rfl
    simp only [Strategy.enough, hasMinimum?, Datum.getD?, Datum.entriesFor?, ok_bind, pure,
      Except.pure, hgiven, Datum.toInt?, granted_ok, decide_eq_true_eq]
    omega
  have hseries := Strategy.series_of_member hplaced henough
    (isSeriesMember_pronouns ▸ hpronoun)
  rw [isSeriesMember_pronouns] at hseries
  unfold Plan.finding
  rw [hpasses, if_pos rfl]
  change Plan.weigh _ (Strategy.seriesFinding _ _) = _
  rw [hseries]
  rfl

theorem governing_pronouns {words : List Word} (h : registry.IsBundled)
    (hplaced : Placed words) (hclear : ∀ word ∈ words, word.IsClear)
    (hcontext : context.IsClear) (hpronoun : ∃ word ∈ words, isPronoun word = true) :
    governing? registry words context = some "1.2.72" := by
  have hplace : (Profile.pronouns, 8) ∈ Profile.places := List.mem_zipIdx_iff_getElem?.mpr rfl
  obtain ⟨entry, hentry, htakes⟩ := h.filled _ hplace
  have hshare : (Finding.problem? Profile.pronouns.plan.share).isNone = true := by
    decide +kernel
  have hverdict := Rule.verdict_plan htakes.1.predicate (h.isProper hentry htakes) hclear hcontext
  rw [finding_pronouns hplaced context hpronoun, Finding.verdict,
    Option.isNone_iff_eq_none.mp hshare] at hverdict
  have hmatch : registry.isMatch words context "1.2.72" = true := by
    obtain ⟨standing, hstanding⟩ : ∃ standing, entry.standing? words context = some standing := by
      unfold Entry.standing?
      rw [hverdict]
      exact ⟨_, rfl⟩
    obtain rfl := Entry.entry_of_standing? hstanding
    exact h.isMatch_eq_true.mpr
      ⟨standing, h.mem_matching.mpr ⟨hentry, hstanding⟩, htakes.1.id⟩
  unfold governing? precedence
  rw [List.find?_cons_of_pos hmatch]
  rfl

theorem eq_pronouns {place : Profile × Nat} (hplace : place ∈ Profile.places)
    (hid : place.1.id = "1.2.72") : place = (Profile.pronouns, 8) := by
  have hids : (Profile.places.map fun place => place.1.id).Nodup := by decide
  have hpronouns : (Profile.pronouns, 8) ∈ Profile.places :=
    List.mem_zipIdx_iff_getElem?.mpr rfl
  exact List.inj_on_of_nodup_map hids hplace hpronouns hid

/-- The usual engine answers every group of words under every mapping: the governing
rule is told beforehand, and pronouns are kept over everything else. -/
theorem resolve_usual (files : Files) {words : Datum} {flags : Entries} {group : WordGroup}
    (hread : WordGroup.read words = .ok group) (hwords : words.isOverlong = false)
    (hflags : (Datum.map flags).isOverlong = false) :
    ∃ engine context envelope,
      (Config.usual.engine files none).result = .ok engine
        ∧ Context.read (.map flags) = .ok context
        ∧ (engine.resolve words (.map flags) .null).result = .ok envelope
        ∧ envelope.sutra = governing? engine.registry group.words context
        ∧ envelope.applied = envelope.sutra.isSome
        ∧ ((∃ word ∈ group.words, isPronoun word = true) →
          envelope.sutra = some "1.2.72"
            ∧ envelope.retainedIndices? =
              .ok ((positions (group.words.filter isPronoun)).map .int)
            ∧ envelope.droppedIndices? =
              .ok ((positions (group.words.filter fun word => !isPronoun word)).map .int)) := by
  obtain ⟨registry, hbundled, hengine⟩ := Config.engine_usual files
  obtain ⟨items, hitems⟩ := WordGroup.exists_items hread
  have hitemsClear := WordGroup.isOverlong_of_items hwords hitems
  have hplaced := WordGroup.placed_of_read hread
  have hclear := WordGroup.isClear_of_read hitems hitemsClear hread
  obtain ⟨context, hcontext⟩ := Context.exists_read fun entry hentry =>
    (Datum.isOverlong_map_eq_false.mp hflags entry hentry).1
  have hcontextClear := Context.isClear_of_read hflags hcontext
  have hcall : (usualEngine registry).Hears words (.map flags) .null group context
      [Tags.family] := ⟨hread, Engine.readContext_map hcontext, rfl⟩
  have hresult := hcall.resolve_result
  cases hgoverning : governing? registry group.words context with
  | none =>
      obtain ⟨envelope, henvelope, happlied, hsutra⟩ :=
        arbitrate_of_none hbundled hplaced hclear hcontextClear hgoverning
      refine ⟨_, context, envelope, hengine, hcontext, hresult.trans henvelope,
        hsutra.trans hgoverning.symm, by rw [happlied, hsutra]; rfl, fun hpronoun => ?_⟩
      rw [governing_pronouns hbundled hplaced hclear hcontextClear hpronoun] at hgoverning
      cases hgoverning
  | some id =>
      obtain ⟨envelope, place, selection, henvelope, happlied, hsutra, hplace, hid, hfinding,
        hretained, hdropped⟩ :=
        arbitrate_of_governing hbundled hplaced hclear hcontextClear hgoverning
      refine ⟨_, context, envelope, hengine, hcontext, hresult.trans henvelope,
        hsutra.trans hgoverning.symm, by rw [happlied, hsutra]; rfl, fun hpronoun => ?_⟩
      rw [governing_pronouns hbundled hplaced hclear hcontextClear hpronoun] at hgoverning
      cases hgoverning
      obtain rfl := eq_pronouns hplace hid
      rw [finding_pronouns hplaced context hpronoun] at hfinding
      obtain ⟨rfl, -⟩ := Finding.selected.inj hfinding
      exact ⟨hsutra, hretained, hdropped⟩

def pronounAndNoun : WordGroup where
  words := [⟨0, "tat", "", "", "", "", "", []⟩, ⟨1, "rama", "", "", "", "", "", []⟩]
  script := some .iast

theorem read_pronounAndNoun :
    WordGroup.read (Datum.ofStrings ["tat", "rama"]) = .ok pronounAndNoun := rfl

theorem isClear_pronounAndNoun : ∀ word ∈ pronounAndNoun.words, word.IsClear := by
  have hwords : (Datum.ofStrings ["tat", "rama"]).isOverlong = false := by decide
  exact WordGroup.isClear_of_read rfl (WordGroup.isOverlong_of_items hwords rfl)
    read_pronounAndNoun

/-- The bundled pack has the rule of pronouns answer a pronoun and a noun. -/
theorem exists_pronounAndNoun : ∃ registry envelope,
    (load ⟨"", []⟩ .bundled .everything).result = .ok registry ∧ registry.IsBundled
      ∧ Engine.ofSettings registry (.int 64) (.text "confidence-first") [Tags.family] =
        .ok (usualEngine registry.freeze)
      ∧ ((usualEngine registry.freeze).resolve (Datum.ofStrings ["tat", "rama"])
          (.map []) .null).result = .ok envelope
      ∧ envelope.applied = true ∧ envelope.sutra = some "1.2.72" := by
  obtain ⟨registry, hload, hbundled⟩ := load_bundled ⟨"", []⟩
  have hplaced := WordGroup.placed_of_read read_pronounAndNoun
  have hgoverning := governing_pronouns hbundled.freeze hplaced isClear_pronounAndNoun
    Context.isClear_empty (by decide)
  obtain ⟨envelope, -, -, henvelope, happlied, hsutra, -⟩ := arbitrate_of_governing
    hbundled.freeze hplaced isClear_pronounAndNoun Context.isClear_empty hgoverning
  have hcall : (usualEngine registry.freeze).Hears (Datum.ofStrings ["tat", "rama"])
      (.map []) .null pronounAndNoun .empty [Tags.family] := ⟨read_pronounAndNoun, rfl, rfl⟩
  exact ⟨registry, envelope, hload, hbundled, rfl, hcall.resolve_result.trans henvelope,
    happlied, hsutra⟩

theorem resolve_usual_pronoun : ∃ engine envelope,
    (Config.usual.engine ⟨"", []⟩ none).result = .ok engine
      ∧ (engine.resolve (Datum.ofStrings ["tat", "rama"]) (.map []) .null).result = .ok envelope
      ∧ envelope.applied = true ∧ envelope.sutra = some "1.2.72"
      ∧ envelope.retainedIndices? = .ok [.int 0] ∧ envelope.droppedIndices? = .ok [.int 1] := by
  have hread : WordGroup.read (Datum.ofStrings ["tat", "rama"]) = .ok pronounAndNoun := rfl
  have hwords : (Datum.ofStrings ["tat", "rama"]).isOverlong = false := by decide
  have hflags : (Datum.map []).isOverlong = false := by decide
  have hkept : positions (pronounAndNoun.words.filter isPronoun) = [0] := by decide
  have hleft : positions (pronounAndNoun.words.filter fun word => !isPronoun word) = [1] := by
    decide
  have hpronoun : ∃ word ∈ pronounAndNoun.words, isPronoun word = true := by decide
  obtain ⟨engine, -, envelope, hengine, -, hresult, -, happlied, hpronouns⟩ :=
    resolve_usual ⟨"", []⟩ hread hwords hflags
  obtain ⟨hsutra, hretained, hdropped⟩ := hpronouns hpronoun
  rw [hkept] at hretained
  rw [hleft] at hdropped
  exact ⟨engine, envelope, hengine, hresult, by rw [happlied, hsutra]; rfl, hsutra, hretained,
    hdropped⟩

end Pack

end SutraArbiter
