import SutraArbiter.Proofs.Answer
import SutraArbiter.Proofs.Registry.Removal

namespace SutraArbiter

def Trace.renumberedFrom (start : Nat) (trace : List Trace) : List Trace :=
  (trace.zipIdx start).map fun place => { place.1 with rank := place.2 }

def Trace.renumbered (trace : List Trace) : List Trace :=
  Trace.renumberedFrom 1 trace

namespace Standing

def movedUp (place : Nat) (standing : Standing) : Standing :=
  { standing with entry := standing.entry.movedUp place }

theorem Outranks.movedUp {policy : TieBreak} {place : Nat} {x y : Standing}
    (h : Outranks policy x y) (hx : x.entry.index ≠ place) (hy : y.entry.index ≠ place) :
    Outranks policy (x.movedUp place) (y.movedUp place) := by
  have hindex : (x.movedUp place).entry.index < (y.movedUp place).entry.index ↔
      x.entry.index < y.entry.index := by
    unfold Standing.movedUp Entry.movedUp
    dsimp only
    split <;> split <;> omega
  have hsame : (x.movedUp place).entry.index = (y.movedUp place).entry.index ↔
      x.entry.index = y.entry.index := by
    unfold Standing.movedUp Entry.movedUp
    dsimp only
    split <;> split <;> omega
  have hprevails : Prevails policy (x.movedUp place) (y.movedUp place) ↔
      Prevails policy x y := by
    cases policy with
    | confidenceFirst => exact or_congr_right (and_congr_right fun _ => hindex)
    | declarationFirst => exact or_congr hindex (and_congr_left fun _ => hsame)
  exact h.imp_right (And.imp_right (Or.imp_right (And.imp_right hprevails.mpr)))

end Standing

namespace Ruling

variable {place : Nat}

theorem traceOf_movedUp (ranking : List Standing) :
    traceOf (ranking.map (Standing.movedUp place)) = traceOf ranking := by
  unfold traceOf
  rw [List.zipIdx_map, List.map_map]
  rfl

/-- A trace without some of its lines is the trace of the ranking without their rules. -/
theorem renumberedFrom_filter (keep : String → Bool) (ranking : List Standing)
    (start from' : Nat) :
    Trace.renumberedFrom start
        (((ranking.zipIdx from').map fun place => traceLine place.1 place.2).filter
          fun line => keep line.ruleId) =
      ((ranking.filter fun standing => keep standing.entry.id).zipIdx start).map
        fun place => traceLine place.1 place.2 := by
  induction ranking generalizing start from' with
  | nil => rfl
  | cons standing rest ih =>
      have hid : (traceLine standing from').ruleId = standing.entry.id := rfl
      rw [List.zipIdx_cons, List.map_cons, List.filter_cons, List.filter_cons]
      dsimp only
      rw [hid]
      cases keep standing.entry.id with
      | false =>
          simp only [Bool.false_eq_true, if_false]
          exact ih start (from' + 1)
      | true =>
          simp only [if_true]
          rw [List.zipIdx_cons, List.map_cons, ← ih (start + 1) (from' + 1)]
          rfl

theorem traceOf_filter (keep : String → Bool) (ranking : List Standing) :
    traceOf (ranking.filter fun standing => keep standing.entry.id) =
      Trace.renumbered ((traceOf ranking).filter fun line => keep line.ruleId) :=
  (renumberedFrom_filter keep ranking 1 1).symm

end Ruling

namespace Registry

variable {registry remaining : Registry} {id : String} {place : Nat}

/-- What is had of the entries that stay is what is had of all of them, but for what
is had of the one that leaves. -/
theorem filterMap_movedUp {α : Type} {first second : Entry → Option α} {idOf : α → String}
    {moved : α → α} (hid : ∀ entry x, first entry = some x → idOf x = entry.id)
    (hmoved : ∀ entry, second (entry.movedUp place) = (first entry).map moved)
    (id : String) (entries : List Entry) :
    ((entries.filter fun entry => entry.id ≠ id).map (Entry.movedUp place)).filterMap second =
      ((entries.filterMap first).filter fun x => idOf x ≠ id).map moved := by
  induction entries with
  | nil => rfl
  | cons entry rest ih =>
      rw [List.filter_cons, List.filterMap_cons]
      cases hfirst : first entry with
      | none =>
          dsimp only
          rw [← ih]
          split
          · rw [List.map_cons, List.filterMap_cons, hmoved, hfirst]
            rfl
          · rfl
      | some x =>
          dsimp only
          rw [List.filter_cons, hid entry x hfirst]
          split
          · rw [List.map_cons, List.filterMap_cons, hmoved, hfirst, List.map_cons, ← ih]
            rfl
          · exact ih

theorem Leaves.matching_eq (h : registry.Leaves remaining id place) (tags : List String)
    (words : List Word) (context : Context) :
    remaining.matching tags words context =
      ((registry.matching tags words context).filter
        fun standing => standing.entry.id ≠ id).map (Standing.movedUp place) := by
  unfold matching
  rw [h.sharing_eq]
  apply filterMap_movedUp
  · intro entry standing hstanding
    rw [Entry.entry_of_standing? hstanding]
  · intro entry
    have hrule : (entry.movedUp place).toRule = entry.toRule := rfl
    unfold Entry.standing?
    rw [hrule]
    cases entry.toRule.verdict words context with
    | error line => rfl
    | ok reply =>
        dsimp only
        split <;> rfl

theorem Leaves.ranked_eq (h : registry.Leaves remaining id place) (policy : TieBreak)
    (tags : List String) (words : List Word) (context : Context) :
    Ruling.ranked policy (remaining.matching tags words context) =
      ((Ruling.ranked policy (registry.matching tags words context)).filter
        fun standing => standing.entry.id ≠ id).map (Standing.movedUp place) := by
  have hperm := Ruling.ranked_perm policy (registry.matching tags words context)
  refine (Ruling.eq_ranked (h.remains.distinct_matching tags words context) ?_ ?_).symm
  · rw [h.matching_eq]
    exact (hperm.filter _).map _
  · refine List.pairwise_map.mpr ?_
    have hranked := Ruling.ranked_outranks policy
      (h.sound.distinct_matching tags words context)
    apply (hranked.filter _).imp_of_mem
    intro x y hx hy houtranks
    have hplace : ∀ standing ∈ (Ruling.ranked policy
        (registry.matching tags words context)).filter (fun standing => standing.entry.id ≠ id),
          standing.entry.index ≠ place := by
      intro standing hstanding
      obtain ⟨hstanding, hid⟩ := List.mem_filter.mp hstanding
      obtain ⟨entry, hentry, hsome⟩ := List.mem_filterMap.mp (hperm.mem_iff.mp hstanding)
      rw [Entry.entry_of_standing? hsome] at hid ⊢
      exact h.places entry (mem_sharing.mp hentry).1 (by simpa using hid)
    exact houtranks.movedUp (hplace x hx) (hplace y hy)

theorem Leaves.length_mandatory_le (h : registry.Leaves remaining id place)
    (tags : List String) (words : List Word) (context : Context) :
    (Ruling.mandatory (remaining.matching tags words context)).length ≤
      (Ruling.mandatory (registry.matching tags words context)).length := by
  unfold Ruling.mandatory
  rw [h.matching_eq, List.filter_map, List.length_map]
  exact (List.filter_sublist.filter _).length_le

theorem Leaves.diagnostics_eq (h : registry.Leaves remaining id place)
    (tags : List String) (words : List Word) (context : Context) :
    (Evaluation.gathered words context
        ((remaining.candidates tags).map Entry.toRule)).diagnostics =
      (Evaluation.gathered words context
        ((registry.candidates tags).map Entry.toRule)).diagnostics.filter
          fun diagnostic => diagnostic.ruleId ≠ id := by
  unfold Evaluation.gathered
  dsimp only
  have hasked : ∀ entries : List Entry,
      (entries.map Entry.toRule).filterMap (Rule.failure? words context) =
        entries.filterMap fun entry => entry.toRule.failure? words context :=
    fun entries => List.filterMap_map
  rw [h.candidates_eq, hasked, hasked]
  refine (filterMap_movedUp ?_ ?_ id (registry.candidates tags)).trans (List.map_id _)
  · intro entry diagnostic hfailure
    unfold Rule.failure? at hfailure
    split at hfailure <;> cases hfailure
    rfl
  · intro entry
    exact Option.map_id'.symm

end Registry

namespace Engine

variable {words flags scope : Datum} {envelope : Envelope}

/-- The place of a rule has no part in what is answered for it. -/
theorem applied?_movedUp (group : WordGroup) (context : Context) (place : Nat)
    (governing : Standing) (trace : List Trace) (diagnostics : List Diagnostic) :
    applied? group context (governing.movedUp place) trace diagnostics =
      applied? group context governing trace diagnostics := rfl

theorem Evaluates.without {registry remaining : Registry} {id : String} {place limit : Nat}
    {policy : TieBreak} {defaultScope tags : List String} {group : WordGroup}
    {context : Context} {evaluation : Evaluation}
    (hleft : registry.Leaves remaining id place)
    (hevaluation : Evaluates ⟨registry, limit, policy, defaultScope⟩ group context tags
      evaluation) :
    ∃ others, Evaluates ⟨remaining, limit, policy, defaultScope⟩ group context tags others
      ∧ others.diagnostics =
        evaluation.diagnostics.filter fun diagnostic => diagnostic.ruleId ≠ id := by
  obtain ⟨hlimit, hreadable, hgathered⟩ := Evaluation.ofCandidates_eq_ok.mp hevaluation
  rw [List.length_map, (hleft.sound.candidates_perm tags).length_eq] at hlimit
  refine ⟨_, evaluates_gathered hleft.remains ?_ ?_, ?_⟩
  · dsimp only
    rw [hleft.sharing_eq, List.length_map]
    exact Nat.le_trans (List.length_filter_le _ _) hlimit
  · intro entry hentry
    dsimp only at hentry
    rw [hleft.sharing_eq] at hentry
    obtain ⟨original, horiginal, rfl⟩ := List.mem_map.mp hentry
    have hmem := hleft.sound.mem_candidates.mpr (List.mem_of_mem_filter horiginal)
    exact hreadable original.toRule (List.mem_map_of_mem hmem)
  · rw [hgathered]
    exact hleft.diagnostics_eq tags group.words context

/-- Whoever takes a rule that does not govern out of a registry keeps every answer, but
for the lines that the rule itself had in it. -/
theorem resolve_without {before after : List Submission} {other : Submission}
    {rule : Rule} {registry : Registry} {limit tieBreak : Datum}
    {defaultScope : List String} {engine : Engine}
    (hregistry : Registry.empty.ofSubmissions (before ++ other :: after) = .ok registry)
    (hrule : other.toRule = .ok rule)
    (hengine : ofSettings registry limit tieBreak defaultScope = .ok engine)
    (hresult : (engine.resolve words flags scope).result = .ok envelope)
    (happlied : envelope.applied = true) (hother : envelope.sutra ≠ some rule.id) :
    ∃ remaining smaller,
      Registry.empty.ofSubmissions (before ++ after) = .ok remaining
        ∧ ofSettings remaining limit tieBreak defaultScope = .ok smaller
        ∧ (smaller.resolve words flags scope).result = .ok { envelope with
            trace := Trace.renumbered
              (envelope.trace.filter fun line => line.ruleId ≠ rule.id)
            diagnostics := envelope.diagnostics.filter
              fun diagnostic => diagnostic.ruleId ≠ rule.id } := by
  obtain ⟨ceiling, policy, hceiling, hpolicy, rfl⟩ := ofSettings_eq_ok.mp hengine
  obtain ⟨remaining, hremaining, hleft⟩ := Registry.exists_leaves hregistry hrule
  replace hleft := hleft.freeze
  refine ⟨remaining, ⟨remaining.freeze, ceiling, policy, defaultScope⟩, hremaining,
    ofSettings_eq_ok.mpr ⟨ceiling, policy, hceiling, hpolicy, rfl⟩, ?_⟩
  obtain ⟨group, context, tags, hcall⟩ := hears_of_applied hresult happlied
  have hsmaller : Hears ⟨remaining.freeze, ceiling, policy, defaultScope⟩ words flags scope
      group context tags := ⟨hcall.words, hcall.flags, hcall.scope⟩
  rw [hcall.resolve_result] at hresult
  obtain ⟨evaluation, governing, others, payload, reason, hevaluation, hmandatory, hranked,
    hexecution, hreason, rfl⟩ := arbitrate_applied hleft.sound hresult happlied
  have hkept : governing.entry.id ≠ rule.id := fun h => hother (congrArg some h)
  have hranking := hleft.ranked_eq policy tags group.words context
  dsimp only at hranked hmandatory
  rw [hranked, List.filter_cons_of_pos (by simpa using hkept), List.map_cons] at hranking
  obtain ⟨rest, hrest, hdiagnostics⟩ := hevaluation.without hleft
  have hfew := Nat.lt_of_le_of_lt
    (hleft.length_mandatory_le tags group.words context) hmandatory
  have htrace : Ruling.traceOf (governing.movedUp before.length ::
      (others.filter fun standing => standing.entry.id ≠ rule.id).map
        (Standing.movedUp before.length)) =
      Trace.renumbered ((Ruling.traceOf (governing :: others)).filter
        fun line => line.ruleId ≠ rule.id) := by
    rw [← List.map_cons, Ruling.traceOf_movedUp,
      ← Ruling.traceOf_filter (fun id => id ≠ rule.id),
      List.filter_cons_of_pos (by simpa using hkept)]
  have happlies (trace : List Trace) (diagnostics : List Diagnostic) :
      applied? group context governing trace diagnostics =
        .ok (.ofPayload governing reason payload trace diagnostics group.script) :=
    applied?_eq_ok.mpr (.inl ⟨payload, reason, hexecution, hreason, rfl⟩)
  rw [hsmaller.resolve_result, arbitrate_result_of_matching hleft.remains hrest hfew]
  dsimp only
  rw [hranking, htrace]
  simp only [answer, List.head?_cons, applied?_movedUp, happlies, hdiagnostics]
  rfl

theorem resolve_steady :
    ∃ envelope, (steady.resolve twins .null .null).result = .ok envelope
      ∧ envelope.applied = true ∧ envelope.sutra = some "1.1.2" := by
  have hsound : steady.registry.Sound :=
    (Registry.sound_empty.ofSubmissions Registry.ofSubmissions_steady).freeze
  obtain ⟨governing, hgoverns, hresult⟩ := arbitrate_result_of_ne_nil hsound evaluates_steady
    (List.ne_nil_of_mem governs_steady.member) mandatory_steady
  obtain rfl := hgoverns.unique governs_steady
  exact ⟨_, hears_steady.resolve_result.trans hresult, rfl, rfl⟩

theorem resolve_without_steady :
    ∃ envelope, (steady.resolve twins .null .null).result = .ok envelope
      ∧ envelope.applied = true ∧ envelope.sutra ≠ some "1.1.1"
      ∧ ∃ remaining smaller,
        Registry.empty.ofSubmissions [.draft (Rule.steady "1.1.2" .one).draft] = .ok remaining
          ∧ ofSettings remaining (.int 64) (.text "confidence-first") [Tags.family] =
            .ok smaller
          ∧ (smaller.resolve twins .null .null).result = .ok { envelope with
              trace := Trace.renumbered
                (envelope.trace.filter fun line => line.ruleId ≠ "1.1.1")
              diagnostics := envelope.diagnostics.filter
                fun diagnostic => diagnostic.ruleId ≠ "1.1.1" } := by
  obtain ⟨envelope, hresult, happlied, hsutra⟩ := resolve_steady
  have hother : envelope.sutra ≠ some "1.1.1" := by
    rw [hsutra]
    decide
  have hregistry : Registry.empty.ofSubmissions
      ([] ++ Submission.draft (Rule.steady "1.1.1" .zero).draft ::
        [.draft (Rule.steady "1.1.2" .one).draft]) = .ok .steady :=
    Registry.ofSubmissions_steady
  exact ⟨envelope, hresult, happlied, hother,
    resolve_without hregistry (Rule.toRule_steady "1.1.1" (by decide) .zero) ofSettings_steady
      hresult happlied hother⟩

end Engine

end SutraArbiter
