import SutraArbiter.Proofs.Arbitration
import SutraArbiter.Proofs.Registry.Steady
import Mathlib.Data.Finset.Card

namespace SutraArbiter

/-! A ruling lists every rule that matches, once and in strict order, and it is the same
in whatever order the replies come. -/

theorem Tags.specificity_eq_card {scope : List String} (hnodup : scope.Nodup)
    (active : List String) :
    specificity scope active = (scope.toFinset ∩ active.toFinset).card := by
  unfold specificity
  rw [← List.toFinset_card_of_nodup (hnodup.filter _)]
  congr 1
  ext tag
  simp

namespace Ruling

variable {policy : TieBreak} {entries : List Entry} {active : List String}
  {replies others : List Match} {reply : Match} {standing : Standing}
  {standings : List Standing} {ruling : Ruling}

/-- The ranking behind a ruling: the replies that match, each once and beside the entry
of its rule, so ordered that each outranks those behind it. -/
structure Ranks (policy : TieBreak) (entries : List Entry) (active : List String)
    (replies : List Match) (ruling : Ruling) (ranking : List Standing) : Prop where
  replies : (ranking.map Standing.reply).Perm (replies.filter Match.matched)
  entered : ∀ x ∈ ranking, x.entry ∈ entries ∧ x.entry.id = x.reply.ruleId
  specificity : ∀ x ∈ ranking,
    x.specificity = (x.entry.tags.toFinset ∩ active.toFinset).card
  order : ranking.Pairwise (Standing.Outranks policy)
  governing : ruling.governing = ranking.head?
  trace : ruling.trace = ranking.mapIdx fun place x =>
    ⟨x.entry.id, x.entry.tier, x.specificity, x.reply.confidence, place + 1⟩

theorem standing?_eq_ok (h : standing? entries active reply = .ok standing) :
    standing.reply = reply ∧ standing.entry ∈ entries ∧ standing.entry.id = reply.ruleId
      ∧ standing.specificity = Tags.specificity standing.entry.tags active := by
  unfold standing? at h
  split at h
  · rename_i entry hfound
    cases h
    have hid : entry.id = reply.ruleId := by simpa using List.find?_some hfound
    exact ⟨rfl, List.mem_of_find?_eq_some hfound, hid, rfl⟩
  · cases h

theorem map_reply_standings? (h : standings? entries active replies = .ok standings) :
    standings.map Standing.reply = replies.filter Match.matched := by
  have hstandings := mapM_eq_ok_iff.mp h
  clear h
  generalize replies.filter Match.matched = matched at hstandings
  induction hstandings with
  | nil => rfl
  | cons hstanding _ ih => rw [List.map_cons, (standing?_eq_ok hstanding).1, ih]

theorem of_mem_standings? (h : standings? entries active replies = .ok standings)
    (hmem : standing ∈ standings) :
    standing.reply ∈ replies ∧ standing.entry ∈ entries
      ∧ standing.entry.id = standing.reply.ruleId
      ∧ standing.specificity = Tags.specificity standing.entry.tags active := by
  obtain ⟨reply, hreply, hstanding⟩ := mem_mapM h hmem
  obtain ⟨rfl, hentry⟩ := standing?_eq_ok hstanding
  exact ⟨List.mem_of_mem_filter hreply, hentry⟩

/-- Replies of different rules stand at different places. -/
theorem distinct_standings? (hplaces : entries.Pairwise fun x y => x.index ≠ y.index)
    (hids : (replies.map Match.ruleId).Nodup)
    (hnumbered : ∀ reply ∈ replies, reply.confidence.isNaN = false)
    (h : standings? entries active replies = .ok standings) : Distinct standings where
  numbered := by
    intro x hx
    exact Double.level_ne_undefined (hnumbered _ (of_mem_standings? h hx).1)
  places := by
    have hmatched : (standings.map Standing.reply).Pairwise fun x y => x.ruleId ≠ y.ruleId := by
      rw [map_reply_standings? h]
      exact (List.pairwise_map.mp hids).filter _
    rw [List.pairwise_map] at hmatched
    apply hmatched.imp_of_mem
    intro x y hx hy hne hindex
    obtain ⟨-, hxentry, hxid, -⟩ := of_mem_standings? h hx
    obtain ⟨-, hyentry, hyid, -⟩ := of_mem_standings? h hy
    have : Std.Symm fun x y : Entry => x.index ≠ y.index := ⟨fun _ _ h => h.symm⟩
    have hentry : x.entry = y.entry := by
      by_contra hother
      exact hplaces.forall hxentry hyentry hother hindex
    rw [← hxid, ← hyid, hentry] at hne
    exact hne rfl

theorem ofReplies_result (policy : TieBreak) (entries : List Entry) (active : List String)
    (replies : List Match) :
    (ofReplies policy entries active replies).result =
      (standings? entries active replies).mapError .fault >>= fun standings =>
        (ofStandings policy standings).result := by
  simp only [ofReplies, Logged.result_bind, Logged.result_ofFault]

theorem ofStandings_eq_ok :
    (ofStandings policy standings).result = .ok ruling ↔
      (mandatory standings).length < 2
        ∧ ruling = ⟨(ranked policy standings).head?, traceOf (ranked policy standings)⟩ := by
  constructor
  · intro h
    by_cases hfew : (mandatory standings).length < 2
    · rw [result_ofStandings hfew] at h
      exact ⟨hfew, (Except.ok.inj h).symm⟩
    · rw [result_ofStandings_of_mandatory (Nat.le_of_not_lt hfew)] at h
      cases h
  · intro ⟨hfew, hruling⟩
    rw [result_ofStandings hfew, hruling]

theorem traceOf_eq_mapIdx (ranking : List Standing) :
    traceOf ranking = ranking.mapIdx fun place x => traceLine x (place + 1) := by
  unfold traceOf
  apply List.ext_getElem
  · simp
  · intro place _ _
    simp [Nat.add_comm]

theorem ranks_ranked (htags : ∀ entry ∈ entries, entry.tags.Nodup)
    (h : standings? entries active replies = .ok standings) (hdistinct : Distinct standings) :
    Ranks policy entries active replies
      ⟨(ranked policy standings).head?, traceOf (ranked policy standings)⟩
      (ranked policy standings) where
  replies := by
    rw [← map_reply_standings? h]
    exact (ranked_perm policy standings).map _
  entered := by
    intro x hx
    obtain ⟨-, hentry, hid, -⟩ :=
      of_mem_standings? h ((ranked_perm policy standings).mem_iff.mp hx)
    exact ⟨hentry, hid⟩
  specificity := by
    intro x hx
    obtain ⟨-, hentry, -, hspecificity⟩ :=
      of_mem_standings? h ((ranked_perm policy standings).mem_iff.mp hx)
    rw [hspecificity, Tags.specificity_eq_card (htags _ hentry)]
  order := ranked_outranks policy hdistinct
  governing := rfl
  trace := traceOf_eq_mapIdx _

theorem Ranks.map_ruleId_trace {ranking : List Standing}
    (h : Ranks policy entries active replies ruling ranking) :
    ruling.trace.map Trace.ruleId = (ranking.map Standing.reply).map Match.ruleId := by
  rw [h.trace, List.map_map]
  apply List.ext_getElem
  · simp
  · intro place _ hplace
    have hplace : place < ranking.length := by simpa using hplace
    have hmem : ranking[place] ∈ ranking := List.getElem_mem _
    simpa using (h.entered _ hmem).2

theorem Ranks.map_rank_trace {ranking : List Standing}
    (h : Ranks policy entries active replies ruling ranking) :
    ruling.trace.map Trace.rank = List.range' 1 ruling.trace.length := by
  rw [h.trace]
  apply List.ext_getElem
  · simp
  · intro place _ _
    simp [Nat.add_comm]

theorem Ranks.governing_eq_none {ranking : List Standing}
    (h : Ranks policy entries active replies ruling ranking) :
    ruling.governing = none ↔ ∀ reply ∈ replies, reply.matched = false := by
  have hempty : ranking = [] ↔ replies.filter Match.matched = [] := by
    rw [← List.map_eq_nil_iff (f := Standing.reply)]
    exact ⟨fun hnil => (hnil ▸ h.replies).symm.eq_nil, fun hnil => (hnil ▸ h.replies).eq_nil⟩
  rw [h.governing, List.head?_eq_none_iff, hempty, List.filter_eq_nil_iff]
  simp

/-- Replies in another order come to the same ruling. -/
theorem ofReplies_perm (hstandings : standings? entries active replies = .ok standings)
    (hdistinct : Distinct standings)
    (hresult : (ofStandings policy standings).result = .ok ruling) (hperm : others.Perm replies) :
    (ofReplies policy entries active others).result = .ok ruling := by
  obtain ⟨hfew, hruling⟩ := ofStandings_eq_ok.mp hresult
  obtain ⟨reordered, hreordered, hsame⟩ := mapM_perm (hperm.symm.filter _) hstandings
  have hread : standings? entries active others = .ok reordered := hreordered
  rw [ofReplies_result, hread, mapError_ok, ok_bind]
  apply ofStandings_eq_ok.mpr
  rw [length_mandatory_of_perm hsame.symm, ranked_of_perm hdistinct hsame.symm]
  exact ⟨hfew, hruling⟩

/-- A ruling that is given lists the replies that match, each once and in strict order; the
first of them governs, and their order has no part in it. -/
theorem ofReplies_ranks (hplaces : entries.Pairwise fun x y => x.index ≠ y.index)
    (htags : ∀ entry ∈ entries, entry.tags.Nodup) (hids : (replies.map Match.ruleId).Nodup)
    (hnumbered : ∀ reply ∈ replies, reply.confidence.isNaN = false)
    (hresult : (ofReplies policy entries active replies).result = .ok ruling) :
    (∃ ranking, Ranks policy entries active replies ruling ranking)
      ∧ (ruling.trace.map Trace.ruleId).Perm
          ((replies.filter Match.matched).map Match.ruleId)
      ∧ ruling.trace.map Trace.rank = List.range' 1 ruling.trace.length
      ∧ (ruling.governing = none ↔ ∀ reply ∈ replies, reply.matched = false)
      ∧ ∀ others, others.Perm replies →
          (ofReplies policy entries active others).result = .ok ruling := by
  rw [ofReplies_result] at hresult
  obtain ⟨standings, hstandings, hruling⟩ := bind_eq_ok.mp hresult
  have hread := mapError_eq_ok.mp hstandings
  have hdistinct := distinct_standings? hplaces hids hnumbered hread
  have hranks : Ranks policy entries active replies ruling (ranked policy standings) := by
    rw [(ofStandings_eq_ok.mp hruling).2]
    exact ranks_ranked htags hread hdistinct
  refine ⟨⟨_, hranks⟩, ?_, hranks.map_rank_trace, hranks.governing_eq_none, ?_⟩
  · rw [hranks.map_ruleId_trace]
    exact hranks.replies.map _
  · intro others hperm
    exact ofReplies_perm hread hdistinct hruling hperm

def steadyReplies : List Match :=
  [⟨"1.1.1", true, .zero, .map [], .datum .null, .bool false⟩,
    ⟨"1.1.3", false, .zero, .map [], .datum .null, .bool false⟩,
    ⟨"1.1.2", true, .one, .map [], .datum .null, .bool false⟩]

theorem ofReplies_ranks_steady : ∃ ruling,
    (ofReplies .confidenceFirst Registry.steady.entries [Tags.family] steadyReplies).result =
        .ok ruling
      ∧ (ruling.trace.map Trace.ruleId).Perm ["1.1.1", "1.1.2"]
      ∧ (ofReplies .confidenceFirst Registry.steady.entries [Tags.family]
          steadyReplies.reverse).result = .ok ruling := by
  have hstandings : standings? Registry.steady.entries [Tags.family] steadyReplies =
      .ok [⟨⟨.steady "1.1.1" .zero, 0⟩, ⟨"1.1.1", true, .zero, .map [], .datum .null, .bool false⟩, 1⟩,
        ⟨⟨.steady "1.1.2" .one, 1⟩, ⟨"1.1.2", true, .one, .map [], .datum .null, .bool false⟩, 1⟩] :=
    rfl
  obtain ⟨ruling, hruling⟩ : ∃ ruling, (ofReplies .confidenceFirst Registry.steady.entries
      [Tags.family] steadyReplies).result = .ok ruling := by
    rw [ofReplies_result, hstandings, mapError_ok, ok_bind]
    exact ⟨_, result_ofStandings (by decide)⟩
  have hplaces : Registry.steady.entries.Pairwise fun x y => x.index ≠ y.index := by
    simp [Registry.steady]
  have htags : ∀ entry ∈ Registry.steady.entries, entry.tags.Nodup := by
    simp [Registry.steady, Rule.steady]
  obtain ⟨-, hids, -, -, hperm⟩ :=
    ofReplies_ranks hplaces htags (by decide) (by decide) hruling
  exact ⟨ruling, hruling, hids, hperm _ (List.reverse_perm _)⟩

end Ruling

end SutraArbiter
