import SutraArbiter.Proofs.Arbitration
import SutraArbiter.Proofs.Strategy.Verdict

namespace SutraArbiter

/-! The order of the words has no part in what rules answer, but for the positions
that they extract. -/

/-- The same words in another order, all of which can be written out. -/
structure Reordered (words others : List Word) : Prop where
  alike : Alike words others
  placed : Placed words
  replaced : Placed others
  clear : ∀ word ∈ words, word.IsClear
  reclear : ∀ word ∈ others, word.IsClear
  nonempty : words ≠ []

variable {words others : List Word} {context : Context}

theorem Rule.verdict_reordered {rule : Rule} (hrule : rule.IsPlanned)
    (h : Reordered words others) (hcontext : context.IsClear) :
    (rule.verdict words context).map Match.outline =
      (rule.verdict others context).map Match.outline := by
  obtain ⟨plan, settings, hplan, -, hproper⟩ := hrule
  rw [verdict_plan hplan hproper h.clear hcontext,
    verdict_plan hplan hproper h.reclear hcontext]
  exact Finding.verdict_outline (plan.outline_finding context h.alike h.placed h.replaced)

theorem Rule.verdict_cases {rule : Rule} (hrule : rule.IsPlanned)
    (h : Reordered words others) (hcontext : context.IsClear) :
    (∃ line, rule.verdict words context = .error line
        ∧ rule.verdict others context = .error line)
      ∨ ∃ reply reply', rule.verdict words context = .ok reply
        ∧ rule.verdict others context = .ok reply' ∧ reply.outline = reply'.outline := by
  have houtline := verdict_reordered hrule h hcontext
  cases hwords : rule.verdict words context with
  | error line =>
      cases hothers : rule.verdict others context with
      | error line' =>
          rw [hwords, hothers] at houtline
          cases houtline
          exact .inl ⟨line, rfl, rfl⟩
      | ok reply =>
          rw [hwords, hothers] at houtline
          cases houtline
  | ok reply =>
      cases hothers : rule.verdict others context with
      | error line =>
          rw [hwords, hothers] at houtline
          cases houtline
      | ok reply' =>
          rw [hwords, hothers] at houtline
          exact .inr ⟨reply, reply', rfl, rfl, Except.ok.inj houtline⟩

theorem Rule.held_reordered {rule : Rule} (hrule : rule.IsPlanned)
    (h : Reordered words others) (hcontext : context.IsClear) :
    (rule.held words context).outline = (rule.held others context).outline := by
  unfold held
  rcases verdict_cases hrule h hcontext with ⟨line, hwords, hothers⟩ |
    ⟨reply, reply', hwords, hothers, houtline⟩
  · rw [hwords, hothers]
  · rw [hwords, hothers]
    exact houtline

theorem Rule.failure?_reordered {rule : Rule} (hrule : rule.IsPlanned)
    (h : Reordered words others) (hcontext : context.IsClear) :
    rule.failure? words context = rule.failure? others context := by
  unfold failure?
  rcases verdict_cases hrule h hcontext with ⟨line, hwords, hothers⟩ |
    ⟨reply, reply', hwords, hothers, -⟩ <;> rw [hwords, hothers]

namespace Evaluation

variable {rules : List Rule} {first second : Evaluation}

theorem diagnostics_reordered (hrules : ∀ rule ∈ rules, rule.IsPlanned)
    (h : Reordered words others) (hcontext : context.IsClear) :
    (gathered words context rules).diagnostics =
      (gathered others context rules).diagnostics :=
  List.filterMap_congr fun rule hrule => rule.failure?_reordered (hrules rule hrule) h hcontext

theorem replies_reordered (hrules : ∀ rule ∈ rules, rule.IsPlanned)
    (h : Reordered words others) (hcontext : context.IsClear) :
    (gathered words context rules).replies.map Match.outline =
      (gathered others context rules).replies.map Match.outline := by
  unfold gathered
  rw [List.map_map, List.map_map]
  exact List.map_congr_left fun rule hrule => rule.held_reordered (hrules rule hrule) h hcontext

theorem firstNearMiss?_outline
    (h : first.replies.map Match.outline = second.replies.map Match.outline) :
    first.firstNearMiss?.map Match.outline = second.firstNearMiss?.map Match.outline := by
  have hfind : ∀ replies : List Match,
      (replies.find? fun reply => !reply.matched && reply.nearMiss.holds).map Match.outline =
        (replies.map Match.outline).find? fun reply =>
          !reply.matched && reply.nearMiss.holds := by
    intro replies
    rw [List.find?_map]
    rfl
  unfold firstNearMiss?
  rw [hfind, hfind, h]

theorem ofEvaluation?_outline {script : Option Script}
    (hreplies : first.replies.map Match.outline = second.replies.map Match.outline)
    (hdiagnostics : first.diagnostics = second.diagnostics) :
    Envelope.ofEvaluation? first script = Envelope.ofEvaluation? second script := by
  have hmiss := firstNearMiss?_outline hreplies
  unfold Envelope.ofEvaluation?
  rw [hdiagnostics]
  cases hfirst : first.firstNearMiss? with
  | none =>
      rw [hfirst] at hmiss
      rw [Option.map_eq_none_iff.mp hmiss.symm]
  | some miss =>
      rw [hfirst] at hmiss
      obtain ⟨miss', hsecond, houtline⟩ := Option.map_eq_some_iff.mp hmiss.symm
      obtain ⟨hid, -, -, hreason, -⟩ := Match.outline_inj houtline
      rw [hsecond]
      dsimp only
      rw [hid, hreason]

end Evaluation

namespace Standing

def outline (standing : Standing) : Standing :=
  { standing with reply := standing.reply.outline }

theorem outline_inj {standing other : Standing} (h : standing.outline = other.outline) :
    standing.entry = other.entry ∧ standing.reply.outline = other.reply.outline
      ∧ standing.specificity = other.specificity := by
  simpa [outline] using h

end Standing

theorem Entry.standing?_reordered {entry : Entry} (hentry : entry.toRule.IsPlanned)
    (h : Reordered words others) (hcontext : context.IsClear) :
    (entry.standing? words context).map Standing.outline =
      (entry.standing? others context).map Standing.outline := by
  have hsatisfied : entry.satisfied words context = entry.satisfied others context := by
    unfold Entry.satisfied
    rw [h.alike.isActive_eq]
  unfold Entry.standing?
  rcases Rule.verdict_cases hentry h hcontext with ⟨line, hwords, hothers⟩ |
    ⟨reply, reply', hwords, hothers, houtline⟩
  · rw [hwords, hothers]
  · obtain ⟨-, hmatched, -⟩ := Match.outline_inj houtline
    rw [hwords, hothers]
    dsimp only
    rw [hmatched, hsatisfied]
    split
    · simp only [Option.map_some, Standing.outline, houtline]
    · rfl

theorem standings_reordered {entries : List Entry}
    (hentries : ∀ entry ∈ entries, entry.toRule.IsPlanned) (h : Reordered words others)
    (hcontext : context.IsClear) :
    (entries.filterMap (Entry.standing? words context)).map Standing.outline =
      (entries.filterMap (Entry.standing? others context)).map Standing.outline := by
  rw [List.map_filterMap, List.map_filterMap]
  exact List.filterMap_congr fun entry hentry =>
    entry.standing?_reordered (hentries entry hentry) h hcontext

namespace Ruling

variable {policy : TieBreak} {standings standings' : List Standing}

theorem mandatory_outline (standings : List Standing) :
    mandatory (standings.map Standing.outline) = (mandatory standings).map Standing.outline := by
  unfold mandatory
  rw [List.filter_map]
  rfl

theorem ids_outline (standings : List Standing) :
    (standings.map Standing.outline).map (fun standing => standing.entry.id) =
      standings.map fun standing => standing.entry.id := by
  rw [List.map_map]
  rfl

theorem traceOf_outline (standings : List Standing) :
    traceOf (standings.map Standing.outline) = traceOf standings := by
  unfold traceOf
  rw [List.zipIdx_map, List.map_map]
  rfl

theorem ranked_outline (hdistinct : Distinct standings) :
    ranked policy (standings.map Standing.outline) =
      (ranked policy standings).map Standing.outline := by
  have houtlined : Distinct (standings.map Standing.outline) :=
    ⟨fun x hx => by
      obtain ⟨standing, hstanding, rfl⟩ := List.mem_map.mp hx
      exact hdistinct.numbered standing hstanding,
    List.pairwise_map.mpr hdistinct.places⟩
  refine (eq_ranked houtlined ((ranked_perm policy standings).map _) ?_).symm
  exact List.pairwise_map.mpr (ranked_outranks policy hdistinct)

theorem ofStandings_outline (policy : TieBreak) (hdistinct : Distinct standings)
    (hdistinct' : Distinct standings')
    (h : standings.map Standing.outline = standings'.map Standing.outline) :
    (∃ failure, (ofStandings policy standings).result = .error failure
        ∧ (ofStandings policy standings').result = .error failure)
      ∨ ∃ ranking ranking', ranking.map Standing.outline = ranking'.map Standing.outline
        ∧ (∀ standing ∈ ranking, standing ∈ standings)
        ∧ (∀ standing ∈ ranking', standing ∈ standings')
        ∧ (ofStandings policy standings).result = .ok ⟨ranking.head?, traceOf ranking⟩
        ∧ (ofStandings policy standings').result = .ok ⟨ranking'.head?, traceOf ranking'⟩ := by
  have hmandatory : (mandatory standings).map Standing.outline =
      (mandatory standings').map Standing.outline := by
    rw [← mandatory_outline, h, mandatory_outline]
  have hlength : (mandatory standings).length = (mandatory standings').length := by
    simpa using congrArg List.length hmandatory
  by_cases hmany : 2 ≤ (mandatory standings).length
  · have hids : (mandatory standings).map (fun standing => standing.entry.id) =
        (mandatory standings').map fun standing => standing.entry.id := by
      rw [← ids_outline, hmandatory, ids_outline]
    refine .inl ⟨_, result_ofStandings_of_mandatory hmany, ?_⟩
    rw [hids]
    exact result_ofStandings_of_mandatory (hlength ▸ hmany)
  · refine .inr ⟨ranked policy standings, ranked policy standings', ?_,
      fun _ hx => (ranked_perm policy standings).mem_iff.mp hx,
      fun _ hx => (ranked_perm policy standings').mem_iff.mp hx,
      result_ofStandings (by omega), result_ofStandings (by omega)⟩
    rw [← ranked_outline hdistinct, h, ranked_outline hdistinct']

end Ruling

end SutraArbiter
