import SutraArbiter.Proofs.Arbitration
import SutraArbiter.Proofs.Strategy.Verdict

namespace SutraArbiter

namespace Strategy

variable {strategy : Strategy} {words : List Word} {context : Context} {params : Datum}
  {reason : String}

/-- Too few words are no near miss. -/
theorem nearMiss_of_hasMinimum? {judged : Except Fault Finding}
    (h : (hasMinimum? words params >>= fun enough =>
      if enough then judged else pure .tooFewWords) = .ok (.passed reason true)) :
    judged = .ok (.passed reason true) := by
  obtain ⟨enough, -, h⟩ := bind_eq_ok.mp h
  split at h
  · exact h
  · cases h

theorem judgeForms?_ne_nearMiss : judgeForms? words ≠ .ok (.passed reason true) := by
  intro h
  unfold judgeForms? at h
  split at h
  · cases h
  · split at h <;> cases h

theorem reason_of_judgeIdenticalForms
    (h : judgeIdenticalForms words context params = .ok (.passed reason true)) :
    reason = "case-mismatch" := by
  obtain ⟨strict, -, h⟩ := bind_eq_ok.mp (nearMiss_of_hasMinimum? h)
  split at h
  · cases h
    rfl
  · exact absurd h judgeForms?_ne_nearMiss

theorem judgeFlag?_ne_nearMiss : judgeFlag? words params ≠ .ok (.passed reason true) := by
  intro h
  obtain ⟨flag, -, h⟩ := bind_eq_ok.mp h
  split at h
  · obtain ⟨flagged, -, h⟩ := bind_eq_ok.mp h
    split at h
    · obtain ⟨given, -, h⟩ := bind_eq_ok.mp h
      obtain ⟨confidence, -, h⟩ := bind_eq_ok.mp h
      cases h
    · cases h
  · cases h

theorem judgeLexicalRetention_ne_nearMiss (context : Context) :
    judgeLexicalRetention words context params ≠ .ok (.passed reason true) := by
  intro h
  obtain ⟨listed, -, h⟩ := bind_eq_ok.mp (nearMiss_of_hasMinimum? h)
  obtain ⟨pairs, -, h⟩ := bind_eq_ok.mp h
  obtain ⟨⟨retain, drop⟩, -, h⟩ := bind_eq_ok.mp h
  dsimp only at h
  split at h
  · exact judgeFlag?_ne_nearMiss h
  · cases h

theorem judgeSeriesRetention_ne_nearMiss (context : Context) :
    judgeSeriesRetention words context params ≠ .ok (.passed reason true) := by
  intro h
  obtain ⟨series, -, h⟩ := bind_eq_ok.mp (nearMiss_of_hasMinimum? h)
  obtain ⟨flag, -, h⟩ := bind_eq_ok.mp h
  obtain ⟨members, -, h⟩ := bind_eq_ok.mp h
  split at h <;> cases h

theorem judgeAttributePairing_ne_nearMiss (context : Context) :
    judgeAttributePairing words context params ≠ .ok (.passed reason true) := by
  intro h
  obtain ⟨retaining, -, h⟩ := bind_eq_ok.mp (nearMiss_of_hasMinimum? h)
  obtain ⟨against, -, h⟩ := bind_eq_ok.mp h
  obtain ⟨⟨kept, dropped⟩, -, h⟩ := bind_eq_ok.mp h
  dsimp only at h
  split at h <;> cases h

theorem judgeAttributeSelection_ne_nearMiss (context : Context) :
    judgeAttributeSelection words context params ≠ .ok (.passed reason true) := by
  intro h
  obtain ⟨keepers, -, h⟩ := bind_eq_ok.mp (nearMiss_of_hasMinimum? h)
  split at h <;> cases h

theorem reason_of_nearMiss
    (h : strategy.judge words context params = .ok (.passed reason true)) :
    reason = "case-mismatch" := by
  cases strategy with
  | identicalForms => exact reason_of_judgeIdenticalForms h
  | lexicalRetention => exact absurd h (judgeLexicalRetention_ne_nearMiss context)
  | seriesRetention => exact absurd h (judgeSeriesRetention_ne_nearMiss context)
  | attributePairing => exact absurd h (judgeAttributePairing_ne_nearMiss context)
  | attributeSelection => exact absurd h (judgeAttributeSelection_ne_nearMiss context)

end Strategy

theorem Plan.reason_of_nearMiss {plan : Plan} {words : List Word} {context : Context}
    {reason : String} (h : plan.judge words context = .ok (.passed reason true)) :
    reason = "case-mismatch" := by
  obtain ⟨granted, -, h⟩ := bind_eq_ok.mp h
  split at h
  · obtain ⟨finding, hfinding, h⟩ := bind_eq_ok.mp h
    cases finding with
    | selected selection confidence => cases h
    | passed given nearMiss =>
        cases h
        exact Strategy.reason_of_nearMiss hfinding
  · cases h

theorem Entry.reason_of_nearMiss {entry : Entry} {plan : Plan} {words : List Word}
    {context : Context} {miss : Match} (hplan : entry.predicate = .plan plan)
    (h : entry.nearMiss? words context = some miss) :
    miss.reason = .datum (.text "case-mismatch") := by
  unfold nearMiss? at h
  split at h
  · rename_i reply hverdict
    split at h
    · rename_i hmissed
      cases h
      obtain ⟨finding, hjudged, hreply⟩ := Rule.exists_finding hplan hverdict
      cases finding with
      | selected selection confidence =>
          obtain ⟨hunmatched, -⟩ := Bool.and_eq_true_iff.mp hmissed
          simp only [Finding.verdict] at hreply
          split at hreply
          · cases hreply
          · cases hreply
            cases hunmatched
      | passed reason nearMiss =>
          cases hreply
          obtain ⟨-, hnear⟩ := Bool.and_eq_true_iff.mp hmissed
          obtain rfl : nearMiss = true := hnear
          rw [Plan.reason_of_nearMiss hjudged]
    · cases h
  · cases h

end SutraArbiter
