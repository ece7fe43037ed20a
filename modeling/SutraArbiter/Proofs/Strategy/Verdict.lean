import SutraArbiter.Proofs.Evaluation
import SutraArbiter.Proofs.Strategy.Alike

namespace SutraArbiter

namespace Match

def outline (reply : Match) : Match :=
  { reply with extracted := .null }

theorem outline_inj {reply other : Match} (h : reply.outline = other.outline) :
    reply.ruleId = other.ruleId ∧ reply.matched = other.matched
      ∧ reply.confidence = other.confidence ∧ reply.reason = other.reason
      ∧ reply.nearMiss = other.nearMiss := by
  simpa [outline] using h

end Match

namespace Finding

/-- Why a selection under this confidence is no reply, if it is none. -/
def problem? (confidence : Double) : Option ReplyProblem :=
  if confidence.isNaN then some .confidenceNotNumber
  else if confidence.level.isShare then Option.none
  else some (.confidenceOutside (.float confidence))

/-- The reply that a finding is held to under the id of its rule. -/
def verdict (id : String) : Finding → Except String Match
  | .selected selection confidence =>
      match problem? confidence with
      | some problem => .error problem.message
      | Option.none =>
          .ok ⟨id, true, confidence, .map selection.toEntries, .datum .null, .bool false⟩
  | .passed reason nearMiss =>
      .ok ⟨id, false, .zero, .map [], .datum (.text reason), .bool nearMiss⟩

theorem toMatch?_report (id : String) (finding : Finding) :
    ∃ reading, (Reply.report finding.report).toMatch? id = .ok reading
      ∧ finding.verdict id = reading.mapError ReplyProblem.message := by
  cases finding with
  | selected selection confidence =>
      simp only [verdict, problem?]
      cases hnan : confidence.isNaN with
      | true =>
          refine ⟨.error .confidenceNotNumber, ?_, rfl⟩
          simp [Reply.toMatch?, Finding.report, Report.toMatch?, readConfidence?, hnan, pure,
            Except.pure]
      | false =>
          cases hshare : confidence.level.isShare with
          | true =>
              refine ⟨.ok ⟨id, true, confidence, .map selection.toEntries, .datum .null,
                .bool false⟩, ?_, rfl⟩
              simp [Reply.toMatch?, Finding.report, Report.toMatch?, readConfidence?, hnan,
                Datum.level?, hshare, nearMissOf, Datum.holds, pure, Except.pure]
          | false =>
              refine ⟨.error (.confidenceOutside (.float confidence)), ?_, rfl⟩
              simp [Reply.toMatch?, Finding.report, Report.toMatch?, readConfidence?, hnan,
                Datum.level?, hshare, pure, Except.pure]
  | passed reason nearMiss =>
      refine ⟨.ok ⟨id, false, .zero, .map [], .datum (.text reason), .bool nearMiss⟩, ?_, rfl⟩
      cases nearMiss <;>
        simp [Reply.toMatch?, Finding.report, Report.toMatch?, readConfidence?, Double.zero,
          Double.isNaN, nearMissOf, Datum.holds, pure, Except.pure]

theorem verdict_outline {id : String} {first second : Finding}
    (h : first.outline = second.outline) :
    (first.verdict id).map Match.outline = (second.verdict id).map Match.outline := by
  cases first with
  | selected selection confidence =>
      cases second with
      | selected other confidence' =>
          obtain rfl : confidence = confidence' := by
            cases h
            rfl
          simp only [verdict]
          cases problem? confidence <;> rfl
      | passed reason nearMiss => cases h
  | passed reason nearMiss =>
      cases second with
      | selected other confidence => cases h
      | passed reason' nearMiss' =>
          cases h
          rfl

theorem verdict_matched {id : String} {finding : Finding} {reply : Match}
    (h : finding.verdict id = .ok reply) (hmatched : reply.matched = true) :
    ∃ selection, finding = .selected selection reply.confidence
      ∧ reply.extracted = .map selection.toEntries := by
  cases finding with
  | selected selection confidence =>
      simp only [verdict] at h
      split at h
      · cases h
      · cases h
        exact ⟨selection, rfl, rfl⟩
  | passed reason nearMiss =>
      cases h
      cases hmatched

theorem verdict_reason {id : String} {finding : Finding} {reply : Match}
    (h : finding.verdict id = .ok reply) :
    ∃ given, reply.reason = .datum given ∧ given.isOverlong = false := by
  cases finding with
  | selected selection confidence =>
      simp only [verdict] at h
      split at h <;> cases h
      exact ⟨.null, rfl, rfl⟩
  | passed reason nearMiss =>
      cases h
      exact ⟨.text reason, rfl, Datum.isOverlong_text reason⟩

end Finding

/-- A rule that judges by a proper plan and reports its selection. -/
def Rule.IsPlanned (rule : Rule) : Prop :=
  ∃ plan settings, rule.predicate = .plan plan ∧ rule.action = .retainSelection settings
    ∧ plan.IsProper

namespace Rule

variable {rule : Rule} {plan : Plan} {words : List Word} {context : Context}

theorem asked?_of_judge (hplan : rule.predicate = .plan plan) {finding : Finding}
    (hjudged : plan.judge words context = .ok finding) :
    rule.asked? words context = .ok (finding.verdict rule.id) := by
  obtain ⟨reading, hreading, hverdict⟩ := Finding.toMatch?_report rule.id finding
  rw [hverdict]
  refine asked?_of_reply ?_ hreading
  rw [hplan, Predicate.answer, hjudged]
  rfl

/-- A rule that judges by a plan is held to what the plan finds. -/
theorem verdict_of_judge (hplan : rule.predicate = .plan plan) {finding : Finding}
    (hjudged : plan.judge words context = .ok finding) :
    rule.verdict words context = finding.verdict rule.id :=
  verdict_of_asked? (asked?_of_judge hplan hjudged)

theorem asked?_of_judge_error (hplan : rule.predicate = .plan plan) {fault : Fault}
    (hjudged : plan.judge words context = .error fault) :
    rule.asked? words context = .ok (.error fault.line) := by
  unfold asked?
  rw [hplan, Predicate.answer, hjudged]
  rfl

theorem verdict_plan (hplan : rule.predicate = .plan plan) (hproper : plan.IsProper)
    (hclear : ∀ word ∈ words, word.IsClear) (hcontext : context.IsClear) :
    rule.verdict words context = (plan.finding words context).verdict rule.id :=
  verdict_of_judge hplan (Plan.judge_eq_ok hproper hclear hcontext)

/-- A reply that a plan is held to is what the plan found. -/
theorem exists_finding (hplan : rule.predicate = .plan plan) {reply : Match}
    (hreply : rule.verdict words context = .ok reply) :
    ∃ finding, plan.judge words context = .ok finding
      ∧ finding.verdict rule.id = .ok reply := by
  cases hjudged : plan.judge words context with
  | error fault =>
      rw [verdict_of_asked? (asked?_of_judge_error hplan hjudged)] at hreply
      cases hreply
  | ok finding =>
      rw [verdict_of_judge hplan hjudged] at hreply
      exact ⟨finding, rfl, hreply⟩

/-- A match by a plan is a selection. -/
theorem selected_of_verdict (hplan : rule.predicate = .plan plan) {reply : Match}
    (hreply : rule.verdict words context = .ok reply) (hmatched : reply.matched = true) :
    ∃ selection, plan.judge words context = .ok (.selected selection reply.confidence)
      ∧ reply.extracted = .map selection.toEntries := by
  obtain ⟨finding, hjudged, hverdict⟩ := exists_finding hplan hreply
  obtain ⟨selection, rfl, hextracted⟩ := Finding.verdict_matched hverdict hmatched
  exact ⟨selection, hjudged, hextracted⟩

theorem isReadable_plan (hplan : rule.predicate = .plan plan) :
    rule.IsReadable words context := by
  cases hjudged : plan.judge words context with
  | error fault => exact ⟨_, asked?_of_judge_error hplan hjudged⟩
  | ok finding => exact ⟨_, asked?_of_judge hplan hjudged⟩

theorem verdict_reason {reply : Match} (hplan : rule.predicate = .plan plan)
    (hreply : rule.verdict words context = .ok reply) :
    ∃ given, reply.reason = .datum given ∧ given.isOverlong = false := by
  obtain ⟨finding, -, hverdict⟩ := exists_finding hplan hreply
  exact Finding.verdict_reason hverdict

theorem held_reason (words : List Word) (context : Context) (hplan : rule.predicate = .plan plan) :
    ∃ given, (rule.held words context).reason = .datum given ∧ given.isOverlong = false := by
  unfold held
  split
  · rename_i reply hreply
    exact verdict_reason hplan hreply
  · exact ⟨_, rfl, Datum.isOverlong_text _⟩

end Rule

end SutraArbiter
