import SutraArbiter.Logged

namespace SutraArbiter

/-! Evaluation: every candidate is asked, and a candidate that fails or answers
out of form counts as unmatched and is reported. -/

inductive DiagnosticCode
  | predicateFailure
  | actionFailure
  deriving DecidableEq

def DiagnosticCode.name : DiagnosticCode → String
  | predicateFailure => "predicate-failure"
  | actionFailure => "action-failure"

structure Diagnostic where
  code : DiagnosticCode
  ruleId : String
  message : String
  deriving DecidableEq

inductive ReplyProblem
  | notReport (kind : Kind)
  | matchedNotBoolean
  | confidenceNotNumber
  | confidenceOutside (given : Datum)

def ReplyProblem.message : ReplyProblem → String
  | notReport kind => s!"expected PredicateOutcome, got {kind.label}"
  | matchedNotBoolean => "matched must be a boolean"
  | confidenceNotNumber => "confidence must be a number"
  | confidenceOutside given => s!"confidence {given.plain} outside 0..1"

/-- The confidence that a report gives, if it is a number at all; an integer too
large for a floating-point number is a fault. -/
def readConfidence? : Datum → Except Fault (Option Double)
  | .float x => .ok (if x.isNaN then none else some x)
  | .int i => (Datum.inRange? (Double.ofInt? i)).map some
  | _ => .ok none

/-- A match is no near miss. -/
def nearMissOf (matched : Bool) (given : Datum) : Datum :=
  if given.holds then .bool !matched else given

/-- A report is looked at from the front, and only as far as there is nothing wrong with it. -/
def Report.toMatch? (ruleId : String) (report : Report) :
    Except Fault (Except ReplyProblem Match) := do
  let matched ← report.matched.look
  match matched with
  | .bool matched => do
      let given ← report.confidence.look
      let read ← readConfidence? given
      match read with
      | none => pure (.error .confidenceNotNumber)
      | some confidence =>
          let level := given.level?.getD .undefined
          if matched && !level.isShare then pure (.error (.confidenceOutside given))
          else do
            let nearMiss ← report.nearMiss.look
            pure (.ok {
              ruleId, matched
              confidence := if matched then confidence else .zero
              extracted := report.extracted
              reason := report.reason
              nearMiss := nearMissOf matched nearMiss })
  | _ => pure (.error .matchedNotBoolean)

def Reply.toMatch? (ruleId : String) : Reply → Except Fault (Except ReplyProblem Match)
  | .report given => given.toMatch? ruleId
  | .other given => do
      let datum ← given.look
      pure (.error (.notReport datum.kind))

/-- What stands for the reply of a candidate that gave none. -/
def Match.failed (ruleId : String) : Match where
  ruleId
  matched := false
  confidence := .zero
  extracted := .map []
  reason := .datum (.text DiagnosticCode.predicateFailure.name)
  nearMiss := .bool false

structure Evaluation where
  replies : List Match
  diagnostics : List Diagnostic

namespace Evaluation

def empty : Evaluation := ⟨[], []⟩

def matched (evaluation : Evaluation) : List Match :=
  evaluation.replies.filter Match.matched

def firstNearMiss? (evaluation : Evaluation) : Option Match :=
  evaluation.replies.find? fun reply => !reply.matched && reply.nearMiss.holds

def cons (reply : Match) (evaluation : Evaluation) : Evaluation :=
  { evaluation with replies := reply :: evaluation.replies }

def consFailure (ruleId message : String) (evaluation : Evaluation) : Evaluation where
  replies := .failed ruleId :: evaluation.replies
  diagnostics := ⟨.predicateFailure, ruleId, message⟩ :: evaluation.diagnostics

def ofRules (words : List Word) (context : Context) : List Rule → Logged Evaluation
  | [] => pure empty
  | rule :: rest =>
      match rule.predicate.answer words context with
      | .error raised => do
          let line ← Logged.ofFault raised.line?
          Logged.note (.predicateFailed rule.id line)
          let others ← ofRules words context rest
          pure (others.consFailure rule.id line)
      | .ok reply => do
          let accepted ← Logged.ofFault (reply.toMatch? rule.id)
          match accepted with
          | .error problem =>
              Logged.note (.badReply rule.id problem.message)
              let others ← ofRules words context rest
              pure (others.consFailure rule.id problem.message)
          | .ok reply =>
              let others ← ofRules words context rest
              pure (others.cons reply)

def ofCandidates (limit : Nat) (rules : List Rule) (words : List Word)
    (context : Context) : Logged Evaluation :=
  if limit < rules.length then Logged.fail (.exhausted rules.length limit)
  else ofRules words context rules

end Evaluation

end SutraArbiter
