import SutraArbiter.Criteria
import SutraArbiter.Payload
import SutraArbiter.Strategy
import SutraArbiter.Tags
import SutraArbiter.Tier

namespace SutraArbiter

/-- What a rule of the caller's own hands over: data, or a thing that fails as soon as it is
looked into. -/
inductive Value
  | datum (datum : Datum)
  | brittle (fault : Fault)

def Value.look : Value → Except Fault Datum
  | .datum d => .ok d
  | .brittle fault => .error fault

@[simp] theorem Value.look_datum (d : Datum) : (datum d).look = .ok d := rfl

@[simp] theorem Value.look_brittle (fault : Fault) : (brittle fault).look = .error fault := rfl

/-- How a rule fails: with a message, or with one that fails itself while it is written. -/
inductive Raised
  | told (fault : Fault)
  | untold (cause : Fault)

def Raised.line? : Raised → Except Fault String
  | .told fault => .ok fault.line
  | .untold cause => .error cause

structure Report where
  matched : Value
  confidence : Value
  extracted : Datum
  reason : Value
  nearMiss : Value

/-- A predicate answers with a report; one of the caller's own may answer with
anything else. A report of its own making whose `extracted` fails when it is fetched is no
report but a brittle thing: the failure comes from the same place. -/
inductive Reply
  | report (report : Report)
  | other (given : Value)

def Finding.report : Finding → Report
  | .selected selection confidence => {
      matched := .datum (.bool true)
      confidence := .datum (.float confidence)
      extracted := .map selection.toEntries
      reason := .datum .null
      nearMiss := .datum (.bool false) }
  | .passed reason nearMiss => {
      matched := .datum (.bool false)
      confidence := .datum (.float .zero)
      extracted := .map []
      reason := .datum (.text reason)
      nearMiss := .datum (.bool nearMiss) }

/-- A reply that was accepted, under the rule that gave it. -/
structure Match where
  ruleId : String
  matched : Bool
  confidence : Double
  extracted : Datum
  reason : Value
  nearMiss : Datum

/-- The predicate of a rule file: a gate, a strategy with its parameters, and the
confidence of the rule itself. -/
structure Plan where
  strategy : Strategy
  params : Entries
  confidence : Double
  require : Entries
  forbid : Entries

namespace Plan

/-- Confidence is kept to six places. -/
def weigh (plan : Plan) : Finding → Finding
  | .selected selection confidence =>
      .selected selection ((confidence.mul plan.confidence).roundPlaces 6)
  | .passed reason nearMiss => .passed reason nearMiss

def judge (plan : Plan) (words : List Word) (context : Context) :
    Except Fault Finding := do
  let granted ← context.satisfies? (.map plan.require) (.map plan.forbid)
  if granted then
    let finding ← plan.strategy.judge words context (.map plan.params)
    pure (plan.weigh finding)
  else pure (.passed "context-gate" false)

end Plan

inductive Predicate
  | plan (plan : Plan)
  | custom (name : String) (answer : List Word → Context → Except Raised Reply)

def Predicate.name : Predicate → String
  | .plan _ => "plan"
  | .custom name _ => name

def Predicate.answer : Predicate → List Word → Context → Except Raised Reply
  | .plan own, words, context => do
      let finding ← (own.judge words context).mapError .told
      pure (.report finding.report)
  | .custom _ reply, words, context => reply words context

inductive Action
  /-- Reports the selection, with the settings of the rule. -/
  | retainSelection (settings : Entries)
  | custom (perform : List Word → Context → Match → Except Raised Value)

def Action.perform : Action → List Word → Context → Match → Except Raised Value
  | .retainSelection settings, words, _, governing => do
      let payload ← (Payload.ofSelection? words governing.extracted (.map settings)).mapError .told
      pure (.datum (.map payload))
  | .custom act, words, context, governing => act words context governing

structure Rule where
  id : String
  tier : Tier
  tags : List String
  title : String
  description : String
  reason : String
  source : String
  definition : Entries
  predicate : Predicate
  action : Action

namespace Rule

def usualReason : String := "rule-applied"

def isMandatory (rule : Rule) : Bool :=
  rule.tier = .mandatory

end Rule

end SutraArbiter
