import SutraArbiter.Execution
import SutraArbiter.Ranking

namespace SutraArbiter

structure Envelope where
  applied : Bool
  sutra : Option String
  mandatory : Bool
  reason : Datum
  confidence : Double
  tier : Option Tier
  explanation : String
  script : Option Script
  error : Option InputError
  payload : Entries
  trace : List Trace
  diagnostics : List Diagnostic

namespace Envelope

def nothing (reason : Datum) (explanation : String) (script : Option Script) :
    Envelope where
  applied := false
  sutra := none
  mandatory := false
  reason
  confidence := .zero
  tier := none
  explanation
  script
  error := none
  payload := []
  trace := []
  diagnostics := []

def ofRejection (rejection : Rejection) : Envelope :=
  { nothing (.text "invalid-input") rejection.message rejection.script with
    error := some rejection.error }

/-- The first near miss gives its reason, if it has one. -/
def ofEvaluation? (evaluation : Evaluation) (script : Option Script) :
    Except Fault Envelope :=
  let found (reason : Datum) (explanation : String) : Envelope :=
    { nothing reason explanation script with diagnostics := evaluation.diagnostics }
  match evaluation.firstNearMiss? with
  | some miss => do
      let given ← miss.reason.look
      if given.holds then do
        let told ← given.plain?
        pure (found given s!"Rule {miss.ruleId} did not apply: {told}")
      else pure (found (.text "no-rule-applies") "No rule applied")
  | none => .ok (found (.text "no-rule-applies") "No rule applied")

/-- The reason that a match gives stands before that of its rule. -/
def reasonOf? (governing : Standing) : Except Fault Datum := do
  let given ← governing.reply.reason.look
  pure (if given.holds then given else .text governing.entry.reason)

def ofPayload (governing : Standing) (reason : Datum) (payload : Entries)
    (trace : List Trace) (diagnostics : List Diagnostic) (script : Option Script) :
    Envelope where
  applied := true
  sutra := some governing.entry.id
  mandatory := governing.entry.isMandatory
  reason
  confidence := governing.reply.confidence
  tier := some governing.entry.tier
  explanation :=
    if governing.entry.description = "" then governing.entry.title
    else governing.entry.description
  script
  error := none
  payload
  trace
  diagnostics

def ofFailedAction (governing : Standing) (trace : List Trace)
    (diagnostics : List Diagnostic) (script : Option Script) : Envelope :=
  { nothing (.text DiagnosticCode.actionFailure.name)
      s!"Rule {governing.entry.id} governs but its action failed" script with
    trace
    diagnostics }

def optionalText (text : Option String) : Datum :=
  (text.map Datum.text).getD .null

def traceDatum (trace : Trace) : Datum :=
  .map [
    (.text "rule_id", .text trace.ruleId),
    (.text "priority_class", .text trace.tier.name),
    (.text "specificity", .int trace.specificity),
    (.text "confidence", .float trace.confidence),
    (.text "rank", .int trace.rank)]

def diagnosticDatum (diagnostic : Diagnostic) : Datum :=
  .map [
    (.text "code", .text diagnostic.code.name),
    (.text "rule_id", .text diagnostic.ruleId),
    (.text "message", .text diagnostic.message)]

def errorEntries (error : Option InputError) : Entries :=
  match error with
  | some error => [(.text "error", .text error.code)]
  | none => []

def toEntries (envelope : Envelope) : Entries :=
  [(.text "applied", .bool envelope.applied),
    (.text "sutra", optionalText envelope.sutra),
    (.text "mandatory", .bool envelope.mandatory),
    (.text "reason", envelope.reason),
    (.text "confidence", .float envelope.confidence),
    (.text "priority_class", optionalText (envelope.tier.map Tier.name)),
    (.text "explanation", .text envelope.explanation),
    (.text "script", optionalText (envelope.script.map Script.name))]
    ++ errorEntries envelope.error
    ++ envelope.payload
    ++ [(.text "trace", .list (envelope.trace.map traceDatum)),
      (.text "diagnostics", .list (envelope.diagnostics.map diagnosticDatum))]

def toDatum (envelope : Envelope) : Datum :=
  .map envelope.toEntries

def retainedIndex (envelope : Envelope) : Datum :=
  envelope.payload.getD "retained_index" .null

def indices? (envelope : Envelope) (name : String) : Except Fault (List Datum) :=
  (envelope.payload.getD name (.list [])).items?

def retainedIndices? (envelope : Envelope) : Except Fault (List Datum) :=
  envelope.indices? "retained_indices"

def droppedIndices? (envelope : Envelope) : Except Fault (List Datum) :=
  envelope.indices? "dropped_indices"

end Envelope

end SutraArbiter
