import SutraArbiter.Evaluation

namespace SutraArbiter

/-! Execution: the action of the governing rule is run, and what it gives becomes
the payload unless it fails or takes a name that the envelope keeps. -/

namespace Envelope

def reservedNames : List String :=
  ["applied", "confidence", "diagnostics", "error", "explanation", "mandatory",
    "priority_class", "reason", "script", "sutra", "trace"]

end Envelope

inductive ActionProblem
  | notMapping (kind : Kind)
  | shadows (names : List String)

def ActionProblem.message : ActionProblem → String
  | notMapping kind => s!"action returned {kind.label}, expected a mapping"
  | shadows names =>
      let shown := ", ".intercalate names
      s!"action payload shadows envelope keys: {shown}"

def shadowed (payload : Entries) : List String :=
  Envelope.reservedNames.filter payload.has

def checkPayload : Datum → Except ActionProblem Entries
  | .map payload =>
      if (shadowed payload).isEmpty then .ok payload
      else .error (.shadows (shadowed payload))
  | d => .error (.notMapping d.kind)

inductive Execution
  | done (payload : Entries)
  | failed (diagnostic : Diagnostic)

namespace Execution

def isDone : Execution → Bool
  | done _ => true
  | failed _ => false

def fail (ruleId message : String) : Logged Execution := do
  Logged.note (.actionFailed ruleId message)
  pure (.failed ⟨.actionFailure, ruleId, message⟩)

def ofRule (rule : Rule) (words : List Word) (context : Context) (reply : Match) :
    Logged Execution :=
  match rule.action.perform words context reply with
  | .error raised => do
      let line ← Logged.ofFault raised.line?
      fail rule.id line
  | .ok given => do
      let datum ← Logged.ofFault given.look
      match checkPayload datum with
      | .error problem => fail rule.id problem.message
      | .ok payload => pure (.done payload)

end Execution

end SutraArbiter
