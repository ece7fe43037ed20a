import SutraArbiter.Envelope

namespace SutraArbiter

structure Engine where
  registry : Registry
  limit : Nat
  tieBreak : TieBreak
  defaultScope : List String

namespace Engine

def readLimit (d : Datum) : Except Failure Nat :=
  match d with
  | .int limit => if 0 < limit then .ok limit.toNat else .error (.config .candidateLimit)
  | _ => .error (.config .candidateLimit)

/-- An engine over a registry, which takes no more rules from then on. -/
def ofSettings (registry : Registry) (limit tieBreak : Datum)
    (defaultScope : List String) : Except Failure Engine := do
  let limit ← readLimit limit
  let tieBreak ← TieBreak.read tieBreak
  pure ⟨registry.freeze, limit, tieBreak, defaultScope⟩

def scopeTexts? (position : Nat) : List Datum → Except Fault (List String)
  | [] => .ok []
  | .text tag :: rest => do
      let tags ← scopeTexts? (position + 1) rest
      pure (tag :: tags)
  | item :: _ => .error (.notJoinable position item.kind)

def fitKeys : List Datum → Except Fault Unit
  | [] => .ok ()
  | item :: rest => do
      item.fitKey
      fitKeys rest

def readScope (engine : Engine) (scope : Datum) : Except Fault (List String) :=
  match scope with
  | .null => .ok engine.defaultScope
  | .text tag => .ok [tag]
  | scope => do
      let items ← scope.items?
      fitKeys items
      scopeTexts? 0 items

/-- The flags of a call; anything but a map or nothing is rejected. -/
def readContext (script : Option Script) (context : Datum) :
    Except Unusable Context :=
  match context with
  | .null => .ok .empty
  | .map entries =>
      match Context.read (.map entries) with
      | .ok context => .ok context
      | .error fault => .error (.fault fault)
  | context =>
      .error (.rejected ⟨.badContext, script,
        s!"context must be a mapping, got {context.kind.label}"⟩)

def noteRejection (rejection : Rejection) (context : Datum) : Logged Unit :=
  match rejection.error with
  | .badContext => Logged.note (.rejectedContext context.kind)
  | error => Logged.note (.rejectedInput error)

def noteUnread (context : Context) : Logged Unit :=
  if context.unreadFlags.isEmpty then pure ()
  else Logged.note (.unreadFlags context.unreadFlags)

def candidateTags (candidates : List Entry) : List String :=
  (candidates.flatMap fun entry => entry.tags).eraseDups

def returnNothing (evaluation : Evaluation) (script : Option Script) :
    Logged Envelope := do
  let envelope ← Logged.ofFault (Envelope.ofEvaluation? evaluation script)
  Logged.note (.returnedNothing envelope.reason.plain)
  pure envelope

def conclude (governing : Standing) (execution : Execution) (trace : List Trace)
    (diagnostics : List Diagnostic) (script : Option Script) : Except Fault Envelope :=
  match execution with
  | .done payload => do
      let reason ← Envelope.reasonOf? governing
      pure (.ofPayload governing reason payload trace diagnostics script)
  | .failed diagnostic =>
      .ok (.ofFailedAction governing trace (diagnostics ++ [diagnostic]) script)

def arbitrate (engine : Engine) (group : WordGroup) (context : Context)
    (scope : List String) : Logged Envelope := do
  let candidates := engine.registry.candidates scope
  Logged.note (.unevaluated group.words.length candidates.length scope)
  let evaluation ← Evaluation.ofCandidates engine.limit
    (candidates.map Entry.toRule) group.words context
  Logged.note (.evaluated (evaluation.matched.map Match.ruleId))
  let active := Tags.active group.words context (candidateTags candidates)
  let ruling ← Ruling.ofReplies engine.tieBreak candidates active evaluation.replies
  Logged.note (.resolved (ruling.governing.map fun standing => standing.entry.id))
  match ruling.governing with
  | none => returnNothing evaluation group.script
  | some governing => do
      let execution ← Execution.ofRule governing.entry.toRule group.words context
        governing.reply
      Logged.note (.executed governing.entry.id execution.isDone)
      let envelope ← Logged.ofFault
        (conclude governing execution ruling.trace evaluation.diagnostics group.script)
      Logged.note (.returned envelope.sutra envelope.reason.plain)
      pure envelope

def resolve (engine : Engine) (words context scope : Datum) : Logged Envelope :=
  match WordGroup.read words with
  | .error (.fault fault) => Logged.fail (.fault fault)
  | .error (.rejected rejection) => do
      noteRejection rejection context
      pure (.ofRejection rejection)
  | .ok group =>
      match readContext group.script context with
      | .error (.fault fault) => Logged.fail (.fault fault)
      | .error (.rejected rejection) => do
          noteRejection rejection context
          pure (.ofRejection rejection)
      | .ok context => do
          noteUnread context
          let scope ← Logged.ofFault (engine.readScope scope)
          engine.arbitrate group context scope

end Engine

end SutraArbiter
