import SutraArbiter.CommandLine.Request
import SutraArbiter.Config
import SutraArbiter.Json.Indented
import SutraArbiter.Json.Reading
import SutraArbiter.Pack.Inspection

namespace SutraArbiter

/-- What a command writes; a failure that no command expects is told apart. -/
inductive Outcome
  | usage
  | done (status : Nat) (output errors : String)
  | broken (failure : Failure)

namespace Outcome

def usageStatus : Nat := 2

def configStatus : Nat := 2

def engineStatus : Nat := 1

end Outcome

namespace Request

def lines (texts : List String) : String :=
  String.join (texts.map fun text => text ++ "\n")

/-- The lines of what was recorded, details only where they are asked for. -/
def record (request : Request) (events : List Event) : List String :=
  (events.filter fun event => request.verbose || event.severity ≠ .debug).map Event.line

def refuse (request : Request) (events : List Event) (failure : Failure)
    (expected : Bool) (heading : String) (status : Nat) : Outcome :=
  if expected then
    .done status "" (lines (request.record events ++ [s!"{heading}: {failure.message}"]))
  else .broken failure

def refuseConfig (request : Request) (events : List Event) (failure : Failure) : Outcome :=
  request.refuse events failure failure.isConfig "Configuration error"
    Outcome.configStatus

def refuseEngine (request : Request) (events : List Event) (failure : Failure) : Outcome :=
  request.refuse events failure failure.isEngine "Engine error" Outcome.engineStatus

def readJson (complaint : String → String) (malformed : String → ConfigFault)
    (text : String) : Except Failure Datum :=
  match Json.read text.toList with
  | .ok datum => .ok datum
  | .error .malformed => .error (.config (malformed (complaint text)))
  | .error (.overlong digits) => .error (.fault (.overlongNumeral digits))
  | .error (.tooDeep kind) => .error (.fault (.nestedTooDeep kind))

def readWords (complaint : String → String) (request : Request) : Except Failure Datum :=
  if request.jsonInput then
    readJson complaint .wordsNotJson (" ".intercalate request.words)
  else .ok (Datum.ofStrings request.words)

def readContext (complaint : String → String) (request : Request) :
    Except Failure Datum :=
  match request.context with
  | none => .ok .null
  | some .nothing => .error (.fault (.notJsonText .list))
  | some (.text text) => do
      let context ← readJson complaint .contextNotJson text
      if context.isMap then pure context
      else .error (.config .contextNotObject)

def scopeDatum (request : Request) : Datum :=
  if request.scope.isEmpty then .null else .list (request.scope.map Given.toDatum)

/-- The source that a request names itself, as far as what it is given are paths,
and the fault of what follows. -/
def source? (request : Request) : Option (Source × Option Fault) :=
  match request.rulesDirectory, request.ruleFiles with
  | some directory, _ =>
      match directory.toPath? with
      | .ok path => some (⟨some path, none⟩, none)
      | .error fault => some (⟨none, some []⟩, some fault)
  | none, [] => none
  | none, files =>
      let (paths, fault) := leadingPaths files
      some (⟨none, some paths⟩, fault)
where
  leadingPaths : List Given → List Path × Option Fault
    | [] => ([], none)
    | given :: rest =>
        match given.toPath? with
        | .ok path => (path :: (leadingPaths rest).1, (leadingPaths rest).2)
        | .error fault => ([], some fault)

/-- Nothing in place of a configuration file stands for the usual one. -/
def configPath (given : Given) : Path :=
  match given.toPath? with
  | .ok path => path
  | .error _ => Path.ofString Config.fileName

def readConfig (files : Files) (request : Request) : Except Failure Config :=
  Config.load files .root (request.config.map configPath)

/-- The engine of the configuration on file, with the source of the request in place
of its own. -/
def readEngine (files : Files) (request : Request) : Logged Engine := do
  let config ← Logged.ofExcept (request.readConfig files)
  match request.source? with
  | none => config.engine files none
  | some (source, none) => ({ config with source } : Config).engine files none
  | some (source, some fault) => do
      let _ ← Logged.ofExcept (source.collect files)
      Logged.ofFault (.error fault)

def prepare (complaint : String → String) (files : Files) (request : Request) :
    Logged (Engine × Datum × Datum) := do
  let words ← Logged.ofExcept (request.readWords complaint)
  let context ← Logged.ofExcept (request.readContext complaint)
  let engine ← request.readEngine files
  pure (engine, words, context)

def printed (events : List String) : Except Fault (List Char) → Outcome
  | .ok text => .done 0 (String.ofList text ++ "\n") (lines events)
  | .error fault => .broken (.fault fault)

def resolve (complaint : String → String) (files : Files) (request : Request) : Outcome :=
  let prepared := request.prepare complaint files
  match prepared.result with
  | .error failure => request.refuseConfig prepared.events failure
  | .ok (engine, words, context) =>
      let answer := engine.resolve words context request.scopeDatum
      let events := prepared.events ++ answer.events
      match answer.result with
      | .error failure => request.refuseEngine events failure
      | .ok envelope =>
          printed (request.record events) (Json.indented? 0 envelope.toDatum)

def column (width : Nat) (text : String) : String :=
  text ++ String.ofList (List.replicate (width - text.length) ' ')

def ruleLine (entry : Entry) : String :=
  " ".intercalate [column 8 entry.id, column 18 entry.tier.name,
    column 32 (Event.list entry.tags), entry.title]

def shownDigits : Nat := 16

def summaryLine (registry : Registry) (fingerprint : String) : String :=
  let shown := String.ofList (fingerprint.toList.take shownDigits)
  s!"{registry.entries.length} rule(s), fingerprint {shown}"

def listRules (files : Files) (request : Request) : Outcome :=
  let prepared := request.readEngine files
  match prepared.result with
  | .error failure => request.refuseConfig prepared.events failure
  | .ok engine =>
      let registry := engine.registry
      match registry.fingerprint? with
      | .error fault => .broken (.fault fault)
      | .ok fingerprint =>
          .done 0
            (lines (registry.entries.map ruleLine ++ [summaryLine registry fingerprint]))
            (lines (request.record prepared.events))

def inspect (files : Files) (request : Request) : Except Fault (List Problem) :=
  match request.source? with
  | none => Pack.inspect files .bundled
  | some (source, none) => Pack.inspect files source
  | some (source, some fault) => do
      let _ ← (source.files.getD []).mapM (Pack.inspectExplicit files)
      .error fault

def validateRules (files : Files) (request : Request) : Outcome :=
  match request.inspect files with
  | .error fault => .broken (.fault fault)
  | .ok [] => .done 0 (lines ["Rules are valid."]) ""
  | .ok problems => .done Outcome.configStatus "" (lines [Problem.report problems])

def answer (complaint : String → String) (files : Files) (request : Request) :
    Command → Outcome
  | .resolve => request.resolve complaint files
  | .rules => request.listRules files
  | .validateRules => request.validateRules files

end Request

namespace Command

def run (complaint : String → String) (files : Files) : List String → Outcome
  | [] => .usage
  | name :: arguments =>
      match ofName? name with
      | none => .usage
      | some command =>
          match Request.read? command arguments with
          | none => .usage
          | some request => request.answer complaint files command

end Command

end SutraArbiter
