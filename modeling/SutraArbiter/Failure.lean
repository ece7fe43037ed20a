import SutraArbiter.Rule.Violation

namespace SutraArbiter

/-! Why an answer cannot be given, each cause with its class and its message.  What is
`told` of a document are the words of the parser that refused it. -/

inductive ConfigFault
  | candidateLimit
  | tieBreak (quoted : String)
  | sourceConflict
  | fileMissing (path : String)
  | fileExtension (name : String)
  | directoryMissing (path : String)
  | unreadable (path : String)
  | unparsable (path told : String)
  | ruleNotMapping (path : String)
  | duplicateRule (id first second : String)
  | configMissing (path : String)
  | configUnparsable (path told : String)
  | configNotMapping (path : String)
  | configKeys (path : String) (keys : List Datum)
  | noScope
  | rulesDirectory
  | notTexts (key : String)
  | wordsNotJson (told : String)
  | contextNotJson (told : String)
  | contextNotObject

/-- What reading a directory as a file comes to. -/
def directoryReading (path : String) : String :=
  s!"[Errno 21] Is a directory: {Text.quoteString path}"

def ConfigFault.message : ConfigFault → String
  | candidateLimit => "max_candidates must be a positive integer"
  | tieBreak quoted =>
      s!"tie_break must be one of ['confidence-first', 'declaration-first'], got {quoted}"
  | sourceConflict =>
      "Rules source conflict: choose either rules_dir or rule_files, not both."
  | fileMissing path => s!"Rule file not found: {path}"
  | fileExtension name => s!"Rule file must use .yaml extension: {name}"
  | directoryMissing path => s!"Rules directory not found: {path}"
  | unreadable path =>
      s!"Failed to read rule file {path}: {directoryReading path}"
  | unparsable path told => s!"Invalid YAML in {path}: {told}"
  | ruleNotMapping path => s!"Rule file {path} must contain a mapping"
  | duplicateRule id first second =>
      s!"Duplicate rule_id '{id}' loaded from {first} and {second}"
  | configMissing path => s!"Config file not found: {path}"
  | configUnparsable path told => s!"Invalid YAML config file at {path}: {told}"
  | configNotMapping path => s!"Config file at {path} must be a YAML mapping"
  | configKeys path keys => s!"Unknown config keys in {path}: {Violation.quotedKeys keys}"
  | noScope => "default_scope must name at least one scope tag"
  | rulesDirectory => "rules_dir must be a string path"
  | notTexts key => s!"{key} must be a list of strings"
  | wordsNotJson told => s!"--json-input is not valid JSON: {told}"
  | contextNotJson told => s!"--context is not valid JSON: {told}"
  | contextNotObject => "--context must be a JSON object"

/-- A name that a rule gives and that is not registered. -/
inductive Unbound
  | predicate (name : String)
  | action (name : String)

def Unbound.message : Unbound → String
  | predicate name => s!"strategy '{name}' not found in predicate registry"
  | action name => s!"strategy '{name}' not found in action registry"

inductive MalformedRule
  | notRule (kind : Kind)
  | id (given : Datum)
  | tier (id : String) (given : Datum)
  | tags (id : String)
  | noTags (id : String)
  | predicate (id : String)
  | action (id : String)

namespace MalformedRule

def message : MalformedRule → String
  | .notRule kind => s!"Expected RuleDescriptor, got {kind.label}"
  | .id given =>
      s!"Rule id must be a dotted numeral like '1.2.64', got {given.quoted}"
  | .tier rule given => s!"Rule {rule}: unrecognized priority class {given.quoted}"
  | .tags rule => s!"Rule {rule}: scope_tags must be a collection of non-empty strings"
  | .noTags rule => s!"Rule {rule}: at least one scope tag is required"
  | .predicate rule => s!"Rule {rule}: predicate must be callable"
  | .action rule => s!"Rule {rule}: action must be callable"

def evidence : MalformedRule → List Datum
  | .id given => [given]
  | .tier _ given => [given]
  | _ => []

end MalformedRule

inductive Failure
  | fault (fault : Fault)
  | directory (path : String)
  | config (fault : ConfigFault)
  | schema (source : String) (violation : Violation)
  | unbound (source : String) (part : Unbound)
  | tier (fault : TierFault)
  | malformed (fault : MalformedRule)
  | frozen (id : String)
  | duplicateId (id : String)
  | ambiguous (ids : List String)
  | exhausted (count limit : Nat)

namespace Failure

def label : Failure → String
  | .fault cause => cause.label
  | directory _ => "IsADirectoryError"
  | config _ => "ConfigError"
  | schema .. => "RuleSchemaError"
  | unbound .. => "RuleCompileError"
  | tier _ => "ValueError"
  | malformed _ => "InvalidDescriptor"
  | frozen _ => "RegistryConfigurationError"
  | duplicateId _ => "DuplicateRuleId"
  | ambiguous _ => "AmbiguousMandatoryRule"
  | exhausted .. => "ResourceExhausted"

def message : Failure → String
  | .fault cause => cause.message
  | directory path => directoryReading path
  | .config cause => cause.message
  | schema source violation => s!"{source}: {violation.message}"
  | unbound source part => s!"{source}: {part.message}"
  | .tier cause => cause.message
  | .malformed cause => cause.message
  | frozen id => s!"Cannot register rule {id}: registry is frozen"
  | duplicateId id => s!"Duplicate rule id registered: {id}"
  | ambiguous ids =>
      let names := ", ".intercalate ids
      s!"Mandatory rules {names} matched the same input; mandatory rules must be "
        ++ "mutually exclusive"
  | exhausted count limit =>
      s!"{count} candidate rules exceed the configured ceiling of {limit}"

/-- Whether the configuration, a rule source or a rule file is at fault. -/
def isConfig : Failure → Bool
  | config _ => true
  | schema .. => true
  | unbound .. => true
  | _ => false

def isEngine : Failure → Bool
  | .fault _ => false
  | .directory _ => false
  | .tier _ => false
  | _ => true

def ofObjection (source : String) : Objection → Failure
  | .violation violation => schema source violation
  | .fault cause => .fault cause

end Failure

end SutraArbiter
