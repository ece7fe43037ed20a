import SutraArbiter.Rule.Basic

namespace SutraArbiter

inductive Part
  | top
  | metadata
  | context
  | matching (strategy : Strategy)
  | action
  deriving DecidableEq

inductive LexiconPlace
  | retain (pair : Nat)
  | drop (pair : Nat)
  | series
  deriving DecidableEq

def LexiconPlace.label : LexiconPlace → String
  | retain pair => s!"match.pairs[{pair}].retain"
  | drop pair => s!"match.pairs[{pair}].drop"
  | series => "match.series"

inductive Violation
  | notMapping (kind : Kind)
  | unknownKeys (part : Part) (keys : List Datum)
  | missingKey (key : String)
  | ruleId (given : Datum)
  | version (given : Datum)
  | tier (given : Datum)
  | noTags
  | tag (given : Datum)
  | metadataNotMapping
  | missingMetadata (key : String)
  | metadataText (key : String)
  | confidence (given : Datum)
  | contextNotMapping
  | contextFlags (key : String)
  | matchNotMapping
  | matchWithoutStrategy
  | matchStrategy (given : Datum)
  | missingParameter (strategy : Strategy) (key : String)
  | flagConfidenceAlone
  | flagConfidence (given : Datum)
  | minWords (given : Datum)
  | parameterText (key : String)
  | filters (key : String)
  | noPairs
  | pairKeys (pair : Nat)
  | lexicon (place : LexiconPlace)
  | lexiconScripts (place : LexiconPlace) (keys : List Datum)
  | lexiconEntries (place : LexiconPlace) (script : String)
  | seriesOrFlag
  | actionNotMapping
  | actionWithoutStrategy
  | actionStrategy (given : Datum)
  | optionalNotBoolean
  | settingText (key : String)

namespace Violation

def quotedNames (names : List String) : String :=
  (Datum.ofStrings names).quoted

def actionNames : List String :=
  ["retain_selection"]

def quotedKeys (keys : List Datum) : String :=
  (Datum.list keys).quoted

def unknownKeysMessage (keys : List Datum) : Part → String
  | .top => s!"unknown top-level keys: {quotedKeys keys}"
  | .metadata => s!"unknown metadata keys: {quotedKeys keys}"
  | .context => s!"unknown context keys: {quotedKeys keys}"
  | .matching strategy =>
      s!"unknown match keys for strategy '{strategy.name}': {quotedKeys keys}"
  | .action => s!"unknown action keys: {quotedKeys keys}"

def message : Violation → String
  | notMapping kind => s!"rule must be a mapping, got {kind.label}"
  | unknownKeys part keys => unknownKeysMessage keys part
  | missingKey key => s!"missing required key '{key}'"
  | ruleId given =>
      "'rule_id' must be a quoted dotted numeral like \"1.2.64\", got " ++ given.quoted
  | version given => s!"'version' must be 1, got {given.quoted}"
  | tier given =>
      s!"priority_class must be one of {quotedNames (Tier.all.map Tier.name)}, got "
        ++ given.quoted
  | noTags => "'scope_tags' must be a non-empty list"
  | tag given => s!"scope_tags entries must be non-empty strings, got {given.quoted}"
  | metadataNotMapping => "'metadata' must be a mapping"
  | missingMetadata key => s!"metadata missing required key '{key}'"
  | metadataText key => s!"metadata.{key} must be a non-empty string"
  | confidence given =>
      s!"metadata.confidence must be a number in [0, 1], got {given.quoted}"
  | contextNotMapping => "'context' must be a mapping"
  | contextFlags key => s!"context.{key} must be a mapping of flag to value"
  | matchNotMapping => "'match' must be a mapping"
  | matchWithoutStrategy => "match missing 'strategy'"
  | matchStrategy given =>
      s!"match.strategy must be one of {quotedNames (Strategy.all.map Strategy.name)}, got "
        ++ given.quoted
  | missingParameter strategy key =>
      s!"match strategy '{strategy.name}' requires '{key}'"
  | flagConfidenceAlone => "match.flag_confidence requires match.flag"
  | flagConfidence given =>
      s!"match.flag_confidence must be a number in [0, 1], got {given.quoted}"
  | minWords given => s!"match.min_words must be a positive integer, got {given.quoted}"
  | parameterText key => s!"match.{key} must be a non-empty string"
  | filters key => s!"match.{key} must be a non-empty mapping of attribute filters"
  | noPairs => "match.pairs must be a non-empty list"
  | pairKeys pair => s!"match.pairs[{pair}] must have exactly 'retain' and 'drop'"
  | lexicon place => s!"{place.label} must be a mapping of script to word list"
  | lexiconScripts place keys =>
      s!"{place.label} has unknown scripts: {quotedKeys keys}"
  | lexiconEntries place script =>
      s!"{place.label}.{script} must be a list of non-empty strings"
  | seriesOrFlag => "match strategy 'series_retention' requires 'series' or 'flag'"
  | actionNotMapping => "'action' must be a mapping"
  | actionWithoutStrategy => "action missing 'strategy'"
  | actionStrategy given =>
      s!"action.strategy must be one of {quotedNames actionNames}, got " ++ given.quoted
  | optionalNotBoolean => "action.optional must be a boolean"
  | settingText key => s!"action.{key} must be a non-empty string"

def evidence : Violation → List Datum
  | ruleId given | version given | tier given | tag given | confidence given
  | matchStrategy given | flagConfidence given | minWords given
  | actionStrategy given => [given]
  | unknownKeys _ keys | lexiconScripts _ keys => keys
  | _ => []

end Violation

/-- Why a rule file is not read: it breaks the grammar, or its data broke off the
check. -/
inductive Objection
  | violation (violation : Violation)
  | fault (fault : Fault)

/-- A violation whose evidence has no text cannot be told. -/
def object {α : Type} (violation : Violation) : Except Objection α :=
  if Datum.anyOverlong violation.evidence then .error (.fault .overlongInteger)
  else .error (.violation violation)

end SutraArbiter
