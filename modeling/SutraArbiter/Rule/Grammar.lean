import SutraArbiter.Numeral
import SutraArbiter.Rule.Violation

namespace SutraArbiter

/-! Checking the data of a rule file.  The parts are checked in a fixed order and the
first departure from the grammar ends the check. -/

namespace Rule

def unknownKeys (allowed : List String) (entries : Entries) : List Datum :=
  entries.keys.filter fun key => !allowed.any fun name => key.sameKey (.text name)

/-- Refuses keys beyond the allowed ones; `violation` tells them in order. -/
def onlyKeys (allowed : List String) (violation : List Datum → Violation)
    (entries : Entries) : Except Objection Unit :=
  if (unknownKeys allowed entries).isEmpty then .ok ()
  else
    match Datum.sorted? (unknownKeys allowed entries) with
    | .ok keys => object (violation keys)
    | .error fault => .error (.fault fault)

def withKeys (required : List String) (violation : String → Violation)
    (entries : Entries) : Except Objection Unit :=
  match required.find? fun key => !entries.has key with
  | some key => object (violation key)
  | none => .ok ()

def isWording : Datum → Bool
  | .text s => !Text.isBlankString s
  | _ => false

/-- The text under `key` may be absent but not blank. -/
def optionalWording (violation : String → Violation) (entries : Entries)
    (key : String) : Except Objection Unit :=
  match entries.get? key with
  | none => .ok ()
  | some datum => if isWording datum then .ok () else object (violation key)

def isShare : Datum → Bool
  | .int value => 0 ≤ value && value ≤ 1
  | .float value => value.level.isShare
  | _ => false

def checkId (d : Datum) : Except Objection Unit :=
  match d with
  | .text id => if Numeral.isDotted id.toList then .ok () else object (.ruleId d)
  | d => object (.ruleId d)

def checkVersion (d : Datum) : Except Objection Unit :=
  match d with
  | .int value => if value = 1 then .ok () else object (.version d)
  | d => object (.version d)

def checkTier (d : Datum) : Except Objection Unit :=
  match d with
  | .text spelling =>
      if (Tier.ofName? (Text.snakeCase spelling)).isSome then .ok () else object (.tier d)
  | d => object (.tier d)

def checkTags (d : Datum) : Except Objection Unit :=
  match d with
  | .list [] => object .noTags
  | .list items =>
      match items.find? fun item => !isWording item with
      | some item => object (.tag item)
      | none => .ok ()
  | _ => object .noTags

def metadataKeys : List String :=
  ["title", "description", "confidence", "text", "reason"]

def checkMetadata (d : Datum) : Except Objection Unit :=
  match d with
  | .map entries => do
      onlyKeys metadataKeys (.unknownKeys .metadata) entries
      withKeys ["confidence", "description", "title"] .missingMetadata entries
      optionalWording .metadataText entries "title"
      optionalWording .metadataText entries "description"
      optionalWording .metadataText entries "text"
      optionalWording .metadataText entries "reason"
      let given := Entries.getD entries "confidence" .null
      if isShare given then pure () else object (.confidence given)
  | _ => object .metadataNotMapping

def checkGate (entries : Entries) (key : String) : Except Objection Unit :=
  match entries.get? key with
  | none => .ok ()
  | some (.map _) => .ok ()
  | some _ => object (.contextFlags key)

def checkContext (d : Datum) : Except Objection Unit :=
  match d with
  | .map entries => do
      onlyKeys ["require", "forbid"] (.unknownKeys .context) entries
      checkGate entries "forbid"
      checkGate entries "require"
  | _ => object .contextNotMapping

def parameterNames : Strategy → List String
  | .identicalForms => ["strategy", "min_words", "case_check_flag"]
  | .lexicalRetention => ["strategy", "min_words", "pairs", "flag", "flag_confidence"]
  | .seriesRetention => ["strategy", "min_words", "series", "flag"]
  | .attributePairing => ["strategy", "min_words", "retain", "against"]
  | .attributeSelection => ["strategy", "min_words", "retain"]

def requiredParameters : Strategy → List String
  | .identicalForms => []
  | .lexicalRetention => ["pairs"]
  | .seriesRetention => []
  | .attributePairing => ["against", "retain"]
  | .attributeSelection => ["retain"]

def readStrategy (d : Datum) : Except Objection Strategy :=
  match d.unfitKind? with
  | some kind => .error (.fault (.unhashable kind))
  | none =>
      match d with
      | .text name =>
          match Strategy.ofName? name with
          | some strategy => .ok strategy
          | none => object (.matchStrategy d)
      | d => object (.matchStrategy d)

def checkFlagConfidence (entries : Entries) : Except Objection Unit :=
  match entries.get? "flag_confidence" with
  | none => .ok ()
  | some given =>
      if entries.has "flag" then
        if isShare given then .ok () else object (.flagConfidence given)
      else object .flagConfidenceAlone

def checkMinWords (entries : Entries) : Except Objection Unit :=
  match entries.get? "min_words" with
  | none => .ok ()
  | some (.int value) =>
      if 1 ≤ value then .ok () else object (.minWords (.int value))
  | some given => object (.minWords given)

def checkFilters (entries : Entries) (key : String) : Except Objection Unit :=
  match entries.get? key with
  | none => .ok ()
  | some (.map []) => object (.filters key)
  | some (.map _) => .ok ()
  | some _ => object (.filters key)

def isWordList : Datum → Bool
  | .list entries => entries.all isWording
  | _ => false

/-- The first script whose words are not a list of texts. -/
def badShelf? (table : Entries) : Option String :=
  (List.find? (fun entry => !isWordList entry.2) table).map fun entry => entry.1.plain

def checkLexicon (place : LexiconPlace) (d : Datum) : Except Objection Unit :=
  match d with
  | .map [] => object (.lexicon place)
  | .map table => do
      onlyKeys ["iast", "devanagari"] (.lexiconScripts place) table
      match badShelf? table with
      | some script => object (.lexiconEntries place script)
      | none => pure ()
  | _ => object (.lexicon place)

def checkPair (number : Nat) (d : Datum) : Except Objection Unit :=
  match d with
  | .map entries =>
      if entries.length = 2 && Entries.has entries "retain" && Entries.has entries "drop" then do
        checkLexicon (.retain number) (Entries.getD entries "retain" .null)
        checkLexicon (.drop number) (Entries.getD entries "drop" .null)
      else object (.pairKeys number)
  | _ => object (.pairKeys number)

def checkPairsFrom (number : Nat) : List Datum → Except Objection Unit
  | [] => .ok ()
  | pair :: rest => do
      checkPair number pair
      checkPairsFrom (number + 1) rest

def checkPairs (entries : Entries) : Except Objection Unit :=
  match entries.get? "pairs" with
  | none => .ok ()
  | some (.list []) => object .noPairs
  | some (.list pairs) => checkPairsFrom 0 pairs
  | some _ => object .noPairs

def checkSeries (strategy : Strategy) (entries : Entries) : Except Objection Unit := do
  match entries.get? "series" with
  | none => pure ()
  | some table => checkLexicon .series table
  if strategy = .seriesRetention && !entries.has "series" && !entries.has "flag" then
    object .seriesOrFlag
  else pure ()

def checkParameters (strategy : Strategy) (entries : Entries) :
    Except Objection Unit := do
  onlyKeys (parameterNames strategy) (.unknownKeys (.matching strategy)) entries
  withKeys (requiredParameters strategy) (.missingParameter strategy) entries
  checkFlagConfidence entries
  checkMinWords entries
  optionalWording .parameterText entries "flag"
  optionalWording .parameterText entries "case_check_flag"
  checkFilters entries "retain"
  checkFilters entries "against"
  checkPairs entries
  checkSeries strategy entries

def checkMatch (d : Datum) : Except Objection Unit :=
  match d with
  | .map entries => do
      match Entries.get? entries "strategy" with
      | none => object .matchWithoutStrategy
      | some named => do
          let strategy ← readStrategy named
          checkParameters strategy entries
  | _ => object .matchNotMapping

def checkActionName (d : Datum) : Except Objection Unit :=
  match d.unfitKind? with
  | some kind => .error (.fault (.unhashable kind))
  | none =>
      match d with
      | .text name =>
          if Violation.actionNames.contains name then .ok ()
          else object (.actionStrategy d)
      | d => object (.actionStrategy d)

def checkOptional (entries : Entries) : Except Objection Unit :=
  match entries.get? "optional" with
  | none => .ok ()
  | some (.bool _) => .ok ()
  | some _ => object .optionalNotBoolean

def checkAction (d : Datum) : Except Objection Unit :=
  match d with
  | .map entries => do
      match Entries.get? entries "strategy" with
      | none => object .actionWithoutStrategy
      | some named => do
          checkActionName named
          onlyKeys ("strategy" :: "optional" :: Payload.overrideNames)
            (.unknownKeys .action) entries
          checkOptional entries
          optionalWording .settingText entries "domain"
          optionalWording .settingText entries "gender_override"
          optionalWording .settingText entries "number_override"
  | _ => object .actionNotMapping

def requiredKeys : List String :=
  ["action", "match", "metadata", "priority_class", "rule_id", "scope_tags", "version"]

def checkOptionalContext (entries : Entries) : Except Objection Unit :=
  match entries.get? "context" with
  | none => .ok ()
  | some context => checkContext context

def checkEntries (entries : Entries) : Except Objection Unit := do
  onlyKeys ("context" :: requiredKeys) (.unknownKeys .top) entries
  withKeys requiredKeys .missingKey entries
  checkId (entries.getD "rule_id" .null)
  checkVersion (entries.getD "version" .null)
  checkTier (entries.getD "priority_class" .null)
  checkTags (entries.getD "scope_tags" .null)
  checkMetadata (entries.getD "metadata" .null)
  checkOptionalContext entries
  checkMatch (entries.getD "match" .null)
  checkAction (entries.getD "action" .null)

def check : Datum → Except Objection Unit
  | .map entries => checkEntries entries
  | d => object (.notMapping d.kind)

end Rule

end SutraArbiter
