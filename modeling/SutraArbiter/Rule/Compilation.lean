import SutraArbiter.Failure
import SutraArbiter.Rule.Grammar

namespace SutraArbiter

/-! Compiling a rule that has passed the check: its strategy and its action are looked
up by name, and what else the rule says is taken out of its data. -/

/-- The strategies that a rule can be bound to. -/
def Strategy.registry : List (String × Strategy) :=
  [("identical_forms", .identicalForms),
    ("lexical_retention", .lexicalRetention),
    ("series_retention", .seriesRetention),
    ("attribute_pairing", .attributePairing),
    ("attribute_selection", .attributeSelection)]

/-- The actions that a rule can be bound to, each made of the settings of the rule. -/
def Action.registry : List (String × (Entries → Action)) :=
  [("retain_selection", .retainSelection)]

namespace Rule

def lift {α : Type} (taken : Except Fault α) : Except Failure α :=
  taken.mapError .fault

/-- What is registered under the name that a rule gives. -/
def bound {α : Type} (registry : List (String × α)) (source : String)
    (unbound : String → Unbound) (name : Datum) : Except Failure α := do
  lift name.fitKey
  let found :=
    match name with
    | .text name => registry.lookup name
    | _ => none
  match found with
  | some found => pure found
  | none => do
      let told ← lift name.plain?
      .error (.unbound source (unbound told))

def settings? (data : Datum) (key : String) : Except Fault Entries := do
  let part ← data.require? key
  let entries ← part.entriesFor? "items"
  pure (entries.without "strategy")

def strategyName? (data : Datum) (key : String) : Except Fault Datum := do
  let part ← data.require? key
  part.require? "strategy"

def gate? (context : Datum) (key : String) : Except Fault Entries := do
  let flags ← context.getD? key (.map [])
  flags.entriesFor? "keys"

def plan? (strategy : Strategy) (params : Entries) (metadata context : Datum) :
    Except Fault Plan := do
  let given ← metadata.require? "confidence"
  let confidence ← given.toDouble?
  let require ← gate? context "require"
  let forbid ← gate? context "forbid"
  pure ⟨strategy, params, confidence, require, forbid⟩

def tag? : Datum → Except Fault String
  | .text tag => .ok (Text.trimString tag)
  | d => .error (.noAttribute d.kind "strip")

def tags? (d : Datum) : Except Fault (List String) := do
  let items ← d.items?
  let tags ← items.mapM tag?
  pure (Tags.sorted tags)

/-- The texts are told as they stand in the data. -/
def compile (source : String) (entries : Entries) : Except Failure Rule := do
  let data := Datum.map entries
  let id ← lift (data.require? "rule_id")
  let params ← lift (settings? data "match")
  let settings ← lift (settings? data "action")
  let strategyName ← lift (strategyName? data "match")
  let actionName ← lift (strategyName? data "action")
  let strategy ← bound Strategy.registry source .predicate strategyName
  let action ← bound Action.registry source .action actionName
  let metadata ← lift (data.require? "metadata")
  let context ← lift (data.getD? "context" (.map []))
  let plan ← lift (plan? strategy params metadata context)
  let priority ← lift (data.require? "priority_class")
  let tier ← (Tier.read priority).mapError .tier
  let scope ← lift (data.require? "scope_tags")
  let tags ← lift (tags? scope)
  let title ← lift (metadata.require? "title")
  let description ← lift (metadata.require? "description")
  let reason ← lift (metadata.getD? "reason" (.text usualReason))
  pure {
    id := id.plain
    tier, tags, source
    title := title.plain
    description := description.plain
    reason := reason.plain
    definition := entries
    predicate := .plan plan
    action := action settings }

/-- A rule is checked first, and compiled if it keeps to the grammar. -/
def read (source : String) (d : Datum) : Except Failure Rule := do
  (check d).mapError (Failure.ofObjection source)
  let entries ← lift (d.entriesFor? "items")
  compile source entries

end Rule

end SutraArbiter
