import SutraArbiter.Digest.Sha256
import SutraArbiter.Json.Canonical
import SutraArbiter.Logged
import SutraArbiter.Numeral

namespace SutraArbiter

/-! The registry of rules.  Rules are entered one by one, each stamped with its
place; once frozen the registry takes no more. -/

/-- A callable part of a submission, or a datum where one was expected. -/
inductive Callback (α : Type)
  | callable (part : α)
  | datum (datum : Datum)

/-- A rule as a caller submits it, with nothing checked. -/
structure Draft where
  id : Datum
  tier : Datum
  tags : Datum
  predicate : Callback Predicate
  action : Callback Action
  title : String
  description : String
  reason : String
  source : String
  definition : Entries

inductive Submission
  | draft (draft : Draft)
  | other (datum : Datum)

def Rule.draft (rule : Rule) : Draft where
  id := .text rule.id
  tier := .text rule.tier.name
  tags := .list (rule.tags.map .text)
  predicate := .callable rule.predicate
  action := .callable rule.action
  title := rule.title
  description := rule.description
  reason := rule.reason
  source := rule.source
  definition := rule.definition

namespace Draft

def malformed {α : Type} (fault : MalformedRule) : Except Failure α :=
  if Datum.anyOverlong fault.evidence then .error (.fault .overlongInteger)
  else .error (.malformed fault)

def readId (draft : Draft) : Except Failure String :=
  match draft.id with
  | .text id =>
      if Numeral.isDotted id.toList then .ok id else malformed (.id draft.id)
  | given => malformed (.id given)

def readTier (id : String) (draft : Draft) : Except Failure Tier :=
  match Tier.read draft.tier with
  | .ok tier => .ok tier
  | .error _ => malformed (.tier id draft.tier)

def tag? : Datum → Option String
  | .text s => if Text.isBlankString s then none else some (Text.trimString s)
  | _ => none

def readTags (id : String) (draft : Draft) : Except Failure (List String) :=
  match draft.tags with
  | .text _ => malformed (.tags id)
  | given => do
      let items ← given.items?.mapError Failure.fault
      if items.any fun item => (tag? item).isNone then malformed (.tags id)
      else if items.isEmpty then malformed (.noTags id)
      else pure (Tags.sorted (items.filterMap tag?))

def readCallback {α : Type} (fault : MalformedRule) : Callback α → Except Failure α
  | .callable part => .ok part
  | .datum _ => malformed fault

def toRule (draft : Draft) : Except Failure Rule := do
  let id ← draft.readId
  let tier ← draft.readTier id
  let tags ← draft.readTags id
  let predicate ← readCallback (.predicate id) draft.predicate
  let action ← readCallback (.action id) draft.action
  pure {
    id, tier, tags, predicate, action
    title := draft.title
    description := draft.description
    reason := draft.reason
    source := draft.source
    definition := draft.definition }

end Draft

namespace Submission

/-- The id that is told when a submission comes too late. -/
def shownId? : Submission → Except Fault String
  | .draft given => given.id.plain?
  | .other _ => .ok "?"

def toRule : Submission → Except Failure Rule
  | .draft given => given.toRule
  | .other datum => .error (.malformed (.notRule datum.kind))

end Submission

structure Entry extends Rule where
  index : Nat

abbrev Shelf := String × List Entry

structure Registry where
  entries : List Entry
  shelves : List Shelf
  frozen : Bool

namespace Registry

def empty : Registry := ⟨[], [], false⟩

def freeze (registry : Registry) : Registry :=
  { registry with frozen := true }

def find? (registry : Registry) (id : String) : Option Entry :=
  registry.entries.find? fun entry => entry.id = id

def shelf (shelves : List Shelf) (tag : String) : List Entry :=
  (shelves.lookup tag).getD []

/-- Puts an entry behind those that carry the tag already. -/
def place (entry : Entry) (shelves : List Shelf) (tag : String) : List Shelf :=
  match shelves with
  | [] => [(tag, [entry])]
  | (name, entries) :: rest =>
      if name = tag then (name, entries ++ [entry]) :: rest
      else (name, entries) :: place entry rest tag

def enter (registry : Registry) (rule : Rule) : Registry × Entry :=
  let entry : Entry := { rule with index := registry.entries.length }
  ({ registry with
      entries := registry.entries ++ [entry]
      shelves := rule.tags.foldl (place entry) registry.shelves },
    entry)

def register (registry : Registry) (submission : Submission) :
    Except Failure (Registry × Entry) := do
  if registry.frozen then
    let id ← submission.shownId?.mapError Failure.fault
    .error (.frozen id)
  else
    let rule ← submission.toRule
    if (registry.find? rule.id).isSome then .error (.duplicateId rule.id)
    else pure (registry.enter rule)

def shelve (entry : Entry) (tag : String) : EStateM Failure Registry Unit :=
  modify fun registry => { registry with shelves := place entry registry.shelves tag }

def enroll (submission : Submission) : EStateM Failure Registry Entry := do
  let registry ← get
  if registry.frozen then
    let id ← liftExcept (submission.shownId?.mapError Failure.fault)
    throw (.frozen id)
  else
    let rule ← liftExcept submission.toRule
    if (registry.find? rule.id).isSome then throw (.duplicateId rule.id)
    else
      let entry : Entry := { rule with index := registry.entries.length }
      set { registry with entries := registry.entries ++ [entry] }
      rule.tags.forM (shelve entry)
      pure entry

def ofSubmissions (registry : Registry) : List Submission → Except Failure Registry
  | [] => .ok registry
  | submission :: rest => do
      let (next, _) ← registry.register submission
      ofSubmissions next rest

def ids (registry : Registry) : List String :=
  registry.entries.map fun entry => entry.id

/-! Candidates: the rules that share a tag with the scope of a call, by rank and
then by place. -/

def comesFirst (x y : Entry) : Bool :=
  y.tier.rank < x.tier.rank || (x.tier.rank = y.tier.rank && x.index ≤ y.index)

def distinctIds : List Entry → List Entry
  | [] => []
  | entry :: rest =>
      entry :: (distinctIds rest).filter fun other => other.id != entry.id

def candidates (registry : Registry) (tags : List String) : List Entry :=
  (distinctIds (tags.flatMap (shelf registry.shelves))).mergeSort comesFirst

/-- The tags among data; nothing else names a shelf. -/
def tags? : List Datum → Except Fault (List String)
  | [] => .ok []
  | tag :: rest => do
      tag.fitKey
      let names ← tags? rest
      match tag with
      | .text name => pure (name :: names)
      | _ => pure names

def candidatesAmong? (registry : Registry) (scope : Datum) :
    Except Fault (List Entry) := do
  let items ← scope.items?
  let names ← tags? items
  pure (registry.candidates names)

def get? (registry : Registry) (id : Datum) : Except Fault Entry := do
  id.fitKey
  match id with
  | .text name =>
      match registry.find? name with
      | some entry => pure entry
      | none => .error (.missingKey id.quoted)
  | _ => .error (.missingKey id.quoted)

def contains? (registry : Registry) (id : Datum) : Except Fault Bool := do
  id.fitKey
  match id with
  | .text name => pure (registry.find? name).isSome
  | _ => pure false

/-! The fingerprint: a digest of the rules in canonical form.  A rule without a
definition is known by the name of its predicate. -/

def description (entry : Entry) : Datum :=
  .map [
    (.text "rule_id", .text entry.id),
    (.text "priority_class", .text entry.tier.name),
    (.text "scope_tags", .list (entry.tags.map .text)),
    (.text "declaration_index", .int entry.index),
    (.text "definition",
      if entry.definition.isEmpty then .text entry.predicate.name
      else .map entry.definition)]

def canonicalText? (registry : Registry) : Except Fault (List Char) :=
  Json.canonical? (.list (registry.entries.map description))

def fingerprint? (registry : Registry) : Except Fault String := do
  let text ← registry.canonicalText?
  pure (String.ofList (Sha256.hexDigest (text.map fun c => UInt8.ofNat c.toNat)))

end Registry

end SutraArbiter
