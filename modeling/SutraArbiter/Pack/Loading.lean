import SutraArbiter.Pack.Source
import SutraArbiter.Registry
import SutraArbiter.Rule.Compilation

namespace SutraArbiter

/-! Loading: the files of a source are read in turn, and the first fault ends the
loading.  Rules are entered in the order of their numerals. -/

structure Choice where
  only : Option (List String)
  disabled : List String

namespace Choice

def everything : Choice := ⟨none, []⟩

inductive Verdict
  | wanted
  | skipped
  | disabled (id : String)

def names (ids : List String) (id : Datum) : Bool :=
  match id with
  | .text id => ids.contains id
  | _ => false

def verdict? (choice : Choice) (id : Datum) : Except Fault Verdict := do
  id.fitKey
  let chosen :=
    match choice.only with
    | none => true
    | some ids => names ids id
  if !chosen then pure .skipped
  else
    match id with
    | .text name =>
        if choice.disabled.contains name then pure (.disabled name) else pure .wanted
    | _ => pure .wanted

end Choice

namespace Pack

def readFile (file : RuleFile) : Except ConfigFault Entries :=
  match file.document with
  | .directory => .error (.unreadable file.path)
  | .unparsable told => .error (.unparsable file.path told)
  | .data (.map entries) => .ok entries
  | .data _ => .error (.ruleNotMapping file.path)

def noteCompiled (rule : Rule) : Logged Unit :=
  match rule.predicate with
  | .plan plan => Logged.note (.compiled rule.id plan.strategy)
  | .custom .. => pure ()

/-- Compiles one rule that is wanted; `loaded` are the rules before it. -/
def compile (loaded : List Rule) (file : RuleFile) (entries : Entries) :
    Logged Rule := do
  let rule ← Logged.ofExcept (Rule.read file.path (.map entries))
  noteCompiled rule
  match loaded.find? fun other => other.id = rule.id with
  | some other => Logged.fail (.config (.duplicateRule rule.id other.source file.path))
  | none => do
      Logged.note (.loaded rule.id file.name)
      pure rule

def compileAll (choice : Choice) (loaded : List Rule) :
    List RuleFile → Logged (List Rule)
  | [] => pure loaded
  | file :: rest => do
      let entries ← Logged.ofExcept ((readFile file).mapError Failure.config)
      let verdict ← Logged.ofFault (choice.verdict? (entries.getD "rule_id" .null))
      match verdict with
      | .skipped => compileAll choice loaded rest
      | .disabled id => do
          Logged.note (.disabled id)
          compileAll choice loaded rest
      | .wanted => do
          let rule ← compile loaded file entries
          compileAll choice (loaded ++ [rule]) rest

/-- The disabled ids that no loaded rule bears, in order. -/
def unknownDisabled (choice : Choice) (loaded : List Rule) : List String :=
  Tags.sorted (choice.disabled.filter fun id => !loaded.any fun rule => rule.id = id)

def inOrder (rules : List Rule) : List Rule :=
  rules.mergeSort fun x y => Numeral.le x.id y.id

def registerAll (registry : Registry) : List Rule → Logged Registry
  | [] => pure registry
  | rule :: rest => do
      let (next, entry) ← Logged.ofExcept (registry.register (.draft rule.draft))
      Logged.note (.registered entry.id entry.tier entry.tags entry.index)
      registerAll next rest

def load (files : Files) (source : Source) (choice : Choice) : Logged Registry := do
  let sources ← Logged.ofExcept (source.collect files)
  let rules ← compileAll choice [] sources
  Logged.notes ((unknownDisabled choice rules).map Event.unknownDisabled)
  registerAll .empty (inOrder rules)

end Pack

end SutraArbiter
