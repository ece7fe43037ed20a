import SutraArbiter.Evaluation
import SutraArbiter.Registry

namespace SutraArbiter

/-! Arbitration among the rules that match: the tier decides, then the number of
active tags, then confidence and place in the order that the policy sets. -/

inductive TieBreak
  | confidenceFirst
  | declarationFirst
  deriving DecidableEq

namespace TieBreak

def name : TieBreak → String
  | confidenceFirst => "confidence-first"
  | declarationFirst => "declaration-first"

def ofName? : String → Option TieBreak
  | "confidence-first" => some confidenceFirst
  | "declaration-first" => some declarationFirst
  | _ => none

theorem ofName?_name (policy : TieBreak) : ofName? policy.name = some policy := by
  cases policy <;> rfl

theorem ofName?_eq_some {name : String} {policy : TieBreak} :
    ofName? name = some policy ↔ name = policy.name := by
  constructor
  · intro h
    unfold ofName? at h
    split at h <;> cases h <;> rfl
  · rintro rfl
    exact ofName?_name policy

def read (d : Datum) : Except Failure TieBreak :=
  match d.unfitKind? with
  | some kind => .error (.fault (.unhashable kind))
  | none =>
      let named :=
        match d with
        | .text name => ofName? name
        | _ => none
      match named with
      | some policy => .ok policy
      | none =>
          if d.isOverlong then .error (.fault .overlongInteger)
          else .error (.config (.tieBreak d.quoted))

end TieBreak

/-- A rule that matches, with what counts for it. -/
structure Standing where
  entry : Entry
  reply : Match
  specificity : Nat

namespace Standing

/-- The policy's order among rules of equal specificity.  A confidence that is no
number is neither the same as another nor above or below it. -/
def breaksTie (policy : TieBreak) (x y : Standing) : Bool :=
  match policy with
  | .confidenceFirst =>
      if x.reply.confidence.same y.reply.confidence then x.entry.index < y.entry.index
      else y.reply.confidence.lt x.reply.confidence
  | .declarationFirst =>
      if x.entry.index = y.entry.index then
        y.reply.confidence.lt x.reply.confidence
      else x.entry.index < y.entry.index

/-- The order among rules of one tier. -/
def precedes (policy : TieBreak) (x y : Standing) : Bool :=
  if x.specificity = y.specificity then breaksTie policy x y
  else y.specificity < x.specificity

end Standing

structure Trace where
  ruleId : String
  tier : Tier
  specificity : Nat
  confidence : Double
  rank : Nat
  deriving DecidableEq

structure Ruling where
  governing : Option Standing
  trace : List Trace

namespace Ruling

def standing? (entries : List Entry) (active : List String) (reply : Match) :
    Except Fault Standing :=
  match entries.find? fun entry => entry.id = reply.ruleId with
  | some entry => .ok ⟨entry, reply, Tags.specificity entry.tags active⟩
  | none => .error (.missingKey (Text.quoteString reply.ruleId))

def standings? (entries : List Entry) (active : List String) (replies : List Match) :
    Except Fault (List Standing) :=
  (replies.filter Match.matched).mapM (standing? entries active)

def arranged (policy : TieBreak) (standings : List Standing) : List Standing :=
  Id.run (Arrangement.arrange (fun x y => pure (Standing.precedes policy x y)) standings)

def ranked (policy : TieBreak) (standings : List Standing) : List Standing :=
  Tier.descending.flatMap fun tier =>
    arranged policy (standings.filter fun standing => standing.entry.tier = tier)

def traceLine (standing : Standing) (rank : Nat) : Trace where
  ruleId := standing.entry.id
  tier := standing.entry.tier
  specificity := standing.specificity
  confidence := standing.reply.confidence
  rank := rank

def traceOf (ranking : List Standing) : List Trace :=
  (ranking.zipIdx 1).map fun place => traceLine place.1 place.2

def mandatory (standings : List Standing) : List Standing :=
  standings.filter fun standing => standing.entry.isMandatory

/-- Two mandatory rules that match leave no ruling. -/
def ofStandings (policy : TieBreak) (standings : List Standing) : Logged Ruling :=
  if 2 ≤ (mandatory standings).length then
    Logged.fail (.ambiguous ((mandatory standings).map fun standing => standing.entry.id))
  else
    match ranked policy standings with
    | [] => pure ⟨none, []⟩
    | first :: others => do
        Logged.note (.governs first.entry.id first.entry.tier others.length)
        pure ⟨some first, traceOf (first :: others)⟩

def ofReplies (policy : TieBreak) (entries : List Entry) (active : List String)
    (replies : List Match) : Logged Ruling := do
  let standings ← Logged.ofFault (standings? entries active replies)
  ofStandings policy standings

end Ruling

end SutraArbiter
