import SutraArbiter.Criteria
import SutraArbiter.Strategy.Finding

namespace SutraArbiter.Strategy

/-- In a group that holds both a word to keep and one to keep it against, the last
word to keep stays and the rest of the group falls away. -/
def judgeGroup? (retain against : Datum) (group : List Word) :
    Except Fault (List Int × List Int) := do
  let keepers ← select? (fun word => word.meetsAll? retain) group
  let others := group.filter fun word => !(positions keepers).contains word.position
  let counterparts ← select? (fun word => word.meetsAll? against) others
  match keepers.getLast? with
  | some keeper =>
      if counterparts.isEmpty then pure ([], [])
      else
        pure ([keeper.position],
          (positions group).filter fun i => i != keeper.position)
  | none => pure ([], [])

def judgeGroups? (retain against : Datum) :
    List (List Word) → Except Fault (List Int × List Int)
  | [] => .ok ([], [])
  | group :: rest => do
      let first ← judgeGroup? retain against group
      let others ← judgeGroups? retain against rest
      pure (first.1 ++ others.1, first.2 ++ others.2)

def judgeAttributePairing (words : List Word) (_ : Context) (params : Datum) :
    Except Fault Finding := do
  let enough ← hasMinimum? words params
  if enough then
    let retain ← params.require? "retain"
    let against ← params.require? "against"
    let (kept, dropped) ← judgeGroups? retain against (groupsOf words)
    if kept.isEmpty then pure .none else pure (.ofPositions kept dropped)
  else pure .tooFewWords

def judgeAttributeSelection (words : List Word) (_ : Context) (params : Datum) :
    Except Fault Finding := do
  let enough ← hasMinimum? words params
  if enough then
    let keepers ← select? (fun word => do
      let retain ← params.require? "retain"
      word.meetsAll? retain) words
    match keepers.getLast? with
    | some keeper => pure (.ofPositions [keeper.position] (positions words))
    | none => pure .none
  else pure .tooFewWords

end SutraArbiter.Strategy
