import SutraArbiter.Lexicon
import SutraArbiter.Strategy.Finding

namespace SutraArbiter.Strategy

/-! Words that a lexicon lists: of a listed pair one side stays, and a closed
series stays over everything else. -/

def listedOn? (pair : Datum) (side : String) (words : List Word) :
    Except Fault (List Word) :=
  select? (fun word => do
    let table ← pair.require? side
    Lexicon.contains? table word) words

/-- What one pair keeps and removes; a pair with an empty side does neither. -/
def judgePair? (words : List Word) (pair : Datum) : Except Fault (List Int × List Int) := do
  let keepers ← listedOn? pair "retain" words
  let dropped ← listedOn? pair "drop" words
  match keepers.getLast? with
  | some keeper =>
      if dropped.isEmpty then pure ([], [])
      else pure ([keeper.position], positions dropped)
  | none => pure ([], [])

def judgePairs? (words : List Word) : List Datum → Except Fault (List Int × List Int)
  | [] => .ok ([], [])
  | pair :: rest => do
      let first ← judgePair? words pair
      let others ← judgePairs? words rest
      pure (first.1 ++ others.1, first.2 ++ others.2)

/-- The last word that carries the flag, among words none of which has a form. -/
def judgeFlag? (words : List Word) (params : Datum) : Except Fault Finding := do
  let flag ← params.getD? "flag" .null
  if flag.holds && words.all fun word => word.forms.isEmpty then
    let flagged ← select? (fun word => word.hasAt? flag) words
    match flagged.getLast? with
    | some keeper => do
        let given ← params.getD? "flag_confidence" (.float .one)
        let confidence ← given.toDouble?
        pure (.selected (.ofPositions [keeper.position] (positions words)) confidence)
    | none => pure .none
  else pure .none

def judgeLexicalRetention (words : List Word) (_ : Context) (params : Datum) :
    Except Fault Finding := do
  let enough ← hasMinimum? words params
  if enough then
    let listed ← params.getD? "pairs" (.tuple [])
    let pairs ← listed.items?
    let (retain, drop) ← judgePairs? words pairs
    if retain.isEmpty then judgeFlag? words params
    else pure (.ofPositions retain drop)
  else pure .tooFewWords

def isMember? (series flag : Datum) (word : Word) : Except Fault Bool := do
  let listed ← Lexicon.contains? series word
  if listed then pure true
  else if flag.isNull then pure false
  else word.hasAt? flag

def judgeSeriesRetention (words : List Word) (_ : Context) (params : Datum) :
    Except Fault Finding := do
  let enough ← hasMinimum? words params
  if enough then
    let series ← params.getD? "series" (.map [])
    let flag ← params.getD? "flag" .null
    let members ← select? (isMember? series flag) words
    if members.isEmpty then pure .none
    else pure (.ofPositions (positions members) (positions words))
  else pure .tooFewWords

end SutraArbiter.Strategy
