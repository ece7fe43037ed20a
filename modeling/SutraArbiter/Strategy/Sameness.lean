import SutraArbiter.Strategy.Finding

namespace SutraArbiter.Strategy

def allAlike : List String → Bool
  | [] => true
  | s :: rest => rest.all (· = s)

def casesAgree (words : List Word) : Bool :=
  allAlike ((words.map Word.caseName).filter (· ≠ ""))

def checksCase? (context : Context) (params : Datum) : Except Fault Bool := do
  let flag ← params.getD? "case_check_flag" (.text "force_case_check")
  let value ← context.lookup? flag
  pure value.holds

def judgeForms? (words : List Word) : Except Fault Finding :=
  match words.map Word.form with
  | [] => .error (.indexRange .list)
  | form :: rest =>
      if form = "" || !rest.all (· = form) then
        .ok (.passed "form-mismatch" false)
      else
        .ok (.ofPositions [rest.length]
          ((List.range rest.length).map fun (i : Nat) => (i : Int)))

def judgeIdenticalForms (words : List Word) (context : Context) (params : Datum) :
    Except Fault Finding := do
  let enough ← hasMinimum? words params
  if enough then
    let strict ← checksCase? context params
    if strict && !casesAgree words then pure (.passed "case-mismatch" true)
    else judgeForms? words
  else pure .tooFewWords

end SutraArbiter.Strategy
