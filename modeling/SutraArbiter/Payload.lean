import SutraArbiter.Selection

namespace SutraArbiter

namespace Payload

def spellingAt? (words : List Word) (position : Datum) : Except Fault Datum := do
  let place ← position.index? .tuple words.length
  match words[place]? with
  | some word => pure (.text word.spelling)
  | none => .error (.indexRange .tuple)

/-- The settings of a rule that its payload repeats. -/
def overrideNames : List String :=
  ["domain", "gender_override", "number_override"]

def overrides (settings : Entries) : Entries :=
  overrideNames.filterMap fun name =>
    (settings.get? name).map fun value => (.text name, value)

def side? (extracted : Datum) (name : String) : Except Fault (List Datum) := do
  let side ← extracted.getD? name (.tuple [])
  side.items?

def ofSelection? (words : List Word) (extracted settings : Datum) :
    Except Fault Entries := do
  let retain ← side? extracted "retain"
  let drop ← side? extracted "drop"
  let retainedForms ← retain.mapM (spellingAt? words)
  let droppedForms ← drop.mapM (spellingAt? words)
  let given ← settings.entriesFor? "get"
  pure ([
    (.text "retained_indices", .list retain),
    (.text "retained_index", retain.getLast?.getD .null),
    (.text "dropped_indices", .list drop),
    (.text "retained_forms", .list retainedForms),
    (.text "dropped_forms", .list droppedForms),
    (.text "optional", .bool (given.getD "optional" (.bool false)).holds)]
    ++ overrides given)

end Payload

end SutraArbiter
