import SutraArbiter.Datum.Quantify
import SutraArbiter.Script
import SutraArbiter.Word.Basic

namespace SutraArbiter

namespace Lexicon

def normalEntry? : Datum → Except Fault String
  | .text entry => .ok (Text.normalForm entry)
  | d => .error (.notNormalizable d.kind)

def normalEntries? (listed : Datum) : Except Fault (List String) := do
  let entries ← listed.items?
  Datum.fitKey (.tuple entries)
  entries.mapM normalEntry?

def lists? (table : Datum) (form : String) : Except Fault Bool :=
  match (Script.ofString form).shelf? with
  | none => .ok false
  | some shelf => do
      let listed ← table.getD? shelf (.tuple [])
      let entries ← normalEntries? listed
      pure (entries.contains form)

def contains? (table : Datum) (word : Word) : Except Fault Bool :=
  anyOf? (lists? table) word.forms

end Lexicon

end SutraArbiter
