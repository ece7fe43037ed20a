import SutraArbiter.Context
import SutraArbiter.Datum.Quantify
import SutraArbiter.Word.Basic

namespace SutraArbiter

mutual

/-- A list of literals offers alternatives, a truth value asks whether anything
holds, and any other literal is compared by its normal form. -/
def matchesLiteral? (actual : Datum) : Datum → Except Fault Bool
  | .list options => matchesOption? actual options
  | .bool wanted => .ok (actual.holds == wanted)
  | literal =>
      if actual.isNull then .ok false
      else do
        let given ← actual.plain?
        let wanted ← literal.plain?
        pure (Text.normalForm given = Text.normalForm wanted)

def matchesOption? (actual : Datum) : List Datum → Except Fault Bool
  | [] => .ok false
  | option :: rest => do
      let held ← matchesLiteral? actual option
      if held then pure true else matchesOption? actual rest

end

/-- One requirement on an attribute or flag.  A map asks for a value other than
the one it names. -/
def meets? (actual wanted : Datum) : Except Fault Bool :=
  match wanted with
  | .map entries =>
      if actual.isNull then .ok false
      else do
        let excluded ← matchesLiteral? actual (Entries.getD entries "not" .null)
        pure !excluded
  | wanted => matchesLiteral? actual wanted

def Word.meetsAll? (word : Word) (criteria : Datum) : Except Fault Bool := do
  let entries ← criteria.entriesFor? "items"
  allOf? (fun entry => do
    let actual ← word.lookup? entry.1
    meets? actual entry.2) entries

def Context.matches? (context : Context) (entry : Datum × Datum) :
    Except Fault Bool := do
  let actual ← context.lookup? entry.1
  matchesLiteral? actual entry.2

def Context.satisfies? (context : Context) (require forbid : Datum) :
    Except Fault Bool := do
  let required ← require.entriesFor? "items"
  let granted ← allOf? context.matches? required
  if granted then
    let banned ← forbid.entriesFor? "items"
    let hit ← anyOf? context.matches? banned
    pure !hit
  else pure false

end SutraArbiter
