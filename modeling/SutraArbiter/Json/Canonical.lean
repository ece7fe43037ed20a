import SutraArbiter.Json.Scalar

namespace SutraArbiter.Json

/-! Canonical JSON: no blanks, members sorted by key, ASCII alone.  What JSON has
no form for is written as the text that shows it. -/

abbrev Member := Datum × Except Fault (List Char)

def sortMembers? (members : List Member) : Except Fault (List Member) :=
  Arrangement.arrange (fun x y => x.1.precedes? y.1) members

def member? (entry : Member) : Except Fault (List Char) := do
  let key ← key? entry.1
  let value ← entry.2
  pure (string .ascii key ++ ':' :: value)

def array (items : List (List Char)) : List Char :=
  '[' :: Datum.joinWith [','] items ++ [']']

def object? (members : List Member) : Except Fault (List Char) := do
  let sorted ← sortMembers? members
  let pieces ← sorted.mapM member?
  pure ('\x7b' :: Datum.joinWith [','] pieces ++ ['\x7d'])

mutual

def canonical? : Datum → Except Fault (List Char)
  | .null => .ok "null".toList
  | .bool value => .ok (boolean value)
  | .int value => integer? value
  | .float value => .ok (double value)
  | .text value => .ok (string .ascii value.toList)
  | .bytes octets => .ok (string .ascii (Datum.shown (.bytes octets)))
  | .buffer octets => .ok (string .ascii (Datum.shown (.buffer octets)))
  | .list items => do
      let items ← canonicalItems? items
      pure (array items)
  | .tuple items => do
      let items ← canonicalItems? items
      pure (array items)
  | .map entries => object? (canonicalMembers entries)

def canonicalItems? : List Datum → Except Fault (List (List Char))
  | [] => .ok []
  | item :: rest => do
      let text ← canonical? item
      let texts ← canonicalItems? rest
      pure (text :: texts)

def canonicalMembers : List (Datum × Datum) → List Member
  | [] => []
  | (key, value) :: rest => (key, canonical? value) :: canonicalMembers rest

end

end SutraArbiter.Json
