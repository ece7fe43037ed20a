import SutraArbiter.Json.Scalar

namespace SutraArbiter.Json

/-! JSON for reading: one member or item to a line, two blanks for each level,
members in the order in which they stand. -/

def lineBreak (depth : Nat) : List Char :=
  '\n' :: List.replicate (2 * depth) ' '

def block (opening closing : Char) (depth : Nat) : List (List Char) → List Char
  | [] => [opening, closing]
  | pieces =>
      opening :: lineBreak (depth + 1)
        ++ Datum.joinWith (',' :: lineBreak (depth + 1)) pieces
        ++ lineBreak depth ++ [closing]

mutual

def indented? (depth : Nat) : Datum → Except Fault (List Char)
  | .null => .ok "null".toList
  | .bool value => .ok (boolean value)
  | .int value => integer? value
  | .float value => .ok (double value)
  | .text value => .ok (string .unicode value.toList)
  | .list items => do
      let pieces ← indentedItems? (depth + 1) items
      pure (block '[' ']' depth pieces)
  | .tuple items => do
      let pieces ← indentedItems? (depth + 1) items
      pure (block '[' ']' depth pieces)
  | .map entries => do
      let pieces ← indentedMembers? (depth + 1) entries
      pure (block '\x7b' '\x7d' depth pieces)
  | .bytes _ => .error (.notSerializable .bytes)
  | .buffer _ => .error (.notSerializable .buffer)

def indentedItems? (depth : Nat) : List Datum → Except Fault (List (List Char))
  | [] => .ok []
  | item :: rest => do
      let piece ← indented? depth item
      let pieces ← indentedItems? depth rest
      pure (piece :: pieces)

def indentedMembers? (depth : Nat) :
    List (Datum × Datum) → Except Fault (List (List Char))
  | [] => .ok []
  | (key, value) :: rest => do
      let name ← key? key
      let piece ← indented? depth value
      let pieces ← indentedMembers? depth rest
      pure ((string .unicode name ++ ':' :: ' ' :: piece) :: pieces)

end

end SutraArbiter.Json
