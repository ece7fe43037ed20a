import SutraArbiter.Datum.Access

namespace SutraArbiter.Json

inductive Alphabet
  | ascii
  | unicode
  deriving DecidableEq

def unitEscape (n : Nat) : List Char :=
  Text.backslash :: 'u' :: Text.hexDigits 4 n

/-- Beyond the basic plane a character is written as two units. -/
def codeEscape (n : Nat) : List Char :=
  if n < 0x10000 then unitEscape n
  else
    unitEscape (0xD800 + (n - 0x10000) / 0x400)
      ++ unitEscape (0xDC00 + (n - 0x10000) % 0x400)

def shortEscape? (c : Char) : Option Char :=
  if c = Text.quotationMark || c = Text.backslash then some c
  else if c = '\n' then some 'n'
  else if c = '\r' then some 'r'
  else if c = '\t' then some 't'
  else if c.toNat = 0x8 then some 'b'
  else if c.toNat = 0xC then some 'f'
  else none

def Alphabet.needsEscape : Alphabet → Char → Bool
  | ascii, c => c.toNat < 0x20 || 0x7E < c.toNat
  | unicode, c => c.toNat < 0x20

def escapeChar (alphabet : Alphabet) (c : Char) : List Char :=
  match shortEscape? c with
  | some letter => [Text.backslash, letter]
  | none => if alphabet.needsEscape c then codeEscape c.toNat else [c]

def string (alphabet : Alphabet) (s : List Char) : List Char :=
  Text.quotationMark :: s.flatMap (escapeChar alphabet) ++ [Text.quotationMark]

def double : Double → List Char
  | .nan => "NaN".toList
  | .infinite negative => (if negative then "-Infinity" else "Infinity").toList
  | x => x.written.toList

def boolean (b : Bool) : List Char :=
  (if b then "true" else "false").toList

def integer? (i : Int) : Except Fault (List Char) :=
  if Number.hasOverlongText i then .error .overlongInteger
  else .ok (Text.decimalInt i)

/-- The text under which a scalar names a member. -/
def key? : Datum → Except Fault (List Char)
  | .text key => .ok key.toList
  | .null => .ok "null".toList
  | .bool value => .ok (boolean value)
  | .int value => integer? value
  | .float value => .ok (double value)
  | d => .error (.notRecordKey d.kind)

end SutraArbiter.Json
