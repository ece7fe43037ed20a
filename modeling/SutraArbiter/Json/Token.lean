import SutraArbiter.Text.Quoted

namespace SutraArbiter.Json

inductive Token
  | mark (c : Char)
  | string (content : List Char)
  | word (content : List Char)
  | broken
  deriving DecidableEq

namespace Token

def isBlank (c : Char) : Bool :=
  c = ' ' || c = '\t' || c = '\n' || c = '\r'

def isMark (c : Char) : Bool :=
  c = '[' || c = ']' || c = '\x7b' || c = '\x7d' || c = ',' || c = ':'

def escaped? (c : Char) : Option Char :=
  if c = Text.quotationMark || c = Text.backslash || c = '/' then some c
  else if c = 'n' then some '\n'
  else if c = 't' then some '\t'
  else if c = 'r' then some '\r'
  else if c = 'b' then some '\x08'
  else if c = 'f' then some '\x0c'
  else none

def hexValue? (c : Char) : Option Nat :=
  if '0' ≤ c && c ≤ '9' then some (c.toNat - 48)
  else if 'a' ≤ c && c ≤ 'f' then some (c.toNat - 87)
  else if 'A' ≤ c && c ≤ 'F' then some (c.toNat - 55)
  else none

def unit? (digits : List Char) : Option Nat :=
  (digits.mapM hexValue?).map fun values =>
    values.foldl (fun unit value => 16 * unit + value) 0

/-- What a string holds so far, the last character first, and the first half of a
pair that waits for its second. -/
structure Held where
  reversed : List Char
  lead : Option Nat

namespace Held

def empty : Held := ⟨[], none⟩

/-- A half without its other half stays alone. -/
def settle (held : Held) : List Char :=
  match held.lead with
  | some unit => Text.ofHalf unit :: held.reversed
  | none => held.reversed

def content (held : Held) : List Char :=
  held.settle.reverse

def add (held : Held) (c : Char) : Held :=
  ⟨c :: held.settle, none⟩

def addUnit (held : Held) (unit : Nat) : Held :=
  if Text.isLeadingHalf unit then ⟨held.settle, some unit⟩
  else if Text.isTrailingHalf unit then
    match held.lead with
    | some lead => ⟨Char.ofNat (Text.joinHalves lead unit) :: held.reversed, none⟩
    | none => held.add (Text.ofHalf unit)
  else held.add (Char.ofNat unit)

end Held

mutual

def row : List Char → List Token
  | [] => []
  | c :: rest =>
      if isBlank c then row rest
      else if isMark c then mark c :: row rest
      else if c = Text.quotationMark then stringRow .empty rest
      else wordRow [c] rest

def stringRow (held : Held) : List Char → List Token
  | [] => [broken]
  | [c] => if c = Text.quotationMark then [string held.content] else [broken]
  | c :: d :: rest =>
      if c = Text.quotationMark then string held.content :: row (d :: rest)
      else if c = Text.backslash then
        if d = 'u' then unitRow held rest
        else
          match escaped? d with
          | some plain => stringRow (held.add plain) rest
          | none => [broken]
      else if c.toNat < 0x20 then [broken]
      else stringRow (held.add c) (d :: rest)

def unitRow (held : Held) : List Char → List Token
  | a :: b :: c :: d :: rest =>
      match unit? [a, b, c, d] with
      | some unit => stringRow (held.addUnit unit) rest
      | none => [broken]
  | _ => [broken]

def wordRow (reversed : List Char) : List Char → List Token
  | [] => [word reversed.reverse]
  | c :: rest =>
      if isBlank c then word reversed.reverse :: row rest
      else if isMark c then word reversed.reverse :: mark c :: row rest
      else if c = Text.quotationMark then
        word reversed.reverse :: stringRow .empty rest
      else wordRow (c :: reversed) rest

end

end Token

end SutraArbiter.Json
