import SutraArbiter.Text.Half
import SutraArbiter.Text.Printable

namespace SutraArbiter.Text

/-! Quoted text.  Apostrophes enclose a text unless it holds one and no quotation
mark; inside, the enclosing mark, the backslash and what is not printable are
escaped. -/

def apostrophe : Char := '\x27'

def quotationMark : Char := '\x22'

def backslash : Char := '\x5c'

def enclosingMark (s : List Char) : Char :=
  if s.contains apostrophe && !s.contains quotationMark then quotationMark
  else apostrophe

def hexDigits (width n : Nat) : List Char :=
  let digits := Nat.toDigits 16 n
  List.replicate (width - digits.length) '0' ++ digits

def codeEscape (n : Nat) : List Char :=
  match half? n with
  | some unit => backslash :: 'u' :: hexDigits 4 unit
  | none =>
      if n < 0x100 then backslash :: 'x' :: hexDigits 2 n
      else if n < 0x10000 then backslash :: 'u' :: hexDigits 4 n
      else backslash :: 'U' :: hexDigits 8 n

def escapeChar (mark c : Char) : List Char :=
  if c = mark || c = backslash then [backslash, c]
  else if c = '\t' then [backslash, 't']
  else if c = '\n' then [backslash, 'n']
  else if c = '\r' then [backslash, 'r']
  else if isPrintable c then [c]
  else codeEscape c.toNat

def quote (s : List Char) : List Char :=
  let mark := enclosingMark s
  mark :: s.flatMap (escapeChar mark) ++ [mark]

def quoteString (s : String) : String :=
  String.ofList (quote s.toList)

def escapeOctet (mark : Char) (n : Nat) : List Char :=
  if n < 0x7F then escapeChar mark (Char.ofNat n) else codeEscape n

def enclosingOctet (octets : List UInt8) : Char :=
  enclosingMark (octets.map fun octet => Char.ofNat octet.toNat)

def quoteOctets (octets : List UInt8) : List Char :=
  let mark := enclosingOctet octets
  mark :: octets.flatMap (fun octet => escapeOctet mark octet.toNat) ++ [mark]

/-- In a buffer apostrophes are escaped, whichever mark encloses it. -/
def quoteBuffer (octets : List UInt8) : List Char :=
  let mark := enclosingOctet octets
  mark :: octets.flatMap (fun octet => escapeOctet apostrophe octet.toNat) ++ [mark]

end SutraArbiter.Text
