import SutraArbiter.Text.Blank
import SutraArbiter.Text.Composition

namespace SutraArbiter

/-! The script of a word.  Separators are passed over; a text in neither alphabet,
or partly in each, has no known script. -/

inductive Script
  | devanagari
  | iast
  | unknown
  deriving DecidableEq

namespace Script

def name : Script → String
  | devanagari => "Devanagari"
  | iast => "IAST"
  | unknown => "Unknown"

def isDevanagari (c : Char) : Bool :=
  (0x900 ≤ c.toNat && c.toNat ≤ 0x97F) || c.toNat = 0x200C || c.toNat = 0x200D

def diacriticLetters : List Nat :=
  [0x101, 0x12B, 0x16B, 0x1E5B, 0x1E5D, 0x1E37, 0x1E39, 0x113, 0x14D, 0x1E43,
    0x1E41, 0x1E25, 0x1E45, 0xF1, 0x1E6D, 0x1E0D, 0x1E47, 0x15B, 0x1E63, 0x100,
    0x12A, 0x16A, 0x1E5A, 0x1E5C, 0x1E36, 0x1E38, 0x112, 0x14C, 0x1E42, 0x1E40,
    0x1E24, 0x1E44, 0xD1, 0x1E6C, 0x1E0C, 0x1E46, 0x15A, 0x1E62]

def isIast (c : Char) : Bool :=
  ('a' ≤ c && c ≤ 'z') || ('A' ≤ c && c ≤ 'Z') || c.toNat = 0x27
    || diacriticLetters.contains c.toNat

def ofChars (s : List Char) : Script :=
  let letters := Text.withoutSeparators (Text.compose s)
  if letters.isEmpty then unknown
  else if letters.all isDevanagari then devanagari
  else if letters.all isIast then iast
  else unknown

def ofString (s : String) : Script :=
  ofChars s.toList

/-- The name under which a lexicon keeps the words of a script. -/
def shelf? : Script → Option String
  | devanagari => some "devanagari"
  | iast => some "iast"
  | unknown => none

end Script

end SutraArbiter
