import SutraArbiter.Text.Composition.Composites
import SutraArbiter.Text.Composition.Decompositions
import SutraArbiter.Text.Composition.MarkClasses

namespace SutraArbiter.Text

/-! Canonical composition (NFC): each character is taken apart, the marks on a
base are put in the order of their classes, and what composes is joined again. -/

def syllableBase : Nat := 0xAC00
def leadBase : Nat := 0x1100
def vowelBase : Nat := 0x1161
def tailBase : Nat := 0x11A7
def leadCount : Nat := 19
def vowelCount : Nat := 21
def tailCount : Nat := 28

def isSyllable (n : Nat) : Bool :=
  syllableBase ≤ n && n < syllableBase + leadCount * vowelCount * tailCount

def syllableParts (n : Nat) : List Nat :=
  let offset := n - syllableBase
  let lead := leadBase + offset / (vowelCount * tailCount)
  let vowel := vowelBase + offset / tailCount % vowelCount
  let tail := offset % tailCount
  if tail = 0 then [lead, vowel] else [lead, vowel, tailBase + tail]

def syllable? (first second : Nat) : Option Nat :=
  if leadBase ≤ first && first < leadBase + leadCount
      && vowelBase ≤ second && second < vowelBase + vowelCount then
    some (syllableBase
      + ((first - leadBase) * vowelCount + (second - vowelBase)) * tailCount)
  else if isSyllable first && (first - syllableBase) % tailCount = 0
      && tailBase < second && second < tailBase + tailCount then
    some (first + (second - tailBase))
  else none

def markClass (c : Char) : Nat :=
  if c.toNat < 0x300 then 0
  else
    match markClassRuns.find? fun run => run.1 ≤ c.toNat && c.toNat ≤ run.2.1 with
    | some run => run.2.2
    | none => 0

def decomposeChar (c : Char) : List Char :=
  if c.toNat < 0xC0 then [c]
  else if isSyllable c.toNat then (syllableParts c.toNat).map Char.ofNat
  else
    match (decompositionPage (c.toNat / 256)).lookup c.toNat with
    | some parts => parts.map Char.ofNat
    | none => [c]

def decompose (s : List Char) : List Char :=
  s.flatMap decomposeChar

/-- Puts `c` before the marks it precedes: a mark passes over the marks of lower
class, a base stays where it is. -/
def settleMark (c : Char) : List Char → List Char
  | [] => [c]
  | d :: rest =>
      if 0 < markClass d && markClass d < markClass c then d :: settleMark c rest
      else c :: d :: rest

def orderMarks : List Char → List Char
  | [] => []
  | c :: rest => settleMark c (orderMarks rest)

def composePair? (first second : Char) : Option Char :=
  match (composites second.toNat).lookup first.toNat with
  | some joined => some (Char.ofNat joined)
  | none => (syllable? first.toNat second.toNat).map Char.ofNat

/-- Reads on from `base`, which has taken up what it could; `held` are the marks
that did not join it, the last of class `last`. -/
def composeFrom (base : Char) (held : List Char) (last : Nat) :
    List Char → List Char
  | [] => base :: held
  | c :: rest =>
      if last = 0 || last < markClass c then
        match composePair? base c with
        | some joined => composeFrom joined held last rest
        | none =>
            if markClass c = 0 then base :: held ++ composeFrom c [] 0 rest
            else composeFrom base (held ++ [c]) (markClass c) rest
      else if markClass c = 0 then base :: held ++ composeFrom c [] 0 rest
      else composeFrom base (held ++ [c]) last rest

def composeMarks : List Char → List Char
  | [] => []
  | c :: rest => composeFrom c [] 0 rest

def compose (s : List Char) : List Char :=
  composeMarks (orderMarks (decompose s))

@[simp] theorem compose_nil : compose [] = [] := rfl

end SutraArbiter.Text
