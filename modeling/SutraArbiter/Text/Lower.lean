import SutraArbiter.Text.CaseTable

namespace SutraArbiter.Text

/-! Small letters.  Two letters have a rule of their own: the dotted capital I
keeps its dot as a mark, and a capital sigma takes the final form at the end of
a word. -/

def lowerLetter (c : Char) : Char :=
  if c.toNat < 0x41 then c
  else
    match caseRuns.find? fun run => decide (run.Covers c.toNat) with
    | some run => Char.ofNat (c.toNat + run.shift).toNat
    | none => c

def isCased (c : Char) : Bool :=
  casedSpans.any fun span => span.1 ≤ c.toNat && c.toNat ≤ span.2

def isCaseIgnorable (c : Char) : Bool :=
  caseIgnorableSpans.any fun span => span.1 ≤ c.toNat && c.toNat ≤ span.2

/-- Whether the nearest character that the case rule sees is a letter with case. -/
def facesCased (side : List Char) : Bool :=
  (side.dropWhile isCaseIgnorable).head?.any isCased

/-- The small form of `c` between `before`, read backwards, and `after`. -/
def lowerBetween (before : List Char) (c : Char) (after : List Char) : List Char :=
  if c = 'Σ' then
    if facesCased before && !facesCased after then ['ς'] else ['σ']
  else if c = 'İ' then ['i', Char.ofNat 0x307]
  else [lowerLetter c]

def lowerFrom : List Char → List Char → List Char
  | _, [] => []
  | before, c :: after =>
      lowerBetween before c after ++ lowerFrom (c :: before) after

def lower (s : List Char) : List Char :=
  lowerFrom [] s

@[simp] theorem lower_nil : lower [] = [] := rfl

end SutraArbiter.Text
