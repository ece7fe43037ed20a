namespace SutraArbiter.Text

def blanks : List Nat :=
  [0x9, 0xA, 0xB, 0xC, 0xD, 0x1C, 0x1D, 0x1E, 0x1F, 0x20, 0x85, 0xA0, 0x1680,
    0x2000, 0x2001, 0x2002, 0x2003, 0x2004, 0x2005, 0x2006, 0x2007, 0x2008,
    0x2009, 0x200A, 0x2028, 0x2029, 0x202F, 0x205F, 0x3000]

def isBlank (c : Char) : Bool :=
  blanks.contains c.toNat

def trimBy (p : Char → Bool) (s : List Char) : List Char :=
  ((s.dropWhile p).reverse.dropWhile p).reverse

def trim (s : List Char) : List Char :=
  trimBy isBlank s

@[simp] theorem trim_nil : trim [] = [] := rfl

def isAllBlank (s : List Char) : Bool :=
  s.all isBlank

/-- What stands between blanks, with one space between any two. -/
def collapse (s : List Char) : List Char :=
  [' '].intercalate ((s.splitOnP isBlank).filter fun piece => !piece.isEmpty)

def isSeparator (c : Char) : Bool :=
  c == '+' || isBlank c

def tokensFrom : List Char → List Char → List (List Char)
  | held, [] => if held.isEmpty then [] else [held]
  | held, c :: rest =>
      if isSeparator c then
        if held.isEmpty then tokensFrom [] rest else held :: tokensFrom [] rest
      else tokensFrom (held ++ [c]) rest

def tokens (s : List Char) : List (List Char) :=
  tokensFrom [] s

def withoutSeparators (s : List Char) : List Char :=
  s.filter fun c => !isSeparator c

end SutraArbiter.Text
