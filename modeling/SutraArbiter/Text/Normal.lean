import SutraArbiter.Text.Blank
import SutraArbiter.Text.Composition
import SutraArbiter.Text.Lower

namespace SutraArbiter.Text

def normalChars (s : List Char) : List Char :=
  lower (trim (compose s))

def normalForm (s : String) : String :=
  String.ofList (normalChars s.toList)

@[simp] theorem toList_normalForm (s : String) :
    (normalForm s).toList = normalChars s.toList := by
  simp [normalForm]

def trimString (s : String) : String :=
  String.ofList (trim s.toList)

def lowerString (s : String) : String :=
  String.ofList (lower s.toList)

def isBlankString (s : String) : Bool :=
  isAllBlank s.toList

/-! The form in which keys are looked up: words in small letters joined by
underscores, however the key was spelled. -/

def isLowerOrDigit (c : Char) : Bool :=
  ('a' ≤ c && c ≤ 'z') || ('0' ≤ c && c ≤ '9')

def isCapital (c : Char) : Bool :=
  'A' ≤ c && c ≤ 'Z'

/-- Sets an underscore before each capital that follows a small letter or a digit. -/
def breakAtCapitals : List Char → List Char
  | c :: d :: rest =>
      if isLowerOrDigit c && isCapital d then c :: '_' :: breakAtCapitals (d :: rest)
      else c :: breakAtCapitals (d :: rest)
  | s => s

def snakeChars (s : List Char) : List Char :=
  lower ((breakAtCapitals (trim s)).map fun c => if c = '-' then '_' else c)

def snakeCase (s : String) : String :=
  String.ofList (snakeChars s.toList)

@[simp] theorem toList_snakeCase (s : String) :
    (snakeCase s).toList = snakeChars s.toList := by
  simp [snakeCase]

end SutraArbiter.Text
