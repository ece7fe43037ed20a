import SutraArbiter.Context
import SutraArbiter.Word.Basic

namespace SutraArbiter

namespace Tags

/-- The tag of the whole family, satisfied by any two words. -/
def family : String := "ekasesha"

def familyMinimum : Nat := 2

/-- The further names under which a tag is looked up. -/
def aliases : String → List String
  | "case" => ["vibhakti", "force_case_check"]
  | "gotra" => ["category"]
  | "kinship" => ["kin"]
  | "pronoun" => ["sarvanama"]
  | _ => []

def names (tag : String) : List String :=
  tag :: aliases tag

def isActive (words : List Word) (context : Context) (tag : String) : Bool :=
  if tag = family then familyMinimum ≤ words.length
  else
    (names tag).any context.isSet
      || words.any fun word => (names tag).any word.has

def active (words : List Word) (context : Context) (tags : List String) :
    List String :=
  tags.filter (isActive words context)

def specificity (scope active : List String) : Nat :=
  (scope.filter active.contains).length

def sorted (tags : List String) : List String :=
  tags.eraseDups.mergeSort fun s t => !(t < s)

end Tags

end SutraArbiter
