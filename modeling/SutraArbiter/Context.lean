import SutraArbiter.Flags

namespace SutraArbiter

structure Context where
  flags : Flags

namespace Context

def empty : Context := ⟨[]⟩

/-- A datum that does not hold stands for no flags at all. -/
def read (d : Datum) : Except Fault Context :=
  if d.holds then do
    let entries ← d.entriesFor? "items"
    let flags ← Flags.read [] entries
    pure ⟨flags⟩
  else .ok empty

def value (context : Context) (key : String) : Datum :=
  context.flags.value key

def isSet (context : Context) (key : String) : Bool :=
  (context.value key).holds

def mentions (context : Context) (key : String) : Bool :=
  (context.flags.get? key).isSome

/-- Look-up under a key of any kind; only a text can name a flag. -/
def lookup? (context : Context) (key : Datum) : Except Fault Datum := do
  key.fitKey
  match key with
  | .text name => pure (context.value name)
  | _ => pure .null

/-- The flags that the bundled rules and their tags read. -/
def knownFlags : List String :=
  ["collection", "domain", "force_case_check", "young", "gender", "case", "gotra",
    "kinship", "pronoun", "vibhakti", "category", "kin", "sarvanama"]

def unreadFlags (context : Context) : List String :=
  (context.flags.names.filter fun name => !knownFlags.contains name).mergeSort
    fun s t => !(t < s)

end Context

end SutraArbiter
