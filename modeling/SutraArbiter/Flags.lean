import SutraArbiter.Datum.Access
import SutraArbiter.Text.Normal

namespace SutraArbiter

abbrev Flags := List (String × Datum)

namespace Flags

def get? (flags : Flags) (key : String) : Option Datum :=
  flags.lookup key

/-- The value under `key`; a flag that is not there has none. -/
def value (flags : Flags) (key : String) : Datum :=
  (flags.get? key).getD .null

def put (flags : Flags) (key : String) (datum : Datum) : Flags :=
  match flags with
  | [] => [(key, datum)]
  | flag :: rest =>
      if flag.1 = key then (key, datum) :: rest else flag :: put rest key datum

def names (flags : Flags) : List String :=
  flags.map Prod.fst

@[simp] theorem get?_nil (key : String) : get? [] key = none := rfl

theorem get?_cons (flag : String × Datum) (rest : Flags) (key : String) :
    get? (flag :: rest) key = if key = flag.1 then some flag.2 else get? rest key := by
  obtain ⟨name, datum⟩ := flag
  by_cases h : key = name
  · simp [get?, h]
  · have : (key == name) = false := by simpa using h
    simp [get?, List.lookup_cons, h, this]

theorem get?_put (flags : Flags) (key other : String) (datum : Datum) :
    (flags.put key datum).get? other =
      if other = key then some datum else flags.get? other := by
  induction flags with
  | nil => simp [put, get?_cons]
  | cons flag rest ih =>
      by_cases hkey : flag.1 = key
      · by_cases hother : other = key <;> simp [put, get?_cons, hkey, hother]
      · simp only [put, if_neg hkey, get?_cons, ih]
        by_cases hflag : other = flag.1
        · subst hflag
          simp [hkey]
        · simp [hflag]

def toDatum (flags : Flags) : Datum :=
  .map (flags.map fun flag => (.text flag.1, flag.2))

/-- Reads entries in order.  Keys are compared in snake case, and of two entries
under one key the later value stands at the earlier place. -/
def read (flags : Flags) : Entries → Except Fault Flags
  | [] => .ok flags
  | (key, datum) :: rest => do
      let name ← key.plain?
      read (flags.put (Text.snakeCase name) datum) rest

end Flags

end SutraArbiter
