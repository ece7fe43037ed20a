import SutraArbiter.Proofs.Datum
import SutraArbiter.Proofs.Numeral
import SutraArbiter.Strategy
import SutraArbiter.Tier
import Mathlib.Data.List.Nodup

namespace SutraArbiter

namespace Form

/-- An entry that a mapping may have, or has to have, and what stands there. -/
structure Slot where
  name : String
  required : Bool
  Holds : Datum → Prop

/-- What is not required may be absent. -/
def Slot.Fits (slot : Slot) (entries : Entries) : Prop :=
  match entries.get? slot.name with
  | none => slot.required = false
  | some value => slot.Holds value

/-- A mapping with entries for these slots and no others. -/
structure Follows (slots : List Slot) (entries : Entries) : Prop where
  known : ∀ key ∈ entries.keys, ∃ slot ∈ slots, key = .text slot.name
  fits : ∀ slot ∈ slots, slot.Fits entries

/-- A text that is not blank. -/
def IsWording : Datum → Prop
  | .text s => ∃ c ∈ s.toList, Text.isBlank c = false
  | _ => False

def IsBoolean : Datum → Prop
  | .bool _ => True
  | _ => False

def IsPositive : Datum → Prop
  | .int count => 1 ≤ count
  | _ => False

/-- A number between nothing and one; a truth value is no number. -/
def IsShare : Datum → Prop
  | .int value => 0 ≤ value ∧ value ≤ 1
  | .float (.finite negative units) => units ≤ Double.unitsPerOne ∧ (negative = true → units = 0)
  | _ => False

/-- Two or more groups of digits with a point between neighbours, and at most one line end
behind them. -/
def IsNumeral : Datum → Prop
  | .text s => ∃ groups tail, s.toList = ['.'].intercalate groups ++ tail
      ∧ 2 ≤ groups.length ∧ (∀ group ∈ groups, Numeral.IsGroup group)
      ∧ (tail = [] ∨ tail = ['\n'])
  | _ => False

def IsTier : Datum → Prop
  | .text spelling => ∃ tier : Tier, Text.snakeCase spelling = tier.name
  | _ => False

def IsMap : Datum → Prop
  | .map _ => True
  | _ => False

/-- A mapping with the slots given. -/
def IsRecord (slots : List Slot) : Datum → Prop
  | .map entries => Follows slots entries
  | _ => False

def IsTags : Datum → Prop
  | .list tags => tags ≠ [] ∧ ∀ tag ∈ tags, IsWording tag
  | _ => False

def IsFilters : Datum → Prop
  | .map filters => filters ≠ []
  | _ => False

def IsWords : Datum → Prop
  | .list words => ∀ word ∈ words, IsWording word
  | _ => False

/-- Words in one script or in both. -/
def IsLexicon : Datum → Prop
  | .map table => table ≠ [] ∧ ∀ entry ∈ table,
      (entry.1 = .text "iast" ∨ entry.1 = .text "devanagari") ∧ IsWords entry.2
  | _ => False

/-- What is retained and what is dropped for it, in either order. -/
def IsPairing : Datum → Prop
  | .map sides => ∃ retain drop, sides.Perm [(.text "retain", retain), (.text "drop", drop)]
      ∧ IsLexicon retain ∧ IsLexicon drop
  | _ => False

def IsPairs : Datum → Prop
  | .list pairs => pairs ≠ [] ∧ ∀ pair ∈ pairs, IsPairing pair
  | _ => False

def metadataSlots : List Slot :=
  [⟨"title", true, IsWording⟩, ⟨"description", true, IsWording⟩, ⟨"text", false, IsWording⟩,
    ⟨"reason", false, IsWording⟩, ⟨"confidence", true, IsShare⟩]

def contextSlots : List Slot :=
  [⟨"require", false, IsMap⟩, ⟨"forbid", false, IsMap⟩]

/-- The parameters that each strategy has for itself. -/
def ownSlots : Strategy → List Slot
  | .identicalForms => [⟨"case_check_flag", false, IsWording⟩]
  | .lexicalRetention =>
      [⟨"pairs", true, IsPairs⟩, ⟨"flag", false, IsWording⟩, ⟨"flag_confidence", false, IsShare⟩]
  | .seriesRetention => [⟨"series", false, IsLexicon⟩, ⟨"flag", false, IsWording⟩]
  | .attributePairing => [⟨"retain", true, IsFilters⟩, ⟨"against", true, IsFilters⟩]
  | .attributeSelection => [⟨"retain", true, IsFilters⟩]

def parameterSlots (strategy : Strategy) : List Slot :=
  ⟨"min_words", false, IsPositive⟩ :: ownSlots strategy

def matchSlots (strategy : Strategy) : List Slot :=
  ⟨"strategy", true, fun named => named = .text strategy.name⟩ :: parameterSlots strategy

/-- The parameters of one strategy; a series may be left out for a flag, and a flag only has
a confidence if there is one. -/
structure Matches (strategy : Strategy) (entries : Entries) : Prop where
  slots : Follows (matchSlots strategy) entries
  seriesOrFlag : strategy = .seriesRetention →
    entries.has "series" = true ∨ entries.has "flag" = true
  flagged : entries.has "flag_confidence" = true → entries.has "flag" = true

def IsMatch : Datum → Prop
  | .map entries => ∃ strategy, Matches strategy entries
  | _ => False

def actionSlots : List Slot :=
  [⟨"strategy", true, fun named => named = .text "retain_selection"⟩,
    ⟨"optional", false, IsBoolean⟩, ⟨"domain", false, IsWording⟩,
    ⟨"gender_override", false, IsWording⟩, ⟨"number_override", false, IsWording⟩]

def ruleSlots : List Slot :=
  [⟨"rule_id", true, IsNumeral⟩, ⟨"version", true, fun version => version = .int 1⟩,
    ⟨"priority_class", true, IsTier⟩, ⟨"scope_tags", true, IsTags⟩,
    ⟨"metadata", true, IsRecord metadataSlots⟩, ⟨"context", false, IsRecord contextSlots⟩,
    ⟨"match", true, IsMatch⟩, ⟨"action", true, IsRecord actionSlots⟩]

def IsRule : Datum → Prop :=
  IsRecord ruleSlots

/-- Whatever stands in the slot is as it should be. -/
def Slot.Admits (slot : Slot) (entries : Entries) : Prop :=
  ∀ value, entries.get? slot.name = some value → slot.Holds value

theorem Slot.fits_iff {slot : Slot} {entries : Entries} :
    slot.Fits entries ↔
      (slot.required = true → entries.has slot.name = true) ∧ slot.Admits entries := by
  unfold Fits Admits Entries.has
  cases entries.get? slot.name <;> simp

theorem Slot.Admits.eq_none_or {slot : Slot} {entries : Entries} (h : slot.Admits entries) :
    entries.get? slot.name = none
      ∨ ∃ value, entries.get? slot.name = some value ∧ slot.Holds value := by
  cases hvalue : entries.get? slot.name with
  | none => exact .inl rfl
  | some value => exact .inr ⟨value, rfl, h value hvalue⟩

/-- What is read under the key of a slot is the default or what the slot should have. -/
theorem Slot.Admits.getD {slot : Slot} {entries : Entries} (h : slot.Admits entries)
    (default : Datum) :
    entries.getD slot.name default = default ∨ slot.Holds (entries.getD slot.name default) := by
  rcases h.eq_none_or with hnone | ⟨value, hvalue, hholds⟩
  · exact .inl (Entries.getD_of_get?_eq_none hnone)
  · rw [Entries.getD_of_get?_eq_some hvalue]
    exact .inr hholds

theorem follows_iff {slots : List Slot} {entries : Entries} :
    Follows slots entries ↔
      (∀ key ∈ entries.keys, ∃ slot ∈ slots, key = .text slot.name)
        ∧ (∀ slot ∈ slots, slot.required = true → entries.has slot.name = true)
        ∧ ∀ slot ∈ slots, slot.Admits entries := by
  constructor
  · intro h
    exact ⟨h.known, fun slot hslot => (Slot.fits_iff.mp (h.fits slot hslot)).1,
      fun slot hslot => (Slot.fits_iff.mp (h.fits slot hslot)).2⟩
  · intro ⟨hknown, hrequired, hadmits⟩
    exact ⟨hknown, fun slot hslot => Slot.fits_iff.mpr ⟨hrequired slot hslot, hadmits slot hslot⟩⟩

/-- A slot that is free can be filled. -/
theorem Follows.fill {slots : List Slot} {entries : Entries} (h : Follows slots entries)
    (hnames : (slots.map Slot.name).Nodup) {slot : Slot} (hslot : slot ∈ slots)
    (hfree : entries.get? slot.name = none) {value : Datum} (hvalue : slot.Holds value) :
    Follows slots (entries ++ [(.text slot.name, value)]) where
  known := fun key hkey => by
    unfold Entries.keys at hkey
    rw [List.map_append, List.mem_append] at hkey
    rcases hkey with hkey | hkey
    · exact h.known key hkey
    · exact ⟨slot, hslot, List.mem_singleton.mp hkey⟩
  fits := fun other hother => by
    unfold Slot.Fits
    rw [Entries.get?_append_text]
    by_cases hname : other.name = slot.name
    · rw [List.inj_on_of_nodup_map hnames hother hslot hname, hfree, if_pos rfl]
      exact hvalue
    · have hfits := h.fits other hother
      rw [if_neg hname, Option.or_none]
      exact hfits

theorem Matches.has_strategy {strategy : Strategy} {entries : Entries}
    (h : Matches strategy entries) : entries.has "strategy" = true :=
  (follows_iff.mp h.slots).2.1 _ List.mem_cons_self rfl

/-- What is read of a slot that is filled is what stands there. -/
theorem holds_getD_iff {entries : Entries} {name : String} (hhas : entries.has name = true)
    (Holds : Datum → Prop) :
    Holds (entries.getD name .null) ↔
      ∀ value, entries.get? name = some value → Holds value := by
  obtain ⟨value, hvalue⟩ := Option.isSome_iff_exists.mp hhas
  rw [Entries.getD_of_get?_eq_some hvalue]
  simp [hvalue]

end Form

end SutraArbiter
