import SutraArbiter.Proofs.Steps
import SutraArbiter.Datum.Access
import Mathlib.Data.List.Nodup

namespace SutraArbiter

namespace Datum

theorem isText_iff {d : Datum} : d.isText = true ↔ ∃ s, d = .text s := by
  cases d <;> simp [isText]

theorem sameKey_text {key : Datum} {name : String} :
    key.sameKey (.text name) = true ↔ key = .text name := by
  cases key <;> simp [sameKey, sameLevel, level?]

theorem anyOverlong_eq_false {items : List Datum} :
    anyOverlong items = false ↔ ∀ item ∈ items, item.isOverlong = false := by
  induction items with
  | nil => simp [anyOverlong]
  | cons item rest ih => simp [anyOverlong, ih]

theorem anyOverlong_eq_true {items : List Datum} :
    anyOverlong items = true ↔ ∃ item ∈ items, item.isOverlong = true := by
  induction items with
  | nil => simp [anyOverlong]
  | cons item rest ih => simp [anyOverlong, ih]

theorem anyEntryOverlong_eq_false {entries : Entries} :
    anyEntryOverlong entries = false ↔
      ∀ entry ∈ entries, entry.1.isOverlong = false ∧ entry.2.isOverlong = false := by
  induction entries with
  | nil => simp [anyEntryOverlong]
  | cons entry rest ih => simp [anyEntryOverlong, ih]

theorem isOverlong_map_eq_false {entries : Entries} :
    (map entries).isOverlong = false ↔
      ∀ entry ∈ entries, entry.1.isOverlong = false ∧ entry.2.isOverlong = false := by
  rw [isOverlong, anyEntryOverlong_eq_false]

theorem isOverlong_list_eq_false {items : List Datum} :
    (list items).isOverlong = false ↔ ∀ item ∈ items, item.isOverlong = false := by
  rw [isOverlong, anyOverlong_eq_false]

theorem isOverlong_tuple_eq_false {items : List Datum} :
    (tuple items).isOverlong = false ↔ ∀ item ∈ items, item.isOverlong = false := by
  rw [isOverlong, anyOverlong_eq_false]

theorem holds_of_isOverlong {d : Datum} (h : d.isOverlong = true) : d.holds = true := by
  cases d with
  | int i =>
      have hne : i ≠ 0 := by
        rintro rfl
        simp [isOverlong, Number.hasOverlongText] at h
      exact bne_iff_ne.mpr hne
  | list items | tuple items | map entries =>
      cases ‹List _› with
      | nil => cases h
      | cons first rest => rfl
  | _ => cases h

theorem plain?_eq_error {d : Datum} {fault : Fault} :
    d.plain? = .error fault ↔ fault = .overlongInteger ∧ d.isOverlong = true := by
  unfold plain?
  cases d.isOverlong <;> simp [eq_comm]

theorem isOverlong_natCast {n : Nat} (h : Nat.pow 10 Number.digitLimit ≤ n) :
    (int n).isOverlong = true := by
  rw [isOverlong, Number.hasOverlongText, Int.natAbs_natCast]
  exact decide_eq_true h

theorem fitKey_eq_ok {d : Datum} : d.fitKey = .ok () ↔ d.unfitKind? = none := by
  unfold fitKey
  cases d.unfitKind? <;> simp

theorem unfitKindAmong?_text (texts : List String) :
    unfitKindAmong? (texts.map text) = none := by
  induction texts with
  | nil => rfl
  | cons first rest ih => simpa [unfitKindAmong?, unfitKind?] using ih

mutual

def keysFit : Datum → Bool
  | list items => allKeysFit items
  | tuple items => allKeysFit items
  | map entries => entryKeysFit entries
  | _ => true

def allKeysFit : List Datum → Bool
  | [] => true
  | item :: rest => keysFit item && allKeysFit rest

def entryKeysFit : List (Datum × Datum) → Bool
  | [] => true
  | (key, value) :: rest =>
      key.unfitKind?.isNone && keysFit value && entryKeysFit rest

end

theorem keysFit_map {entries : Entries} :
    (map entries).keysFit = true ↔
      ∀ entry ∈ entries, entry.1.unfitKind? = none ∧ entry.2.keysFit = true := by
  rw [keysFit]
  induction entries with
  | nil => simp [entryKeysFit]
  | cons entry rest ih => simp [entryKeysFit, ih]

/-- Data that can be written out and whose maps have keys that can be keys. -/
structure IsProper (d : Datum) : Prop where
  clear : d.isOverlong = false
  keys : d.keysFit = true

theorem IsProper.of_mem {entries : Entries} (h : (map entries).IsProper)
    {entry : Datum × Datum} (hentry : entry ∈ entries) :
    entry.1.unfitKind? = none ∧ entry.2.IsProper :=
  ⟨(keysFit_map.mp h.keys entry hentry).1,
    (isOverlong_map_eq_false.mp h.clear entry hentry).2,
    (keysFit_map.mp h.keys entry hentry).2⟩

end Datum

namespace Entries

variable {entries : Entries} {name other : String} {value : Datum}

theorem mem_of_get? (h : entries.get? name = some value) :
    (.text name, value) ∈ entries := by
  obtain ⟨⟨key, found⟩, hfind, rfl⟩ := Option.map_eq_some_iff.mp h
  have hsame : key.sameKey (.text name) = true := by
    simpa using List.find?_some hfind
  rw [← Datum.sameKey_text.mp hsame]
  exact List.mem_of_find?_eq_some hfind

/-- Among different keys a member stands under its own. -/
theorem get?_eq_some_iff (hdistinct : entries.keys.Nodup) :
    entries.get? name = some value ↔ (.text name, value) ∈ entries := by
  refine ⟨mem_of_get?, fun hmem => ?_⟩
  obtain ⟨found, hfound⟩ : ∃ found, entries.get? name = some found := by
    rw [← Option.isSome_iff_exists, get?, find?, Option.isSome_map, List.find?_isSome]
    exact ⟨_, hmem, Datum.sameKey_text.mpr rfl⟩
  have hsame := List.inj_on_of_nodup_map hdistinct (mem_of_get? hfound) hmem rfl
  rw [hfound, (Prod.mk.inj hsame).2]

theorem get?_of_perm {others : Entries} (hdistinct : entries.keys.Nodup)
    (h : others.Perm entries) : others.get? name = entries.get? name := by
  have hothers : others.keys.Nodup := (h.map Prod.fst).nodup_iff.mpr hdistinct
  refine Option.ext fun value => ?_
  rw [get?_eq_some_iff hothers, get?_eq_some_iff hdistinct, h.mem_iff]

theorem get?_without (h : name ≠ other) :
    (entries.without other).get? name = entries.get? name := by
  unfold Entries.get? Entries.find? Entries.without
  rw [List.find?_filter]
  congr 2
  funext entry
  rw [Bool.eq_iff_iff, decide_eq_true_eq, Datum.sameKey_text, and_iff_right_iff_imp]
  intro hkey
  rw [Bool.not_eq_true', Bool.eq_false_iff, ne_eq, Datum.sameKey_text, hkey]
  simpa using h

theorem get?_append_text :
    Entries.get? (entries ++ [(.text name, value)]) other =
      (entries.get? other).or (if other = name then some value else none) := by
  unfold Entries.get? Entries.find?
  rw [List.find?_append, Option.map_or]
  congr 1
  by_cases h : other = name
  · simp [h, Datum.sameKey_text.mpr]
  · have hother : (Datum.text name).sameKey (.text other) = false := by
      rw [Bool.eq_false_iff, ne_eq, Datum.sameKey_text, Datum.text.injEq]
      exact fun hsame => h hsame.symm
    simp [h, hother]

theorem getD_of_get?_eq_none {default : Datum} (h : entries.get? name = none) :
    entries.getD name default = default := by
  simp [Entries.getD, h]

theorem getD_of_get?_eq_some {default : Datum} (h : entries.get? name = some value) :
    entries.getD name default = value := by
  simp [Entries.getD, h]

end Entries

end SutraArbiter
