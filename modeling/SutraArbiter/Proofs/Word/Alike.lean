import SutraArbiter.Proofs.Word.Reading
import SutraArbiter.Tags
import Mathlib.Data.List.Nodup

namespace SutraArbiter

def Alike (words others : List Word) : Prop :=
  (words.map Word.unplaced).Perm (others.map Word.unplaced)

namespace Alike

variable {words others : List Word}

theorem length_eq (h : Alike words others) : words.length = others.length := by
  simpa using List.Perm.length_eq h

theorem map_perm {α : Type} (h : Alike words others) (view : Word → α)
    (hview : ∀ word, view word.unplaced = view word) :
    (words.map view).Perm (others.map view) := by
  have hmapped := List.Perm.map view h
  rw [List.map_map, List.map_map] at hmapped
  have hsame : view ∘ Word.unplaced = view := funext hview
  rwa [hsame] at hmapped

theorem any_eq (h : Alike words others) (p : Word → Bool)
    (hp : ∀ word, p word.unplaced = p word) : words.any p = others.any p := by
  have hperm := h.map_perm p hp
  have hmapped : ∀ items : List Word, items.any p = (items.map p).any id := by
    simp
  rw [hmapped, hmapped, Bool.eq_iff_iff, List.any_eq_true, List.any_eq_true]
  simp only [hperm.mem_iff]

theorem all_eq (h : Alike words others) (p : Word → Bool)
    (hp : ∀ word, p word.unplaced = p word) : words.all p = others.all p := by
  rw [List.all_eq_not_any_not, List.all_eq_not_any_not]
  exact congrArg not (h.any_eq (fun word => !p word) fun word => congrArg not (hp word))

theorem isEmpty_filter (h : Alike words others) (p : Word → Bool)
    (hp : ∀ word, p word.unplaced = p word) :
    (words.filter p).isEmpty = (others.filter p).isEmpty := by
  have hany : ∀ items : List Word, (items.filter p).isEmpty = !items.any p := by
    intro items
    rw [Bool.eq_iff_iff]
    simp
  rw [hany, hany, h.any_eq p hp]

theorem getLast?_filter (h : Alike words others) (p : Word → Bool)
    (hp : ∀ word, p word.unplaced = p word) :
    (words.filter p).getLast? = none ∧ (others.filter p).getLast? = none
      ∨ ∃ keeper other, (words.filter p).getLast? = some keeper
        ∧ (others.filter p).getLast? = some other := by
  have hempty := h.isEmpty_filter p hp
  cases hwords : (words.filter p).getLast? with
  | none =>
      rw [List.getLast?_eq_none_iff.mp hwords] at hempty
      exact .inl ⟨rfl, List.getLast?_eq_none_iff.mpr (List.isEmpty_iff.mp hempty.symm)⟩
  | some keeper =>
      cases hothers : (others.filter p).getLast? with
      | none =>
          rw [List.getLast?_eq_none_iff.mp hothers] at hempty
          rw [List.isEmpty_iff.mp hempty] at hwords
          cases hwords
      | some other => exact .inr ⟨keeper, other, rfl, rfl⟩

theorem isActive_eq (h : Alike words others) (context : Context) :
    Tags.isActive words context = Tags.isActive others context := by
  funext tag
  unfold Tags.isActive
  rw [h.length_eq, h.any_eq (fun word => (Tags.names tag).any word.has) fun _ => rfl]

theorem of_perm {readings reordered : List Reading} (h : readings.Perm reordered) :
    Alike ((Reading.placedFrom 0 readings).map Prod.fst)
      ((Reading.placedFrom 0 reordered).map Prod.fst) := by
  unfold Alike
  rw [List.map_map, List.map_map]
  change ((Reading.placedFrom 0 readings).map fun reading => reading.1.unplaced).Perm
    ((Reading.placedFrom 0 reordered).map fun reading => reading.1.unplaced)
  rw [Reading.unplaced_placedFrom, Reading.unplaced_placedFrom]
  exact h.map _

end Alike

/-- Each word bears its own place. -/
def Placed (words : List Word) : Prop :=
  words.map Word.index = List.range words.length

namespace Placed

variable {words : List Word} {word other : Word}

theorem of_readings (readings : List Reading) :
    Placed ((Reading.placedFrom 0 readings).map Prod.fst) := by
  unfold Placed
  rw [List.map_map, List.length_map, Reading.length_placedFrom, List.range_eq_range']
  exact Reading.index_placedFrom 0 readings

theorem eq_of_index (h : Placed words) (hword : word ∈ words) (hother : other ∈ words)
    (hindex : word.index = other.index) : word = other := by
  have hnodup : (words.map Word.index).Nodup := by
    rw [h]
    exact List.nodup_range
  exact List.inj_on_of_nodup_map hnodup hword hother hindex

end Placed

namespace WordGroup

variable {raw : Datum} {items : List Datum} {group : WordGroup}

theorem exists_items (h : WordGroup.read raw = .ok group) :
    ∃ items, WordGroup.items raw = .ok items := by
  obtain ⟨items, hitems, -⟩ := bind_eq_ok.mp h
  exact ⟨items, hitems⟩

theorem placed_of_read (h : WordGroup.read raw = .ok group) : Placed group.words := by
  obtain ⟨items, hitems⟩ := exists_items h
  obtain ⟨-, readings, -, rfl⟩ := (read_eq_ok hitems).mp h
  exact .of_readings readings

theorem ne_nil_of_read (h : WordGroup.read raw = .ok group) : group.words ≠ [] := by
  obtain ⟨items, hitems⟩ := exists_items h
  obtain ⟨hsome, readings, hreadings, rfl⟩ := (read_eq_ok hitems).mp h
  intro hnone
  have hlength := congrArg List.length hnone
  rw [List.length_map, Reading.length_placedFrom, length_of_mapM hreadings] at hlength
  exact hsome (List.eq_nil_of_length_eq_zero hlength)

theorem isClear_of_read (hitems : WordGroup.items raw = .ok items)
    (hclear : ∀ item ∈ items, item.isOverlong = false) (h : WordGroup.read raw = .ok group) :
    ∀ word ∈ group.words, word.IsClear := by
  obtain ⟨-, readings, hreadings, rfl⟩ := (read_eq_ok hitems).mp h
  intro word hword
  obtain ⟨placed, hplaced, rfl⟩ := List.mem_map.mp hword
  have hunplaced : placed.1.unplaced ∈ readings.map fun reading => reading.1.unplaced := by
    rw [← Reading.unplaced_placedFrom 0]
    exact List.mem_map_of_mem hplaced
  obtain ⟨reading, hreading, hsame⟩ := List.mem_map.mp hunplaced
  obtain ⟨item, hitem, hread⟩ := mem_mapM hreadings hreading
  have hreadingClear : reading.1.unplaced.IsClear := readWord_isClear (hclear item hitem) hread
  rwa [hsame] at hreadingClear

theorem isOverlong_of_items (hclear : raw.isOverlong = false)
    (hitems : WordGroup.items raw = .ok items) : ∀ item ∈ items, item.isOverlong = false := by
  unfold WordGroup.items at hitems
  split at hitems
  · cases hitems
    intro item hitem
    obtain ⟨token, -, rfl⟩ := List.mem_map.mp hitem
    exact Datum.isOverlong_text _
  · cases hitems
    exact Datum.isOverlong_list_eq_false.mp hclear
  · cases hitems
    exact Datum.isOverlong_tuple_eq_false.mp hclear
  · cases hitems

end WordGroup

end SutraArbiter
