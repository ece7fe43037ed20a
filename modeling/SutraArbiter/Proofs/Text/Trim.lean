import SutraArbiter.Text.Normal
import Mathlib.Data.List.DropRight

namespace SutraArbiter.Text

/-! A trimmed text has nothing left to trim, and a text that is not blank has
something left after it. -/

variable {s : String} {p : Char → Bool} {chars front back : List Char}

theorem trimBy_eq (p : Char → Bool) (chars : List Char) :
    trimBy p chars = (chars.dropWhile p).rdropWhile p := rfl

theorem trimBy_eq_nil : trimBy p chars = [] ↔ ∀ c ∈ chars, p c := by
  rw [trimBy_eq, List.rdropWhile_eq_nil_iff]
  constructor
  · intro h c hc
    rw [← List.takeWhile_append_dropWhile (p := p) (l := chars)] at hc
    rcases List.mem_append.mp hc with hc | hc
    · exact List.mem_takeWhile_imp hc
    · exact h c hc
  · intro h c hc
    exact h c ((List.dropWhile_sublist p).subset hc)

/-- What was left at the front is left at the front after the end is cut too, as
the front is where the cut would have to stop. -/
theorem dropWhile_trimBy (p : Char → Bool) (chars : List Char) :
    (trimBy p chars).dropWhile p = trimBy p chars := by
  cases htrim : trimBy p chars with
  | nil => rfl
  | cons c rest =>
      obtain ⟨tail, htail⟩ : trimBy p chars <+: chars.dropWhile p :=
        List.rdropWhile_prefix p _
      rw [htrim, List.cons_append] at htail
      have hkept : p c = false := by
        have hne : chars.dropWhile p ≠ [] := by simp [← htail]
        have hhead := List.head_dropWhile_not p hne
        simpa [← htail] using hhead
      simp [hkept]

@[simp] theorem trimBy_trimBy (p : Char → Bool) (chars : List Char) :
    trimBy p (trimBy p chars) = trimBy p chars := by
  rw [trimBy_eq p (trimBy p chars), dropWhile_trimBy, trimBy_eq, List.rdropWhile_idempotent]

theorem trimBy_eq_self_iff :
    trimBy p chars = chars ↔
      (∀ c ∈ chars.head?, ¬ p c) ∧ ∀ c ∈ chars.getLast?, ¬ p c := by
  have hdrop : chars.dropWhile p = chars ↔ ∀ c ∈ chars.head?, ¬ p c := by
    rw [List.dropWhile_eq_self_iff]
    cases chars <;> simp
  have hrdrop : chars.rdropWhile p = chars ↔ ∀ c ∈ chars.getLast?, ¬ p c := by
    rw [List.rdropWhile_eq_self_iff]
    constructor
    · intro h c hc
      obtain ⟨hne, rfl⟩ := List.mem_getLast?_eq_getLast hc
      exact h hne
    · exact fun h hne => h _ (List.getLast_mem_getLast? hne)
  rw [← hdrop, ← hrdrop]
  constructor
  · intro h
    have hfront : chars.dropWhile p = chars := h ▸ dropWhile_trimBy p chars
    rw [trimBy_eq, hfront] at h
    exact ⟨hfront, h⟩
  · rintro ⟨hfront, hback⟩
    rw [trimBy_eq, hfront, hback]

theorem trimBy_append (hfront : ∀ c ∈ front, p c) (hback : ∀ c ∈ back, p c) :
    trimBy p (front ++ chars ++ back) = trimBy p chars := by
  rw [trimBy_eq, List.append_assoc, List.dropWhile_append_of_pos hfront, List.dropWhile_append]
  split
  · rename_i hnil
    have hchars : chars.dropWhile p = [] := by simpa using hnil
    have hnone : back.dropWhile p = [] := by simpa using hback
    rw [trimBy_eq, hchars, hnone]
  · rw [trimBy_eq, List.rdropWhile, List.reverse_append,
      List.dropWhile_append_of_pos (by simpa using hback)]
    rfl

/-- What a trim cuts off is all of the kind that it cuts. -/
theorem exists_trimBy (p : Char → Bool) (chars : List Char) :
    ∃ front back, (∀ c ∈ front, p c) ∧ (∀ c ∈ back, p c) ∧
      chars = front ++ trimBy p chars ++ back := by
  refine ⟨chars.takeWhile p, (chars.dropWhile p).rtakeWhile p,
    fun c hc => List.mem_takeWhile_imp hc, fun c hc => List.mem_rtakeWhile_imp hc, ?_⟩
  rw [trimBy_eq, List.append_assoc, List.rdropWhile_append_rtakeWhile,
    List.takeWhile_append_dropWhile]

@[simp] theorem trimString_trimString (s : String) :
    trimString (trimString s) = trimString s := by
  simp [trimString, trim]

/-- A text that begins with no blank is not blank. -/
theorem isBlankString_ofList_cons {c : Char} (h : isBlank c = false) :
    isBlankString (String.ofList (c :: chars)) = false := by
  simp [isBlankString, isAllBlank, h]

theorem isBlankString_eq_true : isBlankString s = true ↔ trimString s = "" := by
  rw [trimString, trim, String.ofList_eq_empty_iff, trimBy_eq_nil]
  simp [isBlankString, isAllBlank]

theorem isBlankString_trimString (s : String) :
    isBlankString (trimString s) = isBlankString s := by
  rw [Bool.eq_iff_iff, isBlankString_eq_true, isBlankString_eq_true, trimString_trimString]

end SutraArbiter.Text
