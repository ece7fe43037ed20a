import SutraArbiter.Proofs.Text.Recomposition
import SutraArbiter.Proofs.Text.Tokens
import Mathlib.Data.List.Chain

namespace SutraArbiter.Text

/-! Composition and separators.  A separator is its own part, or has another separator for
its part, and joins nothing; so it can only keep apart what would be joined without it. -/

variable {c d x y z : Char} {s : List Char}

/-- Stretches in which the separators lie. -/
def separatorSpans : List (Nat × Nat) :=
  [(0x9, 0x2B), (0x85, 0xA0), (0x1680, 0x1680), (0x2000, 0x205F), (0x3000, 0x3000)]

def inSeparatorSpan (n : Nat) : Bool :=
  separatorSpans.any fun span => Nat.ble span.1 n && Nat.ble n span.2

theorem toNat_mem_of_isSeparator (h : isSeparator c = true) : c.toNat ∈ 0x2B :: blanks := by
  unfold isSeparator at h
  rcases Bool.or_eq_true_iff.mp h with hplus | hblank
  · rw [eq_of_beq hplus]
    exact List.mem_cons_self
  · exact List.mem_cons_of_mem _ (toNat_mem_blanks hblank)

theorem inSeparatorSpan_of_isSeparator (h : isSeparator c = true) :
    inSeparatorSpan c.toNat = true := by
  have hspan : ∀ n ∈ 0x2B :: blanks, inSeparatorSpan n = true := by decide
  exact hspan _ (toNat_mem_of_isSeparator h)

/-- No separator is as large as the ideographs, or lies among the letters of Hangul. -/
theorem toNat_le_of_isSeparator (h : isSeparator c = true) :
    c.toNat ≤ 0x3000 ∧ (c.toNat < leadBase ∨ tailBase + tailCount ≤ c.toNat) := by
  have hnumber : ∀ n ∈ 0x2B :: blanks,
      n ≤ 0x3000 ∧ (n < leadBase ∨ tailBase + tailCount ≤ n) := by
    decide
  exact hnumber _ (toNat_mem_of_isSeparator h)

theorem isSeparator_ofNat {n : Nat} (h : inSeparatorSpan n = false) :
    isSeparator (Char.ofNat n) = false := by
  rcases toNat_ofNat_or n with hn | hnone
  · rw [Bool.eq_false_iff]
    intro hseparator
    have hspan := inSeparatorSpan_of_isSeparator hseparator
    rw [hn, h] at hspan
    cases hspan
  · rw [hnone]
    decide

theorem isSeparator_of_isHangul (h : IsHangul c) : isSeparator c = false := by
  rw [Bool.eq_false_iff]
  intro hseparator
  have hnumber := toNat_le_of_isSeparator hseparator
  unfold IsHangul at h
  unfold leadBase tailBase leadCount vowelCount tailCount syllableBase at *
  omega

/-- Two separators have another one for their part; no other character has, or is one. -/
theorem inSeparatorSpan_parts (page : Nat) :
    ∀ row ∈ decompositionPage page,
      (inSeparatorSpan row.1 = false ∧ ∀ n ∈ row.2, inSeparatorSpan n = false)
        ∨ row = (0x2000, [0x2002]) ∨ row = (0x2001, [0x2003]) := by
  unfold decompositionPage
  split
  all_goals decide +kernel

theorem isSeparator_of_mem_decomposeChar (h : d ∈ decomposeChar c) :
    isSeparator d = isSeparator c := by
  refine of_decomposeChar (P := fun c parts => ∀ d ∈ parts, isSeparator d = isSeparator c)
    (by simp) (fun page row hrow => ?_) (fun c parts hc _ hall d hd => ?_) d h
  · rw [List.forall_mem_map]
    rcases inSeparatorSpan_parts page row hrow with ⟨hkey, hparts⟩ | rfl | rfl
    · intro n hn
      rw [isSeparator_ofNat (hparts n hn), isSeparator_ofNat hkey]
    · decide
    · decide
  · rw [isSeparator_of_isHangul hc, isSeparator_of_isHangul (hall d hd)]

/-- A separator is taken apart into one character. -/
theorem length_decomposeChar_of_isSeparator (h : isSeparator c = true) :
    (decomposeChar c).length = 1 := by
  revert h
  refine of_decomposeChar (P := fun c parts => isSeparator c = true → parts.length = 1)
    (fun _ _ => rfl) (fun page row hrow => ?_) fun c _ hc _ _ h => ?_
  · rcases inSeparatorSpan_parts page row hrow with ⟨hkey, -⟩ | rfl | rfl
    · rw [isSeparator_ofNat hkey]
      exact nofun
    · exact fun _ => rfl
    · exact fun _ => rfl
  · rw [isSeparator_of_isHangul hc] at h
    cases h

/-- No separator is joined to another character, or what two characters make: that has two
parts or more. -/
theorem isSeparator_of_composePair? (h : composePair? x y = some z) :
    isSeparator x = false ∧ isSeparator y = false ∧ isSeparator z = false := by
  have hparts := decomposeChar_of_composePair? h
  have hz : isSeparator z = false := by
    rw [Bool.eq_false_iff]
    intro hseparator
    have hone := length_decomposeChar_of_isSeparator hseparator
    have hx := List.length_pos_of_ne_nil (decomposeChar_ne_nil (c := x))
    have hy := List.length_pos_of_ne_nil (decomposeChar_ne_nil (c := y))
    rw [hparts, List.length_append] at hone
    omega
  have hpart (c : Char) (hc : ∀ d ∈ decomposeChar c, d ∈ decomposeChar z) :
      isSeparator c = false := by
    obtain ⟨d, hd⟩ := List.exists_mem_of_ne_nil (decomposeChar c) decomposeChar_ne_nil
    rw [← isSeparator_of_mem_decomposeChar hd, isSeparator_of_mem_decomposeChar (hc d hd), hz]
  rw [hparts] at hpart
  exact ⟨hpart x fun _ => List.mem_append_left _, hpart y fun _ => List.mem_append_right _, hz⟩

theorem isStable_isSeparator (b : Bool) : IsStable fun c => isSeparator c = b where
  joined h := by
    obtain ⟨hx, hy, hz⟩ := isSeparator_of_composePair? h
    rw [hx, hy, hz, and_self]
  parts c := by
    obtain ⟨d, hd⟩ := List.exists_mem_of_ne_nil (decomposeChar c) decomposeChar_ne_nil
    exact ⟨fun h => (isSeparator_of_mem_decomposeChar hd).symm.trans (h d hd),
      fun h e he => (isSeparator_of_mem_decomposeChar he).trans h⟩

theorem exists_mem_compose :
    (∃ c ∈ compose s, isSeparator c = false) ↔ ∃ c ∈ s, isSeparator c = false := by
  have h := not_congr ((isStable_isSeparator true).forall_mem_compose (s := s))
  simpa using h

/-- A stable property may as well be had of the characters that are no separators. -/
theorem IsStable.or_isSeparator {P : Char → Prop} (h : IsStable P) :
    IsStable fun c => P c ∨ isSeparator c = true where
  joined hxyz := by
    obtain ⟨hx, hy, hz⟩ := isSeparator_of_composePair? hxyz
    simp [hx, hy, hz, h.joined hxyz]
  parts c := by
    cases hc : isSeparator c with
    | true => simpa using fun d hd => .inr ((isSeparator_of_mem_decomposeChar hd).trans hc)
    | false =>
        have hparts : ∀ d ∈ decomposeChar c, isSeparator d = false :=
          fun d hd => (isSeparator_of_mem_decomposeChar hd).trans hc
        rw [← h.parts c]
        simp +contextual [hparts]

theorem isApart_of_isSeparator (h : isSeparator c = true) : IsApart c where
  base := by
    rcases isSeparator_eq_true.mp h with rfl | hblank
    · rfl
    · exact markClass_of_isBlank hblank
  opens d := by
    rw [Option.eq_none_iff_forall_ne_some]
    intro z hz
    rw [(isSeparator_of_composePair? hz).2.1] at h
    cases h
  barren d := by
    rw [Option.eq_none_iff_forall_ne_some]
    intro z hz
    rw [(isSeparator_of_composePair? hz).1] at h
    cases h

theorem isCombining_of_isSeparator (h : isSeparator c = true) : isCombining c = false := by
  simpa [isCombining] using (isApart_of_isSeparator h).base

theorem isApart_of_mem_decomposeChar (h : isSeparator c = true) (hd : d ∈ decomposeChar c) :
    IsApart d :=
  isApart_of_isSeparator ((isSeparator_of_mem_decomposeChar hd).trans h)

theorem opens_of_isSeparator (h : isSeparator c = true) : Opens (c :: s) :=
  opens_cons fun _ hd =>
    (isApart_of_mem_decomposeChar h
      (decompose_singleton c ▸ List.mem_of_mem_head? hd)).toIsOpening

theorem compose_cons_of_isSeparator (h : isSeparator c = true) :
    compose (c :: s) = decomposeChar c ++ compose s := by
  have hapart : ∀ d ∈ decompose [c], IsApart d := by
    rw [decompose_singleton]
    exact fun d hd => isApart_of_mem_decomposeChar h hd
  rw [← List.singleton_append, compose_apart_append hapart, decompose_singleton]

theorem withoutSeparators_eq_self (h : ∀ c ∈ s, isSeparator c = false) :
    withoutSeparators s = s :=
  List.filter_eq_self.mpr fun c hc => by rw [h c hc, Bool.not_false]

theorem withoutSeparators_eq_nil :
    withoutSeparators s = [] ↔ ∀ c ∈ s, isSeparator c = true := by
  simp [withoutSeparators]

@[simp] theorem withoutSeparators_withoutSeparators (s : List Char) :
    withoutSeparators (withoutSeparators s) = withoutSeparators s := by
  simp [withoutSeparators]

theorem exists_mem_withoutSeparators :
    (∃ c ∈ withoutSeparators s, isSeparator c = false) ↔ ∃ c ∈ s, isSeparator c = false := by
  simp [withoutSeparators]

theorem forall_mem_withoutSeparators {P : Char → Prop} :
    (∀ c ∈ withoutSeparators s, P c) ↔ ∀ c ∈ s, P c ∨ isSeparator c = true := by
  simp only [withoutSeparators, List.mem_filter, Bool.not_eq_true', and_imp]
  refine forall₂_congr fun c _ => ?_
  cases isSeparator c <;> simp

theorem withoutSeparators_append (s after : List Char) :
    withoutSeparators (s ++ after) = withoutSeparators s ++ withoutSeparators after :=
  List.filter_append _ _

theorem withoutSeparators_decomposeChar (h : isSeparator c = true) :
    withoutSeparators (decomposeChar c) = [] :=
  withoutSeparators_eq_nil.mpr fun _ hd => (isSeparator_of_mem_decomposeChar hd).trans h

theorem withoutSeparators_cons_of_isSeparator (h : isSeparator c = true) :
    withoutSeparators (c :: s) = withoutSeparators s := by
  simp [withoutSeparators, h]

theorem withoutSeparators_cons (h : isSeparator c = false) :
    withoutSeparators (c :: s) = c :: withoutSeparators s := by
  simp [withoutSeparators, h]

/-- What stands behind a separator would join nothing that stands before it. -/
def IsParted (s : List Char) : Prop :=
  s.IsChain fun c d => isSeparator c = true → Opens [d]

theorem opens_withoutSeparators (hc : isSeparator c = true) (h : IsParted (c :: s)) :
    Opens (withoutSeparators s) := by
  induction s generalizing c with
  | nil => exact opens_nil
  | cons d rest ih =>
      obtain ⟨hopens, hrest⟩ := List.isChain_cons_cons.mp h
      cases hd : isSeparator d with
      | true =>
          rw [withoutSeparators_cons_of_isSeparator hd]
          exact ih hd hrest
      | false =>
          rw [withoutSeparators_cons hd]
          exact opens_cons (hopens hc)

/-- In a parted text it is the same to compose and to leave the separators out. -/
theorem withoutSeparators_compose_append (front : List Char)
    (hfront : ∀ c ∈ front, isSeparator c = false) (h : IsParted s) :
    withoutSeparators (compose (front ++ s)) = compose (front ++ withoutSeparators s) := by
  induction s generalizing front with
  | nil =>
      rw [List.append_nil, withoutSeparators_eq_self]
      · simp [withoutSeparators]
      · exact (isStable_isSeparator false).forall_mem_compose.mpr hfront
  | cons c rest ih =>
      have hrest : IsParted rest := h.tail
      cases hc : isSeparator c with
      | true =>
          have hkept : withoutSeparators (compose front) = compose front :=
            withoutSeparators_eq_self ((isStable_isSeparator false).forall_mem_compose.mpr hfront)
          calc withoutSeparators (compose (front ++ c :: rest))
              = withoutSeparators (compose front ++ (decomposeChar c ++ compose rest)) := by
                rw [compose_append (opens_of_isSeparator hc), compose_cons_of_isSeparator hc]
            _ = compose front ++ withoutSeparators (compose rest) := by
                rw [withoutSeparators_append, withoutSeparators_append, hkept,
                  withoutSeparators_decomposeChar hc, List.nil_append]
            _ = compose front ++ compose (withoutSeparators rest) :=
                congrArg (compose front ++ ·) (ih [] (by simp) hrest)
            _ = compose (front ++ withoutSeparators (c :: rest)) := by
                rw [withoutSeparators_cons_of_isSeparator hc,
                  compose_append (opens_withoutSeparators hc h)]
      | false =>
          have hfront : ∀ d ∈ front ++ [c], isSeparator d = false := by
            simpa using fun d hd => hd.elim (hfront d) fun hd => hd ▸ hc
          simpa [withoutSeparators_cons hc] using ih (front ++ [c]) hfront hrest

theorem withoutSeparators_compose (h : IsParted s) :
    withoutSeparators (compose s) = compose (withoutSeparators s) :=
  withoutSeparators_compose_append [] (by simp) h

end SutraArbiter.Text
