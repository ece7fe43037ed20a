import SutraArbiter.Proofs.Text.Separators
import SutraArbiter.Script

namespace SutraArbiter.Script

open Text

/-! The two alphabets in the tables of composition, and the script of a text told by its
characters. -/

variable {c d x y z : Char} {s : List Char}

theorem isDevanagari_parts (page : Nat) :
    ∀ row ∈ decompositionPage page, ((∀ n ∈ row.2, isDevanagari (Char.ofNat n) = true) ↔
      isDevanagari (Char.ofNat row.1) = true) := by
  unfold decompositionPage
  split
  all_goals decide +kernel

theorem isDevanagari_of_isHangul (h : IsHangul c) : isDevanagari c = false := by
  unfold IsHangul leadBase tailBase leadCount vowelCount tailCount syllableBase at h
  simp only [isDevanagari, Bool.or_eq_false_iff, Bool.and_eq_false_iff, decide_eq_false_iff_not]
  omega

theorem isStable_isDevanagari : IsStable fun c => isDevanagari c = true :=
  isStable_of_rows isDevanagari_parts fun c d hc hd => by
    rw [isDevanagari_of_isHangul hc, isDevanagari_of_isHangul hd]

/-- The marks that letters carry. -/
def letterMarks : List Nat :=
  [0x301, 0x303, 0x304, 0x307, 0x323]

theorem isIast_rows (second : Nat) :
    ∀ row ∈ composites second, (Char.ofNat row.2).toNat ∉ letterMarks
      ∧ (isIast (Char.ofNat row.2) = true →
        isIast (Char.ofNat row.1) = true ∧ (Char.ofNat second).toNat ∈ letterMarks) := by
  unfold composites
  split
  all_goals first | decide +kernel | simp

def letterNumbers : List Nat :=
  List.range' 0x61 26 ++ List.range' 0x41 26 ++ 0x27 :: diacriticLetters

theorem mem_letterNumbers (h : isIast c = true) : c.toNat ∈ letterNumbers := by
  simp only [isIast, Bool.or_eq_true, Bool.and_eq_true, decide_eq_true_eq, Char.le_def,
    UInt32.le_iff_toNat_le, List.contains_eq_mem] at h
  simp only [letterNumbers, List.mem_append, List.mem_cons, List.mem_range'_1]
  rcases h with ((hsmall | hcapital) | hmark) | hdiacritic
  · exact .inl (.inl ⟨hsmall.1, Nat.lt_succ_of_le hsmall.2⟩)
  · exact .inl (.inr ⟨hcapital.1, Nat.lt_succ_of_le hcapital.2⟩)
  · exact .inr (.inl hmark)
  · exact .inr (.inr hdiacritic)

theorem forall_isIast {P : Char → Prop} (h : ∀ n ∈ letterNumbers, P (Char.ofNat n))
    (hc : isIast c = true) : P c := by
  simpa using h c.toNat (mem_letterNumbers hc)

/-- Stretches without marks, in which the letters lie and what is taken apart into them. -/
def IsMarkless (n : Nat) : Prop :=
  n < 0x300 ∨ 0x1E00 ≤ n ∧ n < 0x20D0 ∨ 0x2100 ≤ n ∧ n < 0x2C00

instance (n : Nat) : Decidable (IsMarkless n) :=
  inferInstanceAs (Decidable (_ ∨ _))

theorem isCombining_of_isMarkless (h : IsMarkless c.toNat) : isCombining c = false := by
  have hruns : ∀ run ∈ markClassRuns, 0x300 ≤ run.1
      ∧ (run.2.1 < 0x1E00 ∨ 0x20D0 ≤ run.1) ∧ (run.2.1 < 0x2100 ∨ 0x2C00 ≤ run.1) := by
    decide +kernel
  rw [Bool.eq_false_iff]
  intro hmark
  obtain ⟨run, hrun, hfirst, hlast⟩ := isCombining_cases hmark
  have hclear := hruns run hrun
  unfold IsMarkless at h
  omega

theorem isCombining_of_isIast (h : isIast c = true) : isCombining c = false := by
  have hmarkless : ∀ n ∈ letterNumbers, IsMarkless n := by decide
  exact isCombining_of_isMarkless (hmarkless _ (mem_letterNumbers h))

theorem isSeparator_of_isIast (h : isIast c = true) : isSeparator c = false :=
  forall_isIast (P := fun c => isSeparator c = false) (by decide) h

theorem isDevanagari_of_isIast (h : isIast c = true) : isDevanagari c = false :=
  forall_isIast (P := fun c => isDevanagari c = false) (by decide) h

theorem composites_of_mem_letterNumbers :
    ∀ n ∈ letterNumbers, composites n = [] ∧ (n < vowelBase ∨ tailBase + tailCount ≤ n) := by
  decide

theorem isOpening_of_isIast (h : isIast c = true) : IsOpening c where
  base := by simpa [isCombining] using isCombining_of_isIast h
  opens d := by
    obtain ⟨hsecond, hhangul⟩ := composites_of_mem_letterNumbers c.toNat (mem_letterNumbers h)
    rw [composePair?, hsecond, syllable?_of_second hhangul]
    rfl

/-- A letter, a mark of a letter, or a separator. -/
def IsPart (c : Char) : Prop :=
  isIast c = true ∨ c.toNat ∈ letterMarks ∨ isSeparator c = true

instance (c : Char) : Decidable (IsPart c) :=
  inferInstanceAs (Decidable (_ ∨ _))

/-- No part is as large as the ideographs, where most rows of the tables are. -/
theorem toNat_of_isPart (h : IsPart c) :
    c.toNat ≤ 0x3000 ∧ (c.toNat < leadBase ∨ tailBase + tailCount ≤ c.toNat) := by
  have hnumber : ∀ n ∈ letterNumbers ++ letterMarks,
      n ≤ 0x3000 ∧ (n < leadBase ∨ tailBase + tailCount ≤ n) := by
    decide
  rcases h with hletter | hmark | hseparator
  · exact hnumber _ (List.mem_append_left _ (mem_letterNumbers hletter))
  · exact hnumber _ (List.mem_append_right _ hmark)
  · exact toNat_le_of_isSeparator hseparator

theorem not_isPart_of_isHangul (h : IsHangul c) : ¬ IsPart c := by
  intro hpart
  have hnumber := toNat_of_isPart hpart
  unfold IsHangul at h
  unfold leadBase tailBase leadCount vowelCount tailCount syllableBase at *
  omega

theorem not_isPart_ofNat {n : Nat} (h : 0x3000 < n) : ¬ IsPart (Char.ofNat n) := by
  rcases toNat_ofNat_or n with hn | hnone
  · intro hpart
    have hnumber := (toNat_of_isPart hpart).1
    omega
  · rw [hnone]
    decide

/-- Two characters that make a part are a letter and a mark. -/
theorem isPart_of_composePair? (h : composePair? x y = some z) (hz : IsPart z) :
    isIast x = true ∧ y.toNat ∈ letterMarks := by
  have hrow : z.toNat ∉ letterMarks
      ∧ (isIast z = true → isIast x = true ∧ y.toNat ∈ letterMarks) := by
    refine of_composePair? (P := fun x y z => z.toNat ∉ letterMarks
      ∧ (isIast z = true → isIast x = true ∧ y.toNat ∈ letterMarks)) isIast_rows ?_ h
    intro x y z _ _ hz
    have hnone := not_isPart_of_isHangul hz
    exact ⟨fun hmark => hnone (.inr (.inl hmark)), fun hletter => absurd (.inl hletter) hnone⟩
  rcases hz with hletter | hmark | hseparator
  · exact hrow.2 hletter
  · exact absurd hmark hrow.1
  · rw [(isSeparator_of_composePair? h).2.2] at hseparator
    cases hseparator

theorem isPart_of_mem_decompose (h : ∀ c ∈ compose s, isIast c = true ∨ isSeparator c = true) :
    ∀ c ∈ decompose s, IsPart c := by
  refine (fuses_compose s).forall_mem_of (fun x y z hjoined hz => ?_) fun c hc =>
    (h c hc).imp_right .inr
  obtain ⟨hx, hy⟩ := isPart_of_composePair? hjoined hz
  exact ⟨.inl hx, .inr (.inl hy)⟩

theorem isCombining_rows (page : Nat) :
    ∀ row ∈ decompositionPage page,
      (IsMarkless row.1 ∧ ∀ n ∈ row.2.head?, IsMarkless n)
        ∨ (∃ n ∈ row.2, 0x3000 < n ∨ ¬ IsPart (Char.ofNat n)) ∨ row = (0x341, [0x301]) := by
  unfold decompositionPage
  split
  all_goals decide +kernel

theorem isMarkless_toNat_ofNat {n : Nat} (h : IsMarkless n) :
    IsMarkless (Char.ofNat n).toNat := by
  rcases toNat_ofNat_or n with hn | hnone
  · rwa [hn]
  · rw [hnone]
    decide

/-- What is taken apart into such characters begins with a mark exactly if it is one. -/
theorem isCombining_head? (h : ∀ d ∈ decomposeChar c, IsPart d) :
    ∀ d ∈ (decomposeChar c).head?, isCombining d = isCombining c := by
  refine of_decomposeChar (P := fun c parts => (∀ d ∈ parts, IsPart d) →
    ∀ d ∈ parts.head?, isCombining d = isCombining c) (by simp) ?_ ?_ h
  · intro page row hrow hparts d hd
    rcases isCombining_rows page row hrow with ⟨hkey, hhead⟩ | ⟨n, hn, hforeign⟩ | rfl
    · rw [List.head?_map] at hd
      obtain ⟨n, hn, rfl⟩ := Option.map_eq_some_iff.mp hd
      rw [isCombining_of_isMarkless (isMarkless_toNat_ofNat hkey),
        isCombining_of_isMarkless (isMarkless_toNat_ofNat (hhead n hn))]
    · have hpart := hparts _ (List.mem_map_of_mem hn)
      rcases hforeign with hlarge | hforeign
      · exact absurd hpart (not_isPart_ofNat hlarge)
      · exact absurd hpart hforeign
    · cases hd
      decide
  · intro c parts _ hsome hall hparts
    obtain ⟨d, hd⟩ := List.exists_mem_of_ne_nil parts hsome
    exact absurd (hparts d hd) (not_isPart_of_isHangul (hall d hd))

theorem isOpening_of_isPart (h : IsPart c) (hbase : isCombining c = false) : IsOpening c := by
  have hmarks : ∀ n ∈ letterMarks, isCombining (Char.ofNat n) = true := by decide
  rcases h with hletter | hmark | hseparator
  · exact isOpening_of_isIast hletter
  · have hc := hmarks c.toNat hmark
    rw [Char.ofNat_toNat, hbase] at hc
    cases hc
  · exact (isApart_of_isSeparator hseparator).toIsOpening

theorem opens_of_forall_isPart (h : ∀ d ∈ decomposeChar c, IsPart d)
    (hbase : isCombining c = false) : Opens [c] := by
  intro d hd
  rw [decompose_singleton] at hd
  have hpart : IsPart d := h d (List.mem_of_mem_head? hd)
  exact isOpening_of_isPart hpart ((isCombining_head? h d hd).trans hbase)

theorem isEmpty_withoutSeparators_compose :
    (withoutSeparators (compose s)).isEmpty = false ↔ ∃ c ∈ s, isSeparator c = false := by
  rw [List.isEmpty_eq_false_iff, ne_eq, withoutSeparators_eq_nil, ← exists_mem_compose]
  simp

theorem all_isDevanagari_compose :
    (withoutSeparators (compose s)).all isDevanagari = true ↔
      ∀ c ∈ s, isDevanagari c = true ∨ isSeparator c = true := by
  rw [List.all_eq_true, forall_mem_withoutSeparators,
    isStable_isDevanagari.or_isSeparator.forall_mem_compose]

theorem all_isIast_compose :
    (withoutSeparators (compose s)).all isIast = true ↔
      ∀ c ∈ compose s, isIast c = true ∨ isSeparator c = true := by
  rw [List.all_eq_true, forall_mem_withoutSeparators]

theorem ofChars_eq_devanagari :
    ofChars s = .devanagari ↔
      (∃ c ∈ s, isSeparator c = false)
        ∧ ∀ c ∈ s, isDevanagari c = true ∨ isSeparator c = true := by
  rw [← isEmpty_withoutSeparators_compose, ← all_isDevanagari_compose]
  simp only [ofChars]
  split_ifs <;> simp_all

theorem ofChars_eq_iast :
    ofChars s = .iast ↔
      (∃ c ∈ s, isSeparator c = false)
        ∧ ∀ c ∈ compose s, isIast c = true ∨ isSeparator c = true := by
  -- A letter of the one alphabet is none of the other, so the order of the checks does not
  -- matter.
  have hother : (withoutSeparators (compose s)).isEmpty = false →
      (withoutSeparators (compose s)).all isIast = true →
        (withoutSeparators (compose s)).all isDevanagari = false := by
    intro hsome hletters
    obtain ⟨c, hc⟩ := List.exists_mem_of_ne_nil _ (List.isEmpty_eq_false_iff.mp hsome)
    rw [List.all_eq_false]
    exact ⟨c, hc, by simp [isDevanagari_of_isIast (List.all_eq_true.mp hletters c hc)]⟩
  rw [← isEmpty_withoutSeparators_compose, ← all_isIast_compose]
  simp only [ofChars]
  split_ifs <;> simp_all

end SutraArbiter.Script
