import SutraArbiter.Proofs.Text.Recomposition

namespace SutraArbiter.Text

/-! Letters with a small form, in the tables of composition.  A letter is small exactly if its
parts are, nothing that stands before a letter joins it, and a letter that is composed has a
small form that is. -/

variable {c : Char} {s before after : List Char} {run : CaseRun} {n : Nat}

/-- Stretches without marks and without what joins a character before it, in which the letters
with two forms lie. -/
def letterSpans : List (Nat × Nat) :=
  [(0x3B, 0x2FF), (0x370, 0x482), (0x48A, 0x590), (0x10A0, 0x10FF), (0x13A0, 0x13FF),
    (0x1C80, 0x1CCF), (0x1D00, 0x1DBF), (0x1E00, 0x20CF), (0x2100, 0x2300), (0x2460, 0x24FF),
    (0x2C00, 0x2CEE), (0x2CF2, 0x2D7E), (0xA640, 0xA66E), (0xA680, 0xA69D), (0xA700, 0xA7FF),
    (0xAB30, 0xABBF), (0xFF21, 0xFF5A), (0x10400, 0x105FF), (0x10C80, 0x10CFF),
    (0x118A0, 0x118DF), (0x16E40, 0x16E7F), (0x1E900, 0x1E943)]

/-- Stretches without letters that are not small, in which most of what the tables list
lies. -/
def caselessSpans : List (Nat × Nat) :=
  [(0x2CF3, 0xA63F), (0xA7F6, 0xFF20), (0x1E922, 0x10FFFF), (0x250, 0x36F), (0x5B, 0xBF),
    (0xDF, 0xFF), (0x3AC, 0x3CE), (0x430, 0x45F), (0x557, 0x109F), (0xFF3B, 0x103FF)]

def inSpans (spans : List (Nat × Nat)) (n : Nat) : Bool :=
  spans.any fun span => Nat.ble span.1 n && Nat.ble n span.2

theorem inSpans_eq_true {spans : List (Nat × Nat)} :
    inSpans spans n = true ↔ ∃ span ∈ spans, span.1 ≤ n ∧ n ≤ span.2 := by
  simp [inSpans]

theorem letterSpans_clear :
    ∀ span ∈ letterSpans, (∀ run ∈ markClassRuns, run.2.1 < span.1 ∨ span.2 < run.1)
      ∧ (span.2 < leadBase ∨ tailBase + tailCount ≤ span.1)
      ∧ (span.2 < syllableBase
        ∨ syllableBase + leadCount * vowelCount * tailCount ≤ span.1)
      ∧ (span.2 < 0xD800 ∨ 0xE000 ≤ span.1 ∧ span.2 < 0x110000) := by
  decide +kernel

/-- The letters of the run and their small forms lie in the stretches of letters, and the
former not in those without such letters. -/
@[mk_iff]
structure CaseRun.IsPlaced (run : CaseRun) : Prop where
  letters : letterSpans.any fun span => Nat.ble span.1 run.first && Nat.ble run.last span.2
  small : letterSpans.any fun span =>
    Nat.ble span.1 run.smallFirst && Nat.ble run.smallLast span.2
  caseless : caselessSpans.all fun span => Nat.blt run.last span.1 || Nat.blt span.2 run.first

instance (run : CaseRun) : Decidable run.IsPlaced :=
  decidable_of_iff' _ (CaseRun.isPlaced_iff run)

theorem isPlaced_of_mem : ∀ run ∈ caseRuns, run.IsPlaced := by
  decide +kernel

theorem inSpans_of_covers (hrun : run ∈ caseRuns) (h : run.Covers n) :
    inSpans letterSpans n = true := by
  have hletters := (isPlaced_of_mem run hrun).letters
  simp only [List.any_eq_true, Bool.and_eq_true, Nat.ble_eq] at hletters
  obtain ⟨span, hspan, hlow, hhigh⟩ := hletters
  exact inSpans_eq_true.mpr ⟨span, hspan, hlow.trans h.1, h.2.1.trans hhigh⟩

theorem inSpans_smallForm (hrun : run ∈ caseRuns) (h : run.Covers n) :
    inSpans letterSpans (Char.ofNat (n + run.shift).toNat).toNat = true := by
  have hbase := (isFair_of_mem run hrun).base
  have hsmall := (isPlaced_of_mem run hrun).small
  simp only [List.any_eq_true, Bool.and_eq_true, Nat.ble_eq, CaseRun.smallFirst,
    CaseRun.smallLast] at hsmall
  obtain ⟨span, hspan, hlow, hhigh⟩ := hsmall
  rw [toNat_smallForm hrun h]
  obtain ⟨hfirst, hlast, -⟩ := h
  exact inSpans_eq_true.mpr ⟨span, hspan, by omega, by omega⟩

theorem not_inSpans_caseless (hrun : run ∈ caseRuns) (h : run.Covers n) :
    inSpans caselessSpans n = false := by
  rw [Bool.eq_false_iff, ne_eq, inSpans_eq_true]
  rintro ⟨span, hspan, hlow, hhigh⟩
  have hclear := List.all_eq_true.mp (isPlaced_of_mem run hrun).caseless span hspan
  rw [Bool.or_eq_true, Nat.blt_eq, Nat.blt_eq] at hclear
  obtain ⟨hfirst, hlast, -⟩ := h
  omega

theorem isValidChar_of_inSpans (h : inSpans letterSpans n = true) : n.isValidChar := by
  obtain ⟨span, hspan, hlow, hhigh⟩ := inSpans_eq_true.mp h
  have hvalid := (letterSpans_clear span hspan).2.2.2
  unfold Nat.isValidChar
  omega

theorem not_isHangul_of_inSpans (h : inSpans letterSpans c.toNat = true) : ¬ IsHangul c := by
  obtain ⟨span, hspan, hlow, hhigh⟩ := inSpans_eq_true.mp h
  have hclear := (letterSpans_clear span hspan).2
  unfold IsHangul
  omega

theorem inSpans_of_not_isSmall (h : ¬ IsSmall c) : inSpans letterSpans c.toNat = true := by
  simp only [isSmall_iff, not_and_or, not_not, not_forall] at h
  rcases h with rfl | ⟨run, hrun, hcovers⟩
  · decide
  · exact inSpans_of_covers hrun hcovers

def CaseRun.holds (run : CaseRun) (n : Nat) : Bool :=
  Nat.ble run.first n && Nat.ble n run.last && Nat.beq ((n - run.first) % run.stride) 0

/-- The number is that of a letter with another small form. -/
def isCapitalNumber (n : Nat) : Bool :=
  !inSpans caselessSpans n && (Nat.beq n 0x130 || caseRuns.any fun run => run.holds n)

theorem CaseRun.holds_eq_true : run.holds n = true ↔ run.Covers n := by
  simp [holds, Covers, and_assoc]

theorem isCapitalNumber_eq_true :
    isCapitalNumber n = true ↔ n = 0x130 ∨ ∃ run ∈ caseRuns, run.Covers n := by
  have hcased : (n = 0x130 ∨ ∃ run ∈ caseRuns, run.Covers n) →
      inSpans caselessSpans n = false := by
    rintro (rfl | ⟨run, hrun, hcovers⟩)
    · decide
    · exact not_inSpans_caseless hrun hcovers
  simp only [isCapitalNumber, Bool.and_eq_true, Bool.not_eq_true', Bool.or_eq_true, Nat.beq_eq,
    List.any_eq_true, CaseRun.holds_eq_true]
  exact and_iff_right_of_imp hcased

theorem isSmall_iff_isCapitalNumber : IsSmall c ↔ isCapitalNumber c.toNat = false := by
  have hdot : c = 'İ' ↔ c.toNat = 0x130 := by
    rw [← Char.toNat_inj]
    rfl
  rw [isSmall_iff, ← Bool.not_eq_true, isCapitalNumber_eq_true, not_or, ne_eq, hdot]
  simp

theorem isValidChar_of_isCapitalNumber (h : isCapitalNumber n = true) : n.isValidChar := by
  rcases isCapitalNumber_eq_true.mp h with rfl | ⟨run, hrun, hcovers⟩
  · decide
  · exact isValidChar_of_inSpans (inSpans_of_covers hrun hcovers)

theorem isSmall_ofNat_iff (n : Nat) : IsSmall (Char.ofNat n) ↔ isCapitalNumber n = false := by
  by_cases hvalid : n.isValidChar
  · rw [isSmall_iff_isCapitalNumber, toNat_ofNat hvalid]
  · have hnone : Char.ofNat n = Char.ofNat 0 := by
      rw [Char.ofNat, dif_neg hvalid]
      rfl
    have hcaseless : isCapitalNumber n = false :=
      Bool.eq_false_iff.mpr fun h => hvalid (isValidChar_of_isCapitalNumber h)
    rw [hnone, hcaseless]
    decide

/-- The number of the small form. -/
def smallNumber (n : Nat) : Nat :=
  bif Nat.blt n 0x41 then n
  else (caseRuns.find? fun run => run.holds n).elim n fun run => (n + run.shift).toNat

theorem lowerLetter_eq (c : Char) : lowerLetter c = Char.ofNat (smallNumber c.toNat) := by
  have hholds : (fun run : CaseRun => decide (run.Covers c.toNat)) =
      fun run => run.holds c.toNat := by
    funext run
    rw [Bool.eq_iff_iff, decide_eq_true_eq, CaseRun.holds_eq_true]
  unfold lowerLetter smallNumber
  by_cases hlow : c.toNat < 0x41
  · rw [if_pos hlow, Nat.blt_eq.mpr hlow, cond_true, Char.ofNat_toNat]
  · have hblt : Nat.blt c.toNat 0x41 = false := by simpa [← Nat.blt_eq] using hlow
    rw [if_neg hlow, hblt, cond_false, hholds]
    cases caseRuns.find? fun run => run.holds c.toNat with
    | none => exact (Char.ofNat_toNat c).symm
    | some run => rfl

theorem lowerLetter_ofNat (h : n.isValidChar) :
    lowerLetter (Char.ofNat n) = Char.ofNat (smallNumber n) := by
  rw [lowerLetter_eq, toNat_ofNat h]

theorem toNat_lowerLetter (c : Char) : (lowerLetter c).toNat = smallNumber c.toNat := by
  have hvalid : (smallNumber c.toNat).isValidChar := by
    unfold smallNumber
    cases Nat.blt c.toNat 0x41 with
    | true => exact c.valid
    | false =>
        rw [cond_false]
        cases hrun : caseRuns.find? fun run => run.holds c.toNat with
        | none => exact c.valid
        | some run =>
            have hmem := List.mem_of_find?_eq_some hrun
            have hholds := List.find?_some (p := fun run => CaseRun.holds run c.toNat) hrun
            have hcovers := CaseRun.holds_eq_true.mp hholds
            have hletter := inSpans_smallForm hmem hcovers
            rw [toNat_smallForm hmem hcovers] at hletter
            exact isValidChar_of_inSpans hletter
  rw [lowerLetter_eq, toNat_ofNat hvalid]

theorem decomposeChar_lowerLetter (c : Char) :
    decomposeChar (lowerLetter c) = (partNumbers (smallNumber c.toNat)).map Char.ofNat := by
  have hparts : decomposeChar (Char.ofNat (lowerLetter c).toNat) =
      (partNumbers (lowerLetter c).toNat).map Char.ofNat :=
    decomposeChar_ofNat (lowerLetter c).valid
  rwa [Char.ofNat_toNat, toNat_lowerLetter] at hparts

theorem isCapitalNumber_parts (page : Nat) :
    ∀ row ∈ decompositionPage page, row.2.any isCapitalNumber = isCapitalNumber row.1 := by
  unfold decompositionPage
  split
  all_goals decide +kernel

theorem isSmall_of_isHangul (h : IsHangul c) : IsSmall c := by
  by_contra hcapital
  exact not_isHangul_of_inSpans (inSpans_of_not_isSmall hcapital) h

theorem isStable_isSmall : IsStable IsSmall :=
  isStable_of_rows
    (fun page row hrow => by
      simp only [isSmall_ofNat_iff, ← isCapitalNumber_parts page row hrow, List.any_eq_false,
        Bool.not_eq_true])
    fun _ _ hc hd => iff_of_true (isSmall_of_isHangul hc) (isSmall_of_isHangul hd)

theorem composites_of_inSpans {second : Nat} (h : inSpans letterSpans second = true) :
    composites second = [] := by
  unfold composites
  split
  all_goals first | rfl | exact absurd h (by decide)

theorem isOpening_of_inSpans (h : inSpans letterSpans c.toNat = true) : IsOpening c where
  base := by
    obtain ⟨span, hspan, hlow, hhigh⟩ := inSpans_eq_true.mp h
    have hbase : isCombining c = false := by
      rw [Bool.eq_false_iff]
      intro hmark
      obtain ⟨run, hrun, hfirst, hlast⟩ := isCombining_cases hmark
      have := (letterSpans_clear span hspan).1 run hrun
      omega
    simpa [isCombining] using hbase
  opens d := by
    obtain ⟨span, hspan, hlow, hhigh⟩ := inSpans_eq_true.mp h
    have hhangul := (letterSpans_clear span hspan).2.1
    have hsecond : c.toNat < vowelBase ∨ tailBase + tailCount ≤ c.toNat := by
      unfold leadBase vowelBase at *
      omega
    rw [composePair?, composites_of_inSpans h, syllable?_of_second hsecond]
    rfl

theorem inSpans_parts (page : Nat) :
    ∀ row ∈ decompositionPage page, inSpans letterSpans row.1 = true →
      ∀ n ∈ row.2.head?, inSpans letterSpans n = true := by
  unfold decompositionPage
  split
  all_goals decide +kernel

/-- What a letter is taken apart into begins with a letter. -/
theorem inSpans_head?_decomposeChar (h : inSpans letterSpans c.toNat = true) :
    ∀ d ∈ (decomposeChar c).head?, inSpans letterSpans d.toNat = true := by
  revert h
  refine of_decomposeChar (P := fun c parts => inSpans letterSpans c.toNat = true →
    ∀ d ∈ parts.head?, inSpans letterSpans d.toNat = true) (by simp)
    (fun page row hrow hkey => ?_) fun c parts hc _ _ hletter => ?_
  · rcases toNat_ofNat_or row.1 with hn | hnone
    · rw [hn] at hkey
      rw [List.head?_map]
      rintro d hd
      obtain ⟨n, hhead, rfl⟩ := Option.map_eq_some_iff.mp hd
      have hletter := inSpans_parts page row hrow hkey n hhead
      rwa [toNat_ofNat (isValidChar_of_inSpans hletter)]
    · rw [hnone] at hkey
      exact absurd hkey (by decide)
  · exact absurd hc (not_isHangul_of_inSpans hletter)

theorem opens_of_inSpans (h : inSpans letterSpans c.toNat = true) : Opens (c :: s) := by
  refine opens_cons fun d hd => isOpening_of_inSpans ?_
  rw [decompose_singleton] at hd
  exact inSpans_head?_decomposeChar h d hd

/-- A letter with another small form may be cut off from what stands before it. -/
theorem opens_of_not_isSmall (h : ¬ IsSmall c) : Opens (c :: s) :=
  opens_of_inSpans (inSpans_of_not_isSmall h)

theorem opens_lowerBetween (h : ¬ IsSmall c) : Opens (lowerBetween before c after ++ s) := by
  unfold lowerBetween
  split
  · split <;> exact opens_of_inSpans (by decide)
  · split
    · exact opens_of_inSpans (by decide)
    · rename_i hdot
      refine opens_of_inSpans ?_
      rcases lowerLetter_cases c with hself | ⟨run, hrun, hcovers, hsmall⟩
      · exact absurd ⟨hdot, hself⟩ h
      · rw [hsmall]
        exact inSpans_smallForm hrun hcovers

/-- What the parts of a character are joined to. -/
def rejoined (n : Nat) : List Char :=
  composeMarks (orderMarks ((partNumbers n).map Char.ofNat))

theorem compose_ofNat (h : n.isValidChar) : compose [Char.ofNat n] = rejoined n := by
  rw [compose, decompose_singleton, decomposeChar_ofNat h, rejoined]

-- Most small forms are not taken apart, and only of those that are not composed does it
-- matter that the capital is not either.
theorem rejoined_smallForm : ∀ run ∈ caseRuns,
    ∀ n ∈ List.range' run.first (run.last + 1 - run.first), run.Covers n →
      partNumbers (n + run.shift).toNat = [(n + run.shift).toNat]
        ∨ rejoined (n + run.shift).toNat = [Char.ofNat (n + run.shift).toNat]
        ∨ rejoined n ≠ [Char.ofNat n] := by
  decide +kernel

theorem compose_smallForm (hrun : run ∈ caseRuns) (hcovers : run.Covers c.toNat)
    (hc : compose [c] = [c]) :
    compose [Char.ofNat (c.toNat + run.shift).toNat] =
      [Char.ofNat (c.toNat + run.shift).toNat] := by
  have hrange : c.toNat ∈ List.range' run.first (run.last + 1 - run.first) := by
    obtain ⟨hfirst, hlast, -⟩ := hcovers
    exact List.mem_range'_1.mpr ⟨hfirst, by omega⟩
  have hsmall : (c.toNat + run.shift).toNat.isValidChar := by
    have hletter := inSpans_smallForm hrun hcovers
    rw [toNat_smallForm hrun hcovers] at hletter
    exact isValidChar_of_inSpans hletter
  have hcapital := isValidChar_of_inSpans (inSpans_of_covers hrun hcovers)
  rw [compose_ofNat hsmall]
  rcases rejoined_smallForm run hrun c.toNat hrange hcovers with hprime | hself | hapart
  · rw [rejoined, hprime]
    rfl
  · exact hself
  · rw [← compose_ofNat hcapital, Char.ofNat_toNat] at hapart
    exact absurd hc hapart

theorem compose_lowerBetween (h : ¬ IsSmall c) (hc : compose [c] = [c]) :
    compose (lowerBetween before c after) = lowerBetween before c after := by
  unfold lowerBetween
  split
  · split <;> decide
  · split
    · decide
    · rename_i hdot
      rcases lowerLetter_cases c with hself | ⟨run, hrun, hcovers, hsmall⟩
      · exact absurd ⟨hdot, hself⟩ h
      · rw [hsmall]
        exact compose_smallForm hrun hcovers hc

end SutraArbiter.Text
