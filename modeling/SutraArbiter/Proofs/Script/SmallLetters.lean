import SutraArbiter.Proofs.NormalForm

namespace SutraArbiter.Script

open Text

/-! Texts of either alphabet may be put into small letters before they are composed or after
it: the small form of a letter is taken apart into the small forms of its parts. -/

variable {c d : Char} {s before after : List Char}

theorem markClass_of_inSpans (h : inSpans letterSpans c.toNat = true) : markClass c = 0 :=
  (isOpening_of_inSpans h).base

/-- No letter with another small form is a mark, nor is that form. -/
theorem markClass_lowerLetter (c : Char) : markClass (lowerLetter c) = markClass c := by
  rcases lowerLetter_cases c with hself | ⟨run, hrun, hcovers, hsmall⟩
  · rw [hself]
  · rw [hsmall, markClass_of_inSpans (inSpans_smallForm hrun hcovers),
      markClass_of_inSpans (inSpans_of_covers hrun hcovers)]

theorem settleMark_map_lowerLetter (c : Char) (s : List Char) :
    settleMark (lowerLetter c) (s.map lowerLetter) = (settleMark c s).map lowerLetter := by
  induction s with
  | nil => rfl
  | cons d rest ih =>
      simp only [List.map_cons, settleMark, markClass_lowerLetter, ih]
      split <;> rfl

theorem orderMarks_map_lowerLetter (s : List Char) :
    orderMarks (s.map lowerLetter) = (orderMarks s).map lowerLetter := by
  induction s with
  | nil => rfl
  | cons c rest ih => rw [List.map_cons, orderMarks, ih, settleMark_map_lowerLetter, orderMarks]

/-- Where the letters, marks and separators lie that are not taken apart. -/
def partSpans : List (Nat × Nat) :=
  (0x27, 0x7A) :: separatorSpans ++ letterMarks.map fun n => (n, n)

/-- The letters that are not taken apart lie there, and their small forms are not either. -/
theorem partNumbers_of_mem_letterNumbers : ∀ n ∈ letterNumbers, (partNumbers n).length = 1 →
    inSpans partSpans n = true ∧ partNumbers (smallNumber n) = [smallNumber n] := by
  decide

-- Most rows are put aside by where their parts lie, before their small forms are looked for.
theorem partNumbers_smallNumber_rows (page : Nat) :
    ∀ row ∈ decompositionPage page, row.2.all (inSpans partSpans) = true →
      isCapitalNumber row.1 = true →
      row.1 = 0x130 ∨ partNumbers (smallNumber row.1) = row.2.map smallNumber := by
  unfold decompositionPage
  split
  all_goals decide +kernel

theorem partNumbers_of_isIast (h : isIast c = true) (hself : decomposeChar c = [c]) :
    inSpans partSpans c.toNat = true
      ∧ partNumbers (smallNumber c.toNat) = [smallNumber c.toNat] := by
  refine partNumbers_of_mem_letterNumbers c.toNat (mem_letterNumbers h) ?_
  have hparts := decomposeChar_ofNat (n := c.toNat) c.valid
  rw [Char.ofNat_toNat, hself] at hparts
  simpa using (congrArg List.length hparts).symm

theorem inSpans_of_isPart (h : IsPart c) (hself : decomposeChar c = [c]) :
    inSpans partSpans c.toNat = true := by
  rcases h with hletter | hmark | hseparator
  · exact (partNumbers_of_isIast hletter hself).1
  · have hmarks : ∀ n ∈ letterMarks, inSpans partSpans n = true := by decide
    exact hmarks _ hmark
  · obtain ⟨span, hspan, hbounds⟩ := inSpans_eq_true.mp (inSeparatorSpan_of_isSeparator hseparator)
    exact inSpans_eq_true.mpr
      ⟨span, List.mem_append_left _ (List.mem_cons_of_mem _ hspan), hbounds⟩

theorem isIast_of_isPart (h : IsPart c) (hcapital : ¬ IsSmall c) : isIast c = true := by
  rcases h with hletter | hmark | hseparator
  · exact hletter
  · have hmarks : ∀ n ∈ letterMarks, isCapitalNumber n = false := by decide
    exact absurd (isSmall_iff_isCapitalNumber.mpr (hmarks _ hmark)) hcapital
  · exact absurd (isSmall_of_isSeparator hseparator) hcapital

/-- A letter whose parts are those of a text in IAST has a small form that is taken apart into
the small forms of its parts. -/
theorem decomposeChar_lowerLetter_of_isPart (h : ∀ d ∈ decomposeChar c, IsPart d)
    (hcapital : ¬ IsSmall c) (hdot : c ≠ 'İ') :
    decomposeChar (lowerLetter c) = (decomposeChar c).map lowerLetter := by
  refine of_decomposeChar (P := fun c parts => decomposeChar c = parts → ¬ IsSmall c → c ≠ 'İ' →
    (∀ d ∈ parts, IsPart d) → decomposeChar (lowerLetter c) = parts.map lowerLetter) ?_ ?_ ?_
    rfl hcapital hdot h
  · intro c hself hcapital _ hparts
    have hletter := isIast_of_isPart (hparts c List.mem_cons_self) hcapital
    rw [decomposeChar_lowerLetter, (partNumbers_of_isIast hletter hself).2, List.map_singleton,
      List.map_singleton, lowerLetter_eq]
  · intro page row hrow _ hcapital hdot hparts
    have hnumber : isCapitalNumber row.1 = true := by
      rw [isSmall_ofNat_iff] at hcapital
      simpa using hcapital
    have hvalid (n : Nat) (hn : n ∈ row.2) : n.isValidChar := (isPrime_parts page row hrow n hn).1
    have hspans : row.2.all (inSpans partSpans) = true := by
      refine List.all_eq_true.mpr fun n hn => ?_
      have hself := isPrime_ofNat (hvalid n hn) (isPrime_parts page row hrow n hn).2
      have hpart := inSpans_of_isPart (hparts _ (List.mem_map_of_mem hn)) hself
      rwa [toNat_ofNat (hvalid n hn)] at hpart
    rcases partNumbers_smallNumber_rows page row hrow hspans hnumber with hkey | hsmall
    · rw [hkey] at hdot
      exact absurd rfl hdot
    · rw [decomposeChar_lowerLetter, toNat_ofNat (isValidChar_of_isCapitalNumber hnumber), hsmall,
        List.map_map, List.map_map]
      exact List.map_congr_left fun n hn => (lowerLetter_ofNat (hvalid n hn)).symm
  · intro c parts _ hsome hall _ _ _ hparts
    obtain ⟨d, hd⟩ := List.exists_mem_of_ne_nil parts hsome
    exact absurd (hparts d hd) (not_isPart_of_isHangul (hall d hd))

theorem decompose_lower_singleton (h : ∀ d ∈ decomposeChar c, IsPart d) :
    c ≠ 'Σ' ∧ decompose (lower [c]) = (decomposeChar c).map lowerLetter := by
  by_cases hsmall : IsSmall c
  · have hparts : ∀ d ∈ decomposeChar c, lowerLetter d = d :=
      fun d hd => ((isStable_isSmall.parts c).mpr hsmall d hd).2
    rw [lower_of_isSmall (by simpa using hsmall), decompose_singleton,
      List.map_congr_left hparts, List.map_id']
    exact ⟨hsmall.ne_sigma, rfl⟩
  · by_cases hdot : c = 'İ'
    · subst hdot
      decide
    · have hsigma : c ≠ 'Σ' := by
        rintro rfl
        exact absurd (h 'Σ' (by decide)) (by decide)
      rw [← decomposeChar_lowerLetter_of_isPart h hsmall hdot, lower,
        lowerFrom_eq_map (by simpa using ⟨hsigma, hdot⟩), List.map_singleton, decompose_singleton]
      exact ⟨hsigma, rfl⟩

theorem lowerBetween_eq_lower (h : c ≠ 'Σ') : lowerBetween before c after = lower [c] := by
  simp [lower, lowerFrom, lowerBetween, h]

theorem decompose_lowerFrom (h : ∀ d ∈ decompose s, IsPart d) :
    decompose (lowerFrom before s) = (decompose s).map lowerLetter := by
  induction s generalizing before with
  | nil => rfl
  | cons c rest ih =>
      have hcons : decompose (c :: rest) = decomposeChar c ++ decompose rest := rfl
      rw [hcons, List.forall_mem_append] at h
      obtain ⟨hsigma, hletter⟩ := decompose_lower_singleton h.1
      rw [lowerFrom, lowerBetween_eq_lower hsigma, decompose_append, hletter, ih h.2, hcons,
        List.map_append]

theorem parts_lower (h : ∀ d ∈ decompose s, IsPart d) :
    parts (lower s) = (parts s).map lowerLetter := by
  rw [parts, lower, decompose_lowerFrom h, orderMarks_map_lowerLetter, parts]

theorem compose_lower_iast (h : ∀ c ∈ compose s, isIast c = true ∨ isSeparator c = true) :
    compose (lower s) = lower (compose s) := by
  have hparts := isPart_of_mem_decompose h
  have hcomposed : ∀ d ∈ decompose (compose s), IsPart d := by
    rw [← compose_compose] at h
    exact isPart_of_mem_decompose h
  have hfree : HasFreeCapitals (compose s) :=
    hasFreeCapitals_of_opens fun c hc => (h c hc).elim opens_of_isIast opens_of_isSeparator
  calc compose (lower s)
      = composeMarks ((parts s).map lowerLetter) := by
        rw [compose_eq, parts_lower hparts]
    _ = compose (lower (compose s)) := by
        rw [compose_eq (lower (compose s)), parts_lower hcomposed, parts_compose]
    _ = lower (compose s) := compose_lower hfree (compose_compose s)

theorem compose_lower_of_isSmall (h : ∀ c ∈ s, IsSmall c) :
    compose (lower s) = lower (compose s) := by
  rw [lower_of_isSmall h, lower_of_isSmall (isStable_isSmall.forall_mem_compose.mpr h)]

/-- In a text of either alphabet small letters may be taken before it is composed. -/
theorem compose_lower_trim (h : ofChars s ≠ .unknown) :
    compose (lower (trim s)) = lower (compose (trim s)) := by
  obtain ⟨front, back, hfront, hback, hs⟩ := exists_trimBy isBlank s
  change s = front ++ trim s ++ back at hs
  cases hscript : ofChars s with
  | devanagari =>
      have hall := (ofChars_eq_devanagari.mp hscript).2
      exact compose_lower_of_isSmall (forall_mem_trim fun c hc =>
        (hall c hc).elim isSmall_of_isDevanagari isSmall_of_isSeparator)
  | iast =>
      have hall := (ofChars_eq_iast.mp hscript).2
      refine compose_lower_iast fun c hc => hall c ?_
      rw [hs, compose_between_blanks hfront hback]
      exact List.mem_append_left _ (List.mem_append_right _ hc)
  | unknown => exact absurd hscript h

end SutraArbiter.Script
