import SutraArbiter.Proofs.Text.Lower

namespace SutraArbiter.Text

/-! Composition and blanks.  A blank joins no character on either side of it, so a
text is composed from the blanks before it, the text itself and the blanks after
it, each on its own. -/

variable {c d base : Char} {s held after front back : List Char} {last : Nat}

/-- Stretches of characters that are neither marks nor blanks.  Whatever joins the
character after it lies in one of them. -/
def joiningSpans : List (Nat × Nat) :=
  [
    (0x3C, 0x7A), (0xA8, 0x292), (0x391, 0x475), (0x4D8, 0x4E9), (0x627, 0x64A),
    (0x6C1, 0x6D5), (0x928, 0x933), (0x9C7, 0x9C7), (0xB47, 0xB47), (0xB92, 0xBC7),
    (0xC46, 0xC46), (0xCBF, 0xCCA), (0xD46, 0xD47), (0xDD9, 0xDDC), (0x1025, 0x1025),
    (0x1B05, 0x1B11), (0x1B3A, 0x1B42), (0x1E36, 0x1FFE), (0x2190, 0x22B5),
    (0x3046, 0x307B), (0x309D, 0x30FD), (0x11099, 0x110A5), (0x11131, 0x11132),
    (0x11347, 0x11347), (0x114B9, 0x114B9), (0x115B8, 0x115B9), (0x11935, 0x11935)]

def inJoiningSpan (n : Nat) : Bool :=
  joiningSpans.any fun span => Nat.ble span.1 n && Nat.ble n span.2

theorem inJoiningSpan_of_mem_composites (second : Nat) :
    (composites second).all fun pair => inJoiningSpan pair.1 := by
  unfold composites
  split
  all_goals decide

theorem inJoiningSpan_of_mem_blanks : ∀ n ∈ blanks, inJoiningSpan n = false := by
  decide

theorem composites_of_lt {second : Nat} (h : second < 0x300) : composites second = [] := by
  unfold composites
  split
  all_goals first | omega | rfl

theorem composites_of_blank : ∀ n ∈ blanks, composites n = [] := by
  decide

/-- Clear of the letters and the syllables of Hangul. -/
def IsOutsideHangul (n : Nat) : Prop :=
  n < leadBase ∨ leadBase + leadCount ≤ n ∧ n < syllableBase ∨
    syllableBase + leadCount * vowelCount * tailCount ≤ n

/-- No mark is a blank, lies in one of the stretches, or belongs to Hangul. -/
theorem clear_markClassRuns :
    ∀ run ∈ markClassRuns,
      (blanks.all fun n => Nat.blt run.2.1 n || Nat.blt n run.1) ∧
      (joiningSpans.all fun span => Nat.blt run.2.1 span.1 || Nat.blt span.2 run.1) ∧
      (run.2.1 < leadBase ∨ leadBase + leadCount ≤ run.1 ∧ run.2.1 < syllableBase ∨
        syllableBase + leadCount * vowelCount * tailCount ≤ run.1) := by
  decide +kernel

theorem outsideHangul_blanks :
    ∀ n ∈ blanks, n < leadBase ∨ tailBase + tailCount ≤ n ∧ n < syllableBase := by
  decide

def isCombining (c : Char) : Bool :=
  markClass c ≠ 0

theorem isCombining_cases (h : isCombining c = true) :
    ∃ run ∈ markClassRuns, run.1 ≤ c.toNat ∧ c.toNat ≤ run.2.1 := by
  unfold isCombining markClass at h
  split at h
  · simp at h
  · split at h
    · rename_i run hrun
      have hspan := List.find?_some hrun
      rw [Bool.and_eq_true, decide_eq_true_eq, decide_eq_true_eq] at hspan
      exact ⟨run, List.mem_of_find?_eq_some hrun, hspan⟩
    · simp at h

theorem toNat_mem_blanks (h : isBlank c = true) : c.toNat ∈ blanks := by
  simpa [isBlank] using h

theorem inJoiningSpan_eq_false (h : isBlank c = true ∨ isCombining c = true) :
    inJoiningSpan c.toNat = false := by
  rcases h with hblank | hmark
  · exact inJoiningSpan_of_mem_blanks c.toNat (toNat_mem_blanks hblank)
  · obtain ⟨run, hrun, hfirst, hlast⟩ := isCombining_cases hmark
    rw [inJoiningSpan, List.any_eq_false]
    intro span hspan
    have hclear := List.all_eq_true.mp (clear_markClassRuns run hrun).2.1 span hspan
    simp only [Bool.or_eq_true, Nat.blt_eq] at hclear
    simp only [Bool.and_eq_true, Nat.ble_eq]
    omega

theorem isOutsideHangul (h : isBlank c = true ∨ isCombining c = true) :
    IsOutsideHangul c.toNat := by
  unfold IsOutsideHangul
  rcases h with hblank | hmark
  · have := outsideHangul_blanks c.toNat (toNat_mem_blanks hblank)
    simp only [leadBase, leadCount, tailBase, tailCount, syllableBase] at *
    omega
  · obtain ⟨run, hrun, hfirst, hlast⟩ := isCombining_cases hmark
    have := (clear_markClassRuns run hrun).2.2
    omega

theorem syllable?_of_isOutsideHangul {first second : Nat} (h : IsOutsideHangul first) :
    syllable? first second = none := by
  unfold IsOutsideHangul at h
  unfold syllable? isSyllable
  split
  · rename_i hletters
    simp only [Bool.and_eq_true, decide_eq_true_eq] at hletters
    unfold leadBase leadCount syllableBase vowelCount tailCount at *
    omega
  · split
    · rename_i hsyllable
      simp only [Bool.and_eq_true, decide_eq_true_eq] at hsyllable
      unfold leadBase leadCount syllableBase vowelCount tailCount at *
      omega
    · rfl

theorem syllable?_of_second {first second : Nat}
    (h : second < vowelBase ∨ tailBase + tailCount ≤ second) :
    syllable? first second = none := by
  unfold syllable?
  split
  · rename_i hletters
    simp only [Bool.and_eq_true, decide_eq_true_eq] at hletters
    unfold vowelBase vowelCount tailBase tailCount at *
    omega
  · split
    · rename_i hsyllable
      simp only [Bool.and_eq_true, decide_eq_true_eq] at hsyllable
      unfold vowelBase tailBase tailCount at *
      omega
    · rfl

theorem composePair?_of_first (h : isBlank c = true ∨ isCombining c = true) :
    composePair? c d = none := by
  have hlookup : (composites d.toNat).lookup c.toNat = none := by
    rw [List.lookup_eq_none_iff]
    intro pair hpair
    have hspan := List.all_eq_true.mp (inJoiningSpan_of_mem_composites d.toNat) pair hpair
    have hne : c.toNat ≠ pair.1 := by
      intro heq
      rw [← heq, inJoiningSpan_eq_false h] at hspan
      cases hspan
    simpa using hne
  rw [composePair?, hlookup, syllable?_of_isOutsideHangul (isOutsideHangul h)]
  rfl

theorem composePair?_of_second (h : isBlank c = true) : composePair? d c = none := by
  have hn := toNat_mem_blanks h
  have hsecond := outsideHangul_blanks c.toNat hn
  rw [composePair?, composites_of_blank c.toNat hn, syllable?_of_second]
  · rfl
  · simp only [leadBase, vowelBase, tailBase, tailCount, syllableBase] at hsecond ⊢
    omega

theorem isCombining_of_isBlank (h : isBlank c = true) : isCombining c = false := by
  rw [Bool.eq_false_iff]
  intro hmark
  obtain ⟨run, hrun, hfirst, hlast⟩ := isCombining_cases hmark
  have hclear := List.all_eq_true.mp (clear_markClassRuns run hrun).1 c.toNat (toNat_mem_blanks h)
  simp only [Bool.or_eq_true, Nat.blt_eq] at hclear
  omega

theorem markClass_of_isBlank (h : isBlank c = true) : markClass c = 0 := by
  simpa [isCombining] using isCombining_of_isBlank h

/-- A base that joins nothing before it. -/
structure IsOpening (c : Char) : Prop where
  base : markClass c = 0
  opens : ∀ d, composePair? d c = none

/-- A base that joins nothing on either side of it. -/
structure IsApart (c : Char) : Prop extends IsOpening c where
  barren : ∀ d, composePair? c d = none

theorem isApart_of_isBlank (h : isBlank c = true) : IsApart c where
  base := markClass_of_isBlank h
  opens _ := composePair?_of_second h
  barren _ := composePair?_of_first (.inl h)

theorem settleMark_of_base (h : markClass c = 0) : settleMark c s = c :: s := by
  cases s <;> simp [settleMark, h]

theorem settleMark_append (h : markClass c = 0) :
    settleMark d (s ++ c :: after) = settleMark d s ++ c :: after := by
  induction s with
  | nil => simp [settleMark, h]
  | cons e rest ih =>
      simp only [List.cons_append, settleMark, ih]
      split <;> rfl

theorem orderMarks_append (h : markClass c = 0) :
    orderMarks (s ++ c :: after) = orderMarks s ++ c :: orderMarks after := by
  induction s with
  | nil => exact settleMark_of_base h
  | cons d rest ih => rw [List.cons_append, orderMarks, orderMarks, ih, settleMark_append h]

theorem orderMarks_apart_append (h : ∀ c ∈ front, IsApart c) :
    orderMarks (front ++ s) = front ++ orderMarks s := by
  induction front with
  | nil => rfl
  | cons c rest ih =>
      obtain ⟨hc, hrest⟩ := List.forall_mem_cons.mp h
      rw [List.cons_append, orderMarks, ih hrest, settleMark_of_base hc.base, List.cons_append]

theorem orderMarks_append_apart (h : ∀ c ∈ back, IsApart c) :
    orderMarks (s ++ back) = orderMarks s ++ back := by
  cases back with
  | nil => simp
  | cons c rest =>
      obtain ⟨hc, hrest⟩ := List.forall_mem_cons.mp h
      have hback := orderMarks_apart_append (s := []) hrest
      rw [List.append_nil] at hback
      rw [orderMarks_append hc.base, hback, orderMarks, List.append_nil]

/-- A base that joins nothing keeps the marks that follow it, as they are. -/
theorem composeFrom_of_barren (h : ∀ d, composePair? base d = none) :
    composeFrom base held last s =
      base :: held ++ (s.takeWhile isCombining ++ composeMarks (s.dropWhile isCombining)) := by
  induction s generalizing held last with
  | nil => simp [composeFrom, composeMarks]
  | cons c rest ih =>
      by_cases hc : markClass c = 0
      · simp [composeFrom, composeMarks, h, hc, isCombining]
      · simp [composeFrom, h, hc, isCombining, ih]

/-- Marks that no base precedes stay as they are. -/
theorem composeMarks_eq (s : List Char) :
    composeMarks s = s.takeWhile isCombining ++ composeMarks (s.dropWhile isCombining) := by
  cases s with
  | nil => rfl
  | cons c rest =>
      cases hc : isCombining c with
      | false => simp [hc]
      | true =>
          rw [composeMarks, composeFrom_of_barren fun d => composePair?_of_first (.inr hc)]
          simp [hc]

theorem composeMarks_cons_of_isApart (h : IsApart c) :
    composeMarks (c :: s) = c :: composeMarks s := by
  rw [composeMarks, composeFrom_of_barren h.barren, ← composeMarks_eq]
  rfl

theorem composeFrom_append_of_isOpening (h : IsOpening c) :
    composeFrom base held last (s ++ c :: after) =
      composeFrom base held last s ++ composeMarks (c :: after) := by
  induction s generalizing base held last with
  | nil =>
      simp [composeFrom, composeMarks, h.opens, h.base]
  | cons d rest ih =>
      simp only [List.cons_append, composeFrom, ih]
      split
      · split
        · rfl
        · split
          · simp
          · rfl
      · split
        · simp
        · rfl

theorem composeMarks_append_of_isOpening (h : IsOpening c) :
    composeMarks (s ++ c :: after) = composeMarks s ++ composeMarks (c :: after) := by
  cases s with
  | nil => rfl
  | cons d rest => exact composeFrom_append_of_isOpening h

theorem composeMarks_apart_append (h : ∀ c ∈ front, IsApart c) :
    composeMarks (front ++ s) = front ++ composeMarks s := by
  induction front with
  | nil => rfl
  | cons c rest ih =>
      obtain ⟨hc, hrest⟩ := List.forall_mem_cons.mp h
      rw [List.cons_append, composeMarks_cons_of_isApart hc, ih hrest, List.cons_append]

theorem composeMarks_append_apart (h : ∀ c ∈ back, IsApart c) :
    composeMarks (s ++ back) = composeMarks s ++ back := by
  cases back with
  | nil => simp
  | cons c rest =>
      have hback := composeMarks_apart_append (s := []) h
      rw [List.append_nil] at hback
      rw [composeMarks_append_of_isOpening (h c List.mem_cons_self).toIsOpening, hback,
        composeMarks, List.append_nil]

theorem decompose_append (s after : List Char) :
    decompose (s ++ after) = decompose s ++ decompose after :=
  List.flatMap_append

theorem decompose_singleton (c : Char) : decompose [c] = decomposeChar c :=
  List.flatMap_singleton ..

theorem compose_apart_append (h : ∀ c ∈ decompose front, IsApart c) :
    compose (front ++ s) = decompose front ++ compose s := by
  rw [compose, decompose_append, orderMarks_apart_append h, composeMarks_apart_append h]
  rfl

theorem compose_append_apart (h : ∀ c ∈ decompose back, IsApart c) :
    compose (s ++ back) = compose s ++ decompose back := by
  rw [compose, decompose_append, orderMarks_append_apart h, composeMarks_append_apart h]
  rfl

theorem isBlank_of_mem_decomposeChar (h : isBlank c = true) :
    ∀ d ∈ decomposeChar c, isBlank d :=
  List.all_eq_true.mp <|
    forall_isBlank (P := fun c => (decomposeChar c).all isBlank = true) (by decide) h

theorem isBlank_of_mem_decompose (h : ∀ c ∈ s, isBlank c) : ∀ d ∈ decompose s, isBlank d := by
  intro d hd
  obtain ⟨c, hc, hd⟩ := List.mem_flatMap.mp hd
  exact isBlank_of_mem_decomposeChar (h c hc) d hd

theorem compose_between_blanks (hfront : ∀ c ∈ front, isBlank c)
    (hback : ∀ c ∈ back, isBlank c) :
    compose (front ++ s ++ back) = decompose front ++ compose s ++ decompose back := by
  rw [compose_append_apart fun c hc => isApart_of_isBlank (isBlank_of_mem_decompose hback c hc),
    compose_apart_append fun c hc => isApart_of_isBlank (isBlank_of_mem_decompose hfront c hc)]

theorem trim_compose_trim (s : List Char) : trim (compose (trim s)) = trim (compose s) := by
  obtain ⟨front, back, hfront, hback, hs⟩ := exists_trimBy isBlank s
  calc trim (compose (trim s))
      = trim (decompose front ++ compose (trim s) ++ decompose back) :=
        (trimBy_append (isBlank_of_mem_decompose hfront) (isBlank_of_mem_decompose hback)).symm
    _ = trim (compose (front ++ trim s ++ back)) := by
        rw [compose_between_blanks hfront hback]
    _ = trim (compose s) := congrArg (trim ∘ compose) hs.symm

theorem normalForm_trimString (s : String) : normalForm (trimString s) = normalForm s := by
  simp [normalForm, normalChars, trimString, trim_compose_trim]

theorem markClass_of_lt (h : c.toNat < 0xC0) : markClass c = 0 :=
  if_pos (by omega)

theorem composeFrom_of_lt (h : ∀ c ∈ s, c.toNat < 0xC0) : composeFrom base [] 0 s = base :: s := by
  induction s generalizing base with
  | nil => rfl
  | cons c rest ih =>
      have hc : c.toNat < 0xC0 := h c List.mem_cons_self
      have hjoin : composePair? base c = none := by
        rw [composePair?, composites_of_lt (by omega),
          syllable?_of_second (.inl (by simp only [vowelBase]; omega))]
        rfl
      simp [composeFrom, hjoin, markClass_of_lt hc, ih fun d hd => h d (List.mem_cons_of_mem c hd)]

theorem orderMarks_of_lt (h : ∀ c ∈ s, c.toNat < 0xC0) : orderMarks s = s := by
  induction s with
  | nil => rfl
  | cons c rest ih =>
      rw [orderMarks, ih fun d hd => h d (List.mem_cons_of_mem c hd),
        settleMark_of_base (markClass_of_lt (h c List.mem_cons_self))]

theorem compose_of_lt (h : ∀ c ∈ s, c.toNat < 0xC0) : compose s = s := by
  have hchar : ∀ c ∈ s, decomposeChar c = [c] := fun c hc => if_pos (h c hc)
  rw [compose, decompose, List.flatMap_congr hchar, List.flatMap_singleton', orderMarks_of_lt h]
  cases s with
  | nil => rfl
  | cons c rest => exact composeFrom_of_lt fun d hd => h d (List.mem_cons_of_mem c hd)

end SutraArbiter.Text
