import SutraArbiter.Proofs.Text.Trim

namespace SutraArbiter.Text

/-! Small letters: what is in small letters stays as it is, and the blanks around
a text change nothing for the letters in it. -/

/-- The small form of the run's first letter. -/
def CaseRun.smallFirst (run : CaseRun) : Nat :=
  (run.first + run.shift).toNat

/-- The small form of the run's last letter. -/
def CaseRun.smallLast (run : CaseRun) : Nat :=
  (run.last + run.shift).toNat

/-- No letter of `other` is among the small forms of `run`, or the two take turns. -/
def CaseRun.misses (run other : CaseRun) : Bool :=
  Nat.blt run.smallLast other.first || Nat.blt other.last run.smallFirst ||
    ((Nat.beq run.smallFirst run.smallLast || Nat.beq run.stride 2) && Nat.beq other.stride 2 &&
      Nat.beq ((run.smallFirst + other.first) % 2) 1)

/-- The small form of no letter of the run is `n`. -/
def CaseRun.keepsClear (run : CaseRun) (n : Nat) : Bool :=
  Nat.blt run.smallLast n || Nat.blt n run.smallFirst

/-- The small forms of the run are characters, none of them a capital of the table, the
dash, the dotted capital or a blank.  Those of letters below the accented ones lie there
too. -/
@[mk_iff]
structure CaseRun.IsFair (run : CaseRun) : Prop where
  stride : run.stride = 1 ∨ run.stride = 2
  letter : 0x41 ≤ run.first
  base : 0 ≤ run.first + run.shift
  valid : run.smallLast < 0xD800 ∨ 0xE000 ≤ run.smallFirst ∧ run.smallLast < 0x110000
  misses : caseRuns.all run.misses
  clear : (0x2D :: 0x130 :: blanks).all run.keepsClear
  plain : run.first < 0xC0 → run.smallLast < 0xC0

instance (run : CaseRun) : Decidable run.IsFair :=
  decidable_of_iff' _ (CaseRun.isFair_iff run)

-- One check for the whole table: the kernel goes through it once.
theorem isFair_of_mem : ∀ run ∈ caseRuns, run.IsFair := by
  decide +kernel

variable {c d : Char} {s before after : List Char} {run : CaseRun}

/-- A letter that is its own small form. -/
def IsSmall (c : Char) : Prop :=
  c ≠ 'İ' ∧ lowerLetter c = c

instance (c : Char) : Decidable (IsSmall c) := by
  unfold IsSmall; infer_instance

/-- The blanks are their own small forms, and so is what the letters with a rule of their
own are given. -/
theorem isSmall_ofNat :
    ∀ n ∈ [0x69, 0x307, 0x3C2, 0x3C3] ++ blanks, IsSmall (Char.ofNat n) := by
  decide

theorem not_covers_smallForm {n : Nat} {other : CaseRun} (hrun : run ∈ caseRuns)
    (hother : other ∈ caseRuns) (hn : run.Covers n) :
    ¬ other.Covers (n + run.shift).toNat := by
  rintro ⟨hlow, hhigh, hstep⟩
  obtain ⟨hfirst, hlast, hturn⟩ := hn
  have hbase := (isFair_of_mem run hrun).base
  have hmiss := List.all_eq_true.mp (isFair_of_mem run hrun).misses other hother
  simp only [CaseRun.misses, CaseRun.smallFirst, CaseRun.smallLast, Bool.or_eq_true,
    Bool.and_eq_true, Nat.blt_eq, Nat.beq_eq] at hmiss
  rcases (isFair_of_mem run hrun).stride with hstride | hstride
  all_goals
    rw [hstride] at hturn hmiss
    rcases hmiss with (hmiss | hmiss) | ⟨⟨hmiss, hother2⟩, hodd⟩
    · omega
    · omega
    · rw [hother2] at hstep
      omega

theorem lowerLetter_of_forall_not_covers (h : ∀ run ∈ caseRuns, ¬ run.Covers c.toNat) :
    lowerLetter c = c := by
  have hnone : caseRuns.find? (fun run => decide (run.Covers c.toNat)) = none := by
    simpa using h
  simp [lowerLetter, hnone]

/-- A letter is its own small form, or a run of the table gives it another. -/
theorem lowerLetter_cases (c : Char) :
    lowerLetter c = c ∨ ∃ run ∈ caseRuns, run.Covers c.toNat ∧
      lowerLetter c = Char.ofNat (c.toNat + run.shift).toNat := by
  unfold lowerLetter
  split
  · exact .inl rfl
  · split
    · rename_i run hrun
      exact .inr ⟨run, List.mem_of_find?_eq_some hrun, by simpa using List.find?_some hrun, rfl⟩
    · exact .inl rfl

theorem toNat_smallForm (hrun : run ∈ caseRuns) {n : Nat} (hn : run.Covers n) :
    (Char.ofNat (n + run.shift).toNat).toNat = (n + run.shift).toNat := by
  have hbase := (isFair_of_mem run hrun).base
  have hvalid := (isFair_of_mem run hrun).valid
  obtain ⟨hfirst, hlast, -⟩ := hn
  unfold CaseRun.smallFirst CaseRun.smallLast at hvalid
  rw [Char.ofNat, dif_pos (by unfold Nat.isValidChar; omega)]
  rfl

/-- A small form is none of the numbers that the table's small forms keep clear of. -/
theorem toNat_smallForm_ne (hrun : run ∈ caseRuns) {n m : Nat} (hn : run.Covers n)
    (hm : m ∈ 0x2D :: 0x130 :: blanks) : (Char.ofNat (n + run.shift).toNat).toNat ≠ m := by
  have hbase := (isFair_of_mem run hrun).base
  have hclear := List.all_eq_true.mp (isFair_of_mem run hrun).clear m hm
  simp only [CaseRun.keepsClear, CaseRun.smallFirst, CaseRun.smallLast, Bool.or_eq_true,
    Nat.blt_eq] at hclear
  rw [toNat_smallForm hrun hn]
  obtain ⟨hfirst, hlast, -⟩ := hn
  omega

theorem isSmall_lowerLetter (hc : c ≠ 'İ') : IsSmall (lowerLetter c) := by
  rcases lowerLetter_cases c with hself | ⟨run, hrun, hcovers, hsmall⟩
  · rw [hself]
    exact ⟨hc, hself⟩
  · rw [hsmall]
    refine ⟨fun hdot => toNat_smallForm_ne hrun hcovers (.tail _ List.mem_cons_self) ?_,
      lowerLetter_of_forall_not_covers fun other hother => ?_⟩
    · rw [hdot]
      rfl
    · rw [toNat_smallForm hrun hcovers]
      exact not_covers_smallForm hrun hother hcovers

/-- A capital of the table is not its own small form, as that is no capital. -/
theorem not_isSmall_of_covers (hrun : run ∈ caseRuns) (h : run.Covers c.toNat) : ¬ IsSmall c := by
  rintro ⟨-, hself⟩
  obtain ⟨other, hother⟩ : ∃ other, caseRuns.find? (fun run => decide (run.Covers c.toNat)) =
      some other := by
    rw [← Option.isSome_iff_exists, List.find?_isSome]
    exact ⟨run, hrun, decide_eq_true h⟩
  have hmem := List.mem_of_find?_eq_some hother
  have hcovers : other.Covers c.toNat := by simpa using List.find?_some hother
  have hlarge : ¬ c.toNat < 0x41 :=
    Nat.not_lt.mpr (Nat.le_trans (isFair_of_mem run hrun).letter h.1)
  have hsmall : Char.ofNat (c.toNat + other.shift).toNat = c := by
    rwa [lowerLetter, if_neg hlarge, hother] at hself
  refine not_covers_smallForm hmem hrun hcovers ?_
  rwa [← toNat_smallForm hmem hcovers, hsmall]

theorem isSmall_iff : IsSmall c ↔ c ≠ 'İ' ∧ ∀ run ∈ caseRuns, ¬ run.Covers c.toNat :=
  ⟨fun h => ⟨h.1, fun _ hrun hcovers => not_isSmall_of_covers hrun hcovers h⟩,
    fun h => ⟨h.1, lowerLetter_of_forall_not_covers h.2⟩⟩

theorem isBlank_lowerLetter (hc : isBlank c = false) : isBlank (lowerLetter c) = false := by
  rcases lowerLetter_cases c with hself | ⟨run, hrun, hcovers, hsmall⟩
  · rw [hself, hc]
  · rw [hsmall, isBlank, List.contains_eq_mem, decide_eq_false_iff_not]
    exact fun hblank =>
      toNat_smallForm_ne hrun hcovers (.tail _ (.tail _ hblank)) rfl

theorem IsSmall.ne_sigma (h : IsSmall c) : c ≠ 'Σ' := by
  rintro rfl
  exact absurd h (by decide)

theorem lowerBetween_of_isSmall (h : IsSmall c) : lowerBetween before c after = [c] := by
  rw [lowerBetween, if_neg h.ne_sigma, if_neg h.1, h.2]

/-- What the rules of their own give, and the small form of the letter otherwise. -/
theorem of_mem_lowerBetween {P : Char → Prop}
    (hrules : ∀ n ∈ [0x69, 0x307, 0x3C2, 0x3C3], P (Char.ofNat n))
    (hletter : c ≠ 'İ' → P (lowerLetter c)) (h : d ∈ lowerBetween before c after) : P d := by
  unfold lowerBetween at h
  split at h
  · split at h <;> rw [List.mem_singleton.mp h] <;> exact hrules _ (by decide)
  · split at h
    · rcases List.mem_pair.mp h with rfl | rfl <;> exact hrules _ (by decide)
    · rename_i hdot
      rw [List.mem_singleton.mp h]
      exact hletter hdot

theorem isBlank_of_mem_lowerBetween (hc : isBlank c = false)
    (h : d ∈ lowerBetween before c after) : isBlank d = false :=
  of_mem_lowerBetween (P := fun d => isBlank d = false) (by decide)
    (fun _ => isBlank_lowerLetter hc) h

theorem forall_mem_lowerFrom {P : Char → Prop}
    (hrules : ∀ n ∈ [0x69, 0x307, 0x3C2, 0x3C3], P (Char.ofNat n))
    (hletters : ∀ c ∈ s, c ≠ 'İ' → P (lowerLetter c)) : ∀ d ∈ lowerFrom before s, P d := by
  induction s generalizing before with
  | nil => simp [lowerFrom]
  | cons c rest ih =>
      obtain ⟨hc, hrest⟩ := List.forall_mem_cons.mp hletters
      rw [lowerFrom, List.forall_mem_append]
      exact ⟨fun d hd => of_mem_lowerBetween hrules hc hd, ih hrest⟩

theorem isSmall_of_mem_lowerFrom (h : d ∈ lowerFrom before s) : IsSmall d :=
  forall_mem_lowerFrom (fun n hn => isSmall_ofNat n (List.mem_append_left blanks hn))
    (fun _ _ hdot => isSmall_lowerLetter hdot) d h

theorem lowerFrom_append_of_isSmall (h : ∀ c ∈ s, IsSmall c) :
    lowerFrom before (s ++ after) = s ++ lowerFrom (s.reverse ++ before) after := by
  induction s generalizing before with
  | nil => rfl
  | cons c rest ih =>
      rw [List.cons_append, lowerFrom, lowerBetween_of_isSmall (h c List.mem_cons_self),
        ih fun d hd => h d (List.mem_cons_of_mem c hd)]
      simp

theorem lower_of_isSmall (h : ∀ c ∈ s, IsSmall c) : lower s = s := by
  have hall : lowerFrom [] (s ++ []) = s ++ lowerFrom (s.reverse ++ []) [] :=
    lowerFrom_append_of_isSmall h
  simpa [lower, lowerFrom] using hall

@[simp] theorem lower_lower (s : List Char) : lower (lower s) = lower s :=
  lower_of_isSmall fun _ hc => isSmall_of_mem_lowerFrom hc

theorem forall_isBlank {P : Char → Prop} (h : ∀ n ∈ blanks, P (Char.ofNat n))
    (hc : isBlank c = true) : P c := by
  have hn : c.toNat ∈ blanks := by simpa [isBlank] using hc
  simpa using h c.toNat hn

theorem isSmall_of_isBlank (hc : isBlank c = true) : IsSmall c :=
  forall_isBlank (fun n hn => isSmall_ofNat n (List.mem_append_right _ hn)) hc

/-- A blank has no case, and no case rule looks past it. -/
theorem isCased_of_isBlank (hc : isBlank c = true) :
    isCased c = false ∧ isCaseIgnorable c = false :=
  forall_isBlank (P := fun c => isCased c = false ∧ isCaseIgnorable c = false)
    (by decide +kernel) hc

theorem facesCased_append_blanks (hs : ∀ c ∈ s, isBlank c) :
    facesCased (before ++ s) = facesCased before := by
  induction before with
  | nil =>
      cases s with
      | nil => rfl
      | cons c rest =>
          have hc := isCased_of_isBlank (hs c List.mem_cons_self)
          simp [facesCased, hc]
  | cons d rest ih =>
      unfold facesCased at ih ⊢
      rw [List.cons_append, List.dropWhile_cons, List.dropWhile_cons]
      split
      · exact ih
      · rfl

theorem lowerBetween_append_blanks {front back : List Char} (hfront : ∀ c ∈ front, isBlank c)
    (hback : ∀ c ∈ back, isBlank c) :
    lowerBetween (before ++ front) c (after ++ back) = lowerBetween before c after := by
  simp only [lowerBetween, facesCased_append_blanks hfront, facesCased_append_blanks hback]

theorem lowerFrom_append_blanks {front back : List Char} (hfront : ∀ c ∈ front, isBlank c)
    (hback : ∀ c ∈ back, isBlank c) :
    lowerFrom (before ++ front) (s ++ back) = lowerFrom before s ++ back := by
  induction s generalizing before with
  | nil =>
      have hall : lowerFrom (before ++ front) (back ++ []) =
          back ++ lowerFrom (back.reverse ++ (before ++ front)) [] :=
        lowerFrom_append_of_isSmall fun c hc => isSmall_of_isBlank (hback c hc)
      simpa [lowerFrom] using hall
  | cons c rest ih =>
      rw [List.cons_append, lowerFrom, lowerFrom, lowerBetween_append_blanks hfront hback,
        ← List.cons_append, ih, List.append_assoc]

theorem lower_between_blanks {front back : List Char} (hfront : ∀ c ∈ front, isBlank c)
    (hback : ∀ c ∈ back, isBlank c) :
    lower (front ++ s ++ back) = front ++ lower s ++ back := by
  have hreverse : ∀ c ∈ front.reverse, isBlank c := by simpa using hfront
  have hinner : lowerFrom ([] ++ front.reverse) (s ++ back) = lowerFrom [] s ++ back :=
    lowerFrom_append_blanks hreverse hback
  rw [lower, List.append_assoc,
    lowerFrom_append_of_isSmall fun c hc => isSmall_of_isBlank (hfront c hc),
    List.append_nil, ← List.nil_append front.reverse, hinner, List.append_assoc]
  rfl

theorem lowerBetween_ne_nil : lowerBetween before c after ≠ [] := by
  unfold lowerBetween
  repeat' split
  all_goals simp

theorem head?_lowerFrom (hs : ∀ c ∈ s.head?, ¬ isBlank c) :
    ∀ d ∈ (lowerFrom before s).head?, ¬ isBlank d := by
  intro d hd
  cases s with
  | nil => cases hd
  | cons c rest =>
      rw [lowerFrom, List.head?_append_of_ne_nil _ lowerBetween_ne_nil] at hd
      have hc : isBlank c = false := by simpa using hs
      simp [isBlank_of_mem_lowerBetween hc (List.mem_of_mem_head? hd)]

theorem getLast?_lowerFrom (hs : ∀ c ∈ s.getLast?, ¬ isBlank c) :
    ∀ d ∈ (lowerFrom before s).getLast?, ¬ isBlank d := by
  induction s generalizing before with
  | nil =>
      intro d hd
      cases hd
  | cons c rest ih =>
      intro d hd
      cases rest with
      | nil =>
          have hc : isBlank c = false := by simpa using hs
          rw [lowerFrom, lowerFrom, List.append_nil] at hd
          simp [isBlank_of_mem_lowerBetween hc (List.mem_of_mem_getLast? hd)]
      | cons next rest =>
          have hrest : lowerFrom (c :: before) (next :: rest) ≠ [] := by
            rw [lowerFrom]
            exact List.append_ne_nil_of_left_ne_nil lowerBetween_ne_nil _
          rw [lowerFrom, List.getLast?_append_of_ne_nil _ hrest] at hd
          exact ih (by simpa using hs) d hd

theorem trim_lower (s : List Char) : trim (lower s) = lower (trim s) := by
  obtain ⟨front, back, hfront, hback, hs⟩ := exists_trimBy isBlank s
  have hkept := trimBy_eq_self_iff.mp (trimBy_trimBy isBlank s)
  calc trim (lower s)
      = trim (front ++ lower (trim s) ++ back) := by
        rw [← lower_between_blanks hfront hback]
        exact congrArg (trim ∘ lower) hs
    _ = trim (lower (trim s)) := trimBy_append hfront hback
    _ = lower (trim s) :=
        trimBy_eq_self_iff.mpr ⟨head?_lowerFrom hkept.1, getLast?_lowerFrom hkept.2⟩

theorem toNat_lowerLetter_lt (hc : c.toNat < 0xC0) : (lowerLetter c).toNat < 0xC0 := by
  rcases lowerLetter_cases c with hself | ⟨run, hrun, hcovers, hsmall⟩
  · rw [hself]
    exact hc
  · have hlast := (isFair_of_mem run hrun).plain (Nat.lt_of_le_of_lt hcovers.1 hc)
    have hcovered := hcovers.2.1
    rw [hsmall, toNat_smallForm hrun hcovers]
    unfold CaseRun.smallLast at hlast
    omega

theorem lowerBetween_of_lt (hc : c.toNat < 0xC0) :
    lowerBetween before c after = [lowerLetter c] := by
  have hsigma : c ≠ 'Σ' := by
    rintro rfl
    exact absurd hc (by decide)
  have hdot : c ≠ 'İ' := by
    rintro rfl
    exact absurd hc (by decide)
  rw [lowerBetween, if_neg hsigma, if_neg hdot]

theorem toNat_lt_of_mem_lowerFrom (hs : ∀ c ∈ s, c.toNat < 0xC0) :
    ∀ d ∈ lowerFrom before s, d.toNat < 0xC0 := by
  induction s generalizing before with
  | nil => simp [lowerFrom]
  | cons c rest ih =>
      obtain ⟨hc, hrest⟩ := List.forall_mem_cons.mp hs
      rw [lowerFrom, lowerBetween_of_lt hc, List.singleton_append, List.forall_mem_cons]
      exact ⟨toNat_lowerLetter_lt hc, ih hrest⟩

end SutraArbiter.Text
