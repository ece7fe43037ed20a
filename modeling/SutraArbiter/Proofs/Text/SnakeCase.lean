import SutraArbiter.Proofs.Text.Lower

namespace SutraArbiter.Text

/-! Snake case.  A text in it has no blank at either end, no capital and no dash, so there
is nothing left in it that a second pass would change. -/

variable {c : Char} {s before : List Char}

theorem isCapital_of_isSmall (h : IsSmall c) : isCapital c = false := by
  have hrun : CaseRun.mk 0x41 0x5A 1 32 ∈ caseRuns := by
    unfold caseRuns
    exact List.mem_cons_self
  rw [Bool.eq_false_iff]
  intro hcapital
  simp only [isCapital, Bool.and_eq_true, decide_eq_true_eq, Char.le_def,
    UInt32.le_iff_toNat_le] at hcapital
  exact not_isSmall_of_covers hrun ⟨hcapital.1, hcapital.2, Nat.mod_one _⟩ h

theorem breakAtCapitals_of_forall (h : ∀ c ∈ s, isCapital c = false) : breakAtCapitals s = s := by
  fun_induction breakAtCapitals s with
  | case1 c d rest hbreak =>
      have hd : isCapital d = false := h d (by simp)
      simp [hd] at hbreak
  | case2 c d rest hjoined ih => rw [ih fun e he => h e (List.mem_cons_of_mem c he)]
  | case3 s => rfl

theorem head?_breakAtCapitals (s : List Char) : (breakAtCapitals s).head? = s.head? := by
  fun_induction breakAtCapitals s <;> rfl

theorem breakAtCapitals_ne_nil (h : s ≠ []) : breakAtCapitals s ≠ [] := by
  rwa [ne_eq, ← List.head?_eq_none_iff, head?_breakAtCapitals, List.head?_eq_none_iff]

theorem getLast?_breakAtCapitals (s : List Char) :
    (breakAtCapitals s).getLast? = s.getLast? := by
  fun_induction breakAtCapitals s with
  | case1 c d rest _ ih =>
      have hrest := breakAtCapitals_ne_nil (List.cons_ne_nil d rest)
      rw [List.getLast?_cons_of_ne_nil (List.cons_ne_nil _ _),
        List.getLast?_cons_of_ne_nil hrest, ih, List.getLast?_cons_cons]
  | case2 c d rest _ ih =>
      have hrest := breakAtCapitals_ne_nil (List.cons_ne_nil d rest)
      rw [List.getLast?_cons_of_ne_nil hrest, ih, List.getLast?_cons_cons]
  | case3 s => rfl

/-- What stands for a character where dashes are not written. -/
def underscored (c : Char) : Char :=
  if c = '-' then '_' else c

theorem snakeChars_eq (s : List Char) :
    snakeChars s = lower ((breakAtCapitals (trim s)).map underscored) := rfl

theorem underscored_ne_dash (c : Char) : underscored c ≠ '-' := by
  unfold underscored
  split
  · decide
  · assumption

theorem map_underscored_of_forall (h : ∀ c ∈ s, c ≠ '-') : s.map underscored = s :=
  (List.map_congr_left fun c hc => if_neg (h c hc)).trans s.map_id

theorem isBlank_underscored (c : Char) : isBlank (underscored c) = isBlank c := by
  unfold underscored
  split
  · subst c
    rfl
  · rfl

/-- No letter has a dash for its small form. -/
theorem lowerLetter_ne_dash (hc : c ≠ '-') : lowerLetter c ≠ '-' := by
  rcases lowerLetter_cases c with hself | ⟨run, hrun, hcovers, hsmall⟩
  · rwa [hself]
  · rw [hsmall]
    intro hdash
    exact toNat_smallForm_ne hrun hcovers List.mem_cons_self (congrArg Char.toNat hdash)

theorem ne_dash_of_mem_lowerFrom (h : ∀ c ∈ s, c ≠ '-') : ∀ d ∈ lowerFrom before s, d ≠ '-' :=
  forall_mem_lowerFrom (by decide) fun c hc _ => lowerLetter_ne_dash (h c hc)

theorem trim_underscored (s : List Char) :
    trim ((breakAtCapitals (trim s)).map underscored) =
      (breakAtCapitals (trim s)).map underscored := by
  have hkept : trimBy isBlank (trim s) = trim s := trimBy_trimBy isBlank s
  obtain ⟨hfirst, hlast⟩ := trimBy_eq_self_iff.mp hkept
  refine trimBy_eq_self_iff.mpr ⟨?_, ?_⟩
  · rw [List.head?_map, head?_breakAtCapitals]
    simpa [isBlank_underscored] using hfirst
  · rw [List.getLast?_map, getLast?_breakAtCapitals]
    simpa [isBlank_underscored] using hlast

@[simp] theorem snakeChars_snakeChars (s : List Char) :
    snakeChars (snakeChars s) = snakeChars s := by
  have hshown : trim (snakeChars s) = snakeChars s := by
    rw [snakeChars_eq, trim_lower, trim_underscored]
  have hsmall : ∀ c ∈ snakeChars s, isCapital c = false := fun c hc =>
    isCapital_of_isSmall (isSmall_of_mem_lowerFrom hc)
  have hjoined : ∀ c ∈ snakeChars s, c ≠ '-' :=
    ne_dash_of_mem_lowerFrom (List.forall_mem_map.mpr fun c _ => underscored_ne_dash c)
  calc snakeChars (snakeChars s)
      = lower ((breakAtCapitals (snakeChars s)).map underscored) := by rw [snakeChars_eq, hshown]
    _ = lower (snakeChars s) := by
        rw [breakAtCapitals_of_forall hsmall, map_underscored_of_forall hjoined]
    _ = snakeChars s := lower_lower _

@[simp] theorem snakeCase_snakeCase (s : String) : snakeCase (snakeCase s) = snakeCase s := by
  simp [snakeCase]

end SutraArbiter.Text
