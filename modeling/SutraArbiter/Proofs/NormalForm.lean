import SutraArbiter.Proofs.Lexicon

namespace SutraArbiter.Text

/-! The normal form of a normal form.  A text is composed before its letters are made small, so
a mark that joins a small letter and no capital one is left behind it.  What is brought into
normal form once more is the same exactly if nothing is left to join, and the second time
leaves nothing. -/

variable {c : Char} {s front before : List Char}

/-- What stands behind a letter with another small form joins nothing before it. -/
def HasFreeCapitals (s : List Char) : Prop :=
  s.IsChain fun c d => ¬ IsSmall c → Opens [d]

theorem hasFreeCapitals_of_isSmall (h : ∀ c ∈ s, IsSmall c) : HasFreeCapitals s :=
  (List.pairwise_of_forall_mem_list fun c hc _ _ hcapital => absurd (h c hc) hcapital).isChain

theorem hasFreeCapitals_of_opens (h : ∀ d ∈ s, Opens [d]) : HasFreeCapitals s :=
  (List.pairwise_of_forall_mem_list fun c _ d hd (_ : ¬ IsSmall c) => h d hd).isChain

theorem HasFreeCapitals.trim (h : HasFreeCapitals s) : HasFreeCapitals (trim s) := by
  obtain ⟨front, back, -, -, hs⟩ := exists_trimBy isBlank s
  exact h.infix ⟨front, back, hs.symm⟩

theorem opens_lowerFrom (h : ∀ c ∈ s.head?, Opens [c]) : Opens (lowerFrom before s) := by
  cases s with
  | nil => exact opens_nil
  | cons c rest =>
      rw [lowerFrom]
      by_cases hsmall : IsSmall c
      · rw [lowerBetween_of_isSmall hsmall]
        exact opens_cons (h c rfl)
      · exact opens_lowerBetween hsmall

/-- Letters that nothing behind them joins keep the text composed when they are made small. -/
theorem compose_lowerFrom (hfree : HasFreeCapitals s) (h : compose (front ++ s) = front ++ s) :
    compose (front ++ lowerFrom before s) = front ++ lowerFrom before s := by
  induction s generalizing front before with
  | nil => exact h
  | cons c rest ih =>
      obtain ⟨hnext, hrest⟩ := List.isChain_cons.mp hfree
      rw [lowerFrom]
      by_cases hsmall : IsSmall c
      · -- A small letter stays where it is, before the rest of the text.
        have hmoved (after : List Char) : front ++ c :: after = (front ++ [c]) ++ after := by
          simp
        rw [lowerBetween_of_isSmall hsmall, List.singleton_append, hmoved]
        exact ih hrest (by rwa [← hmoved])
      · -- At any other letter the text is cut on both sides.
        have hopens : ∀ d ∈ rest.head?, Opens [d] := fun d hd => hnext d hd hsmall
        have hcut : Opens rest := by
          cases rest with
          | nil => exact opens_nil
          | cons d others => exact opens_cons (hopens d rfl)
        obtain ⟨hfront, hletter⟩ := (compose_append_eq_self (opens_of_not_isSmall hsmall)).mp h
        rw [← List.singleton_append, compose_append_eq_self hcut] at hletter
        have hbehind : compose ([] ++ rest) = [] ++ rest := hletter.2
        have hsmallRest : compose ([] ++ lowerFrom (c :: before) rest) =
            [] ++ lowerFrom (c :: before) rest := ih hrest hbehind
        rw [compose_append_eq_self (opens_lowerBetween hsmall),
          compose_append_eq_self (opens_lowerFrom hopens)]
        exact ⟨hfront, compose_lowerBetween hsmall hletter.1, hsmallRest⟩

theorem compose_lower (hfree : HasFreeCapitals s) (h : compose s = s) :
    compose (lower s) = lower s :=
  compose_lowerFrom hfree (show compose ([] ++ s) = [] ++ s from h)

theorem isSmall_of_mem_normalChars (h : c ∈ normalChars s) : IsSmall c :=
  isSmall_of_mem_lowerFrom h

theorem trim_normalChars (s : List Char) : trim (normalChars s) = normalChars s := by
  rw [normalChars, trim_lower]
  exact congrArg lower (trimBy_trimBy isBlank (compose s))

theorem normalChars_of_isSmall (h : ∀ c ∈ s, IsSmall c) : normalChars s = trim (compose s) :=
  lower_of_isSmall (forall_mem_trim (isStable_isSmall.forall_mem_compose.mpr h))

theorem trim_compose_eq_self (hs : trim s = s) : trim (compose s) = s ↔ compose s = s := by
  constructor
  · intro h
    obtain ⟨front, back, -, -, hcomposed⟩ := exists_trimBy isBlank (compose s)
    have hlength := length_decompose_compose s
    change compose s = front ++ trim (compose s) ++ back at hcomposed
    rw [hcomposed, h] at hlength
    simp only [decompose_append, List.length_append] at hlength
    have hfront := eq_nil_of_decompose (List.length_eq_zero_iff.mp
      (show (decompose front).length = 0 by omega))
    have hback := eq_nil_of_decompose (List.length_eq_zero_iff.mp
      (show (decompose back).length = 0 by omega))
    rw [hcomposed, h, hfront, hback, List.nil_append, List.append_nil]
  · intro h
    rw [h, hs]

theorem normalChars_normalChars_iff (s : List Char) :
    normalChars (normalChars s) = normalChars s ↔
      compose (normalChars s) = normalChars s := by
  rw [normalChars_of_isSmall fun c hc => isSmall_of_mem_normalChars hc,
    trim_compose_eq_self (trim_normalChars s)]

theorem normalChars_thrice (s : List Char) :
    normalChars (normalChars (normalChars s)) = normalChars (normalChars s) := by
  have hsmall : ∀ c ∈ normalChars s, IsSmall c := fun c hc => isSmall_of_mem_normalChars hc
  rw [normalChars_normalChars_iff, normalChars_of_isSmall hsmall]
  exact compose_trim_of_eq_self (compose_compose _)

theorem normalChars_normalChars (h : HasFreeCapitals (compose s)) :
    normalChars (normalChars s) = normalChars s :=
  (normalChars_normalChars_iff s).mpr
    (compose_lower h.trim (compose_trim_of_eq_self (compose_compose s)))

end SutraArbiter.Text

namespace SutraArbiter.Script

open Text

theorem hasFreeCapitals_compose {s : List Char} (h : ofChars s ≠ .unknown) :
    HasFreeCapitals (compose s) := by
  cases hs : ofChars s with
  | devanagari =>
      have hall := (ofChars_eq_devanagari.mp hs).2
      have hcomposed := isStable_isDevanagari.or_isSeparator.forall_mem_compose.mpr hall
      exact hasFreeCapitals_of_isSmall fun c hc =>
        (hcomposed c hc).elim isSmall_of_isDevanagari isSmall_of_isSeparator
  | iast =>
      exact hasFreeCapitals_of_opens fun c hc =>
        ((ofChars_eq_iast.mp hs).2 c hc).elim opens_of_isIast opens_of_isSeparator
  | unknown => exact absurd hs h

end SutraArbiter.Script

namespace SutraArbiter.Text

theorem normalForm_eq_iff {s t : String} :
    normalForm s = normalForm t ↔ normalChars s.toList = normalChars t.toList := by
  simp [normalForm, String.ofList_inj]

theorem matchesLiteral?_normalForm_iff (s : String) :
    (∀ literal : String,
        matchesLiteral? (.text (normalForm s)) (.text literal) =
            matchesLiteral? (.text s) (.text literal)
          ∧ (normalForm (normalForm literal) = normalForm literal →
            matchesLiteral? (.text (normalForm s)) (.text (normalForm literal)) =
              matchesLiteral? (.text s) (.text literal))) ↔
      normalForm (normalForm s) = normalForm s := by
  constructor
  · intro h
    have hself := (h s).1
    rw [matchesLiteral?_text, matchesLiteral?_text, decide_eq_true rfl] at hself
    exact of_decide_eq_true (Except.ok.inj hself)
  · intro h literal
    refine ⟨?_, fun hliteral => ?_⟩
    · rw [matchesLiteral?_text, matchesLiteral?_text, h]
    · rw [matchesLiteral?_text, matchesLiteral?_text, h, hliteral]

/-- A normal form is its own normal form exactly if it is composed, and exactly then a rule
finds the same in it as in the text itself.  So it is wherever no letter with another small
form stands before what might join it, as in either alphabet, and after a second time always. -/
theorem normalForm_normalForm_iff (s : String) :
    (normalForm (normalForm s) = normalForm s ↔
        compose (normalForm s).toList = (normalForm s).toList)
      ∧ (normalForm (normalForm s) = normalForm s ↔
        ∀ literal : String,
          matchesLiteral? (.text (normalForm s)) (.text literal) =
              matchesLiteral? (.text s) (.text literal)
            ∧ (normalForm (normalForm literal) = normalForm literal →
              matchesLiteral? (.text (normalForm s)) (.text (normalForm literal)) =
                matchesLiteral? (.text s) (.text literal)))
      ∧ (HasFreeCapitals (compose s.toList) → normalForm (normalForm s) = normalForm s)
      ∧ (Script.ofString s ≠ .unknown → HasFreeCapitals (compose s.toList))
      ∧ normalForm (normalForm (normalForm s)) = normalForm (normalForm s) := by
  have hself : normalForm (normalForm s) = normalForm s ↔
      normalChars (normalChars s.toList) = normalChars s.toList := by
    rw [normalForm_eq_iff, toList_normalForm]
  refine ⟨?_, (matchesLiteral?_normalForm_iff s).symm, ?_, Script.hasFreeCapitals_compose, ?_⟩
  · rw [hself, toList_normalForm]
    exact normalChars_normalChars_iff _
  · rw [hself]
    exact normalChars_normalChars
  · rw [normalForm_eq_iff, toList_normalForm, toList_normalForm]
    exact normalChars_thrice _

/-- A dieresis joins a small t and no capital one. -/
theorem normalForm_normalForm_ne :
    normalForm (normalForm "T\u0308") ≠ normalForm "T\u0308" := by
  decide

end SutraArbiter.Text
