import SutraArbiter.Number.Shortest
import Mathlib.Data.List.TakeWhile

namespace SutraArbiter

/-! The characters of written numbers.  An integer is written in digits and a sign; a finite
double has a point or an exponent besides. -/

namespace Text

/-- A character that numbers are written with. -/
def isNumeric (c : Char) : Bool :=
  c.isDigit || c = '-' || c = '+' || c = '.' || c = 'e'

/-- What tells a double from an integer. -/
def hasPoint (s : List Char) : Bool :=
  s.any fun c => c = '.' || c = 'e'

variable {c : Char} {s : List Char}

theorem isNumeric_of_isDigit (h : c.isDigit = true) : isNumeric c = true := by
  simp [isNumeric, h]

theorem hasPoint_eq_true : hasPoint s = true ↔ '.' ∈ s ∨ 'e' ∈ s := by
  simp only [hasPoint, List.any_eq_true, Bool.or_eq_true, decide_eq_true_eq]
  constructor
  · rintro ⟨c, hc, rfl | rfl⟩
    · exact .inl hc
    · exact .inr hc
  · rintro (hpoint | hexponent)
    · exact ⟨_, hpoint, .inl rfl⟩
    · exact ⟨_, hexponent, .inr rfl⟩

theorem isDigit_of_mem_decimal {n : Nat} (h : c ∈ decimal n) : c.isDigit = true :=
  Nat.isDigit_of_mem_toDigits (by decide) (by decide) h

theorem decimal_ne_nil (n : Nat) : decimal n ≠ [] :=
  Nat.toDigits_ne_nil

theorem decimal_injective : Function.Injective decimal := by
  intro m n h
  have hread := congrArg (fun digits => Nat.ofDigitChars 10 digits 0) h
  simpa [decimal] using hread

theorem decimalInt_ne_nil (i : Int) : decimalInt i ≠ [] := by
  unfold decimalInt
  split
  · exact List.cons_ne_nil _ _
  · exact decimal_ne_nil _

/-- An integer is written in digits, behind a sign if it is negative. -/
theorem mem_decimalInt {i : Int} (h : c ∈ decimalInt i) : c.isDigit = true ∨ c = '-' := by
  unfold decimalInt at h
  split at h
  · rcases List.mem_cons.mp h with rfl | h
    · exact .inr rfl
    · exact .inl (isDigit_of_mem_decimal h)
  · exact .inl (isDigit_of_mem_decimal h)

theorem isNumeric_of_mem_decimalInt {i : Int} (h : c ∈ decimalInt i) : isNumeric c = true := by
  rcases mem_decimalInt h with hdigit | rfl
  · exact isNumeric_of_isDigit hdigit
  · decide

theorem hasPoint_decimalInt (i : Int) : hasPoint (decimalInt i) = false := by
  rw [← Bool.not_eq_true, hasPoint_eq_true]
  rintro (h | h)
  · exact absurd (mem_decimalInt h) (by decide)
  · exact absurd (mem_decimalInt h) (by decide)

theorem decimalInt_injective : Function.Injective decimalInt := by
  have hsign : ∀ n, '-' ∉ decimal n := fun n h =>
    absurd (isDigit_of_mem_decimal h) (by decide)
  intro i j h
  unfold decimalInt at h
  split at h <;> split at h
  · have hsame := decimal_injective (List.cons.inj h).2
    omega
  · exact absurd (h ▸ List.mem_cons_self) (hsign _)
  · exact absurd (h ▸ List.mem_cons_self) (hsign _)
  · have hsame := decimal_injective h
    omega

end Text

namespace Double

open Text

variable {digits : List Char} {units : Nat}

theorem isNumeric_positional (h : ∀ c ∈ digits, isNumeric c = true) (point : Int) :
    ∀ c ∈ positional digits point, isNumeric c = true := by
  have hzeros : ∀ count, ∀ c ∈ List.replicate count '0', isNumeric c = true := by
    intro count c hc
    rw [List.eq_of_mem_replicate hc]
    decide
  have hfront : ∀ c ∈ ['0', '.'], isNumeric c = true := List.all_eq_true.mp (by decide)
  have hback : ∀ c ∈ ['.', '0'], isNumeric c = true := List.all_eq_true.mp (by decide)
  unfold positional
  split
  · exact List.forall_mem_append.mpr ⟨List.forall_mem_append.mpr ⟨hfront, hzeros _⟩, h⟩
  split
  · exact List.forall_mem_append.mpr ⟨List.forall_mem_append.mpr ⟨h, hzeros _⟩, hback⟩
  · refine List.forall_mem_append.mpr ⟨fun c hc => h c (List.mem_of_mem_take hc), ?_⟩
    exact List.forall_mem_cons.mpr ⟨by decide, fun c hc => h c (List.mem_of_mem_drop hc)⟩

theorem point_mem_positional (digits : List Char) (point : Int) :
    '.' ∈ positional digits point := by
  unfold positional
  split
  · simp
  split <;> simp

theorem isNumeric_exponentText (exponent : Int) :
    ∀ c ∈ exponentText exponent, isNumeric c = true := by
  have hdigits : ∀ c ∈ decimal exponent.natAbs, isNumeric c = true :=
    fun c hc => isNumeric_of_isDigit (isDigit_of_mem_decimal hc)
  unfold exponentText
  refine List.forall_mem_cons.mpr ⟨by decide, List.forall_mem_cons.mpr ⟨?_, ?_⟩⟩
  · split <;> decide
  · split
    · exact List.forall_mem_cons.mpr ⟨by decide, hdigits⟩
    · exact hdigits

theorem isNumeric_scientific (h : ∀ c ∈ digits, isNumeric c = true) (point : Int) :
    ∀ c ∈ scientific digits point, isNumeric c = true := by
  unfold scientific
  split
  · exact List.forall_mem_nil _
  · exact List.forall_mem_cons.mpr ⟨h _ List.mem_cons_self, isNumeric_exponentText _⟩
  · obtain ⟨hfirst, hrest⟩ := List.forall_mem_cons.mp h
    refine List.forall_mem_append.mpr ⟨?_, isNumeric_exponentText _⟩
    exact List.forall_mem_cons.mpr ⟨hfirst, List.forall_mem_cons.mpr ⟨by decide, hrest⟩⟩

theorem exponent_mem_scientific (h : digits ≠ []) (point : Int) :
    'e' ∈ scientific digits point := by
  unfold scientific
  split
  · exact absurd rfl h
  · exact List.mem_cons_of_mem _ List.mem_cons_self
  · exact List.mem_append_right _ List.mem_cons_self

theorem spacing_le (h : units ≠ 0) : spacing units ≤ units := by
  refine Nat.le_trans (Nat.pow_le_pow_right (by decide) (Nat.sub_le _ _)) ?_
  exact Nat.log2_self_le h

/-- Nothing but zero rounds to zero. -/
theorem roundsTo_zero (h : units ≠ 0) (exponent : Int) : roundsTo units 0 exponent = false := by
  have hdown : 0 < (tenTo exponent).2 := by
    unfold tenTo
    split
    · exact Nat.pow_pos (by decide)
    · exact Nat.one_pos
  have hstep := spacing_le h
  unfold roundsTo
  generalize spacing units = step at hstep
  have hlow : ∀ gapBelow ≤ 2 * step, (4 * units - gapBelow) * (tenTo exponent).2 ≠ 0 :=
    fun gapBelow hgap => Nat.mul_ne_zero (by omega) (Nat.pos_iff_ne_zero.mp hdown)
  dsimp only
  rw [Nat.mul_zero, Nat.zero_mul, Nat.zero_mul]
  split
  · have hgap : ∀ b : Bool, (if b = true then step else 2 * step) ≤ 2 * step := by
      intro b
      split <;> omega
    rw [Bool.and_eq_false_iff, decide_eq_false_iff_not, Nat.le_zero]
    exact .inl (hlow _ (hgap _))
  · rw [Bool.and_eq_false_iff, decide_eq_false_iff_not]
    exact .inl (Nat.not_lt_zero _)

theorem roundsTo_of_decimalOn {exponent : Int} {value : Nat}
    (h : decimalOn units exponent = some value) : roundsTo units value exponent = true := by
  have htaken : ∀ preferred other,
      (if roundsTo units preferred exponent then some preferred
        else if roundsTo units other exponent then some other
        else none) = some value → roundsTo units value exponent = true := by
    intro preferred other htaken
    by_cases hpreferred : roundsTo units preferred exponent = true
    · rw [if_pos hpreferred] at htaken
      rwa [← Option.some.inj htaken]
    by_cases hother : roundsTo units other exponent = true
    · rw [if_neg hpreferred, if_pos hother] at htaken
      rwa [← Option.some.inj htaken]
    · rw [if_neg hpreferred, if_neg hother] at htaken
      cases htaken
  exact htaken _ _ h

-- An equation of functions: the search is not to be run on any number of units.
theorem shortest_eq : shortest = fun units =>
    (((List.range 17).map fun (k : Nat) => leadingPlace units - (k : Int)).findSome? fun exponent =>
      (decimalOn units exponent).map fun digits => (digits, exponent)).getD (0, 0) := by
  delta shortest
  funext units
  dsimp only
  generalize List.findSome? _ _ = found
  cases found with
  | none => rfl
  | some found => rfl

/-- What is found rounds to the value; if nothing is found it is zero, with the point behind
its digit. -/
theorem roundsTo_of_shortest {value : Nat} {exponent : Int}
    (h : shortest units = (value, exponent)) :
    roundsTo units value exponent = true ∨ (value = 0 ∧ exponent = 0) := by
  rw [shortest_eq] at h
  dsimp only at h
  generalize hfound : List.findSome? _ _ = found at h
  cases found with
  | none =>
      cases h
      exact .inr ⟨rfl, rfl⟩
  | some found =>
      obtain ⟨place, -, hplace⟩ := List.exists_of_findSome?_eq_some hfound
      obtain ⟨digits, hdigits, rfl⟩ := Option.map_eq_some_iff.mp hplace
      cases h
      exact .inl (roundsTo_of_decimalOn hdigits)

theorem withoutTrailingZeros_ne_nil {value : Nat} (h : value ≠ 0) :
    withoutTrailingZeros (decimal value) ≠ [] := by
  have hzeros : ∀ count, Nat.ofDigitChars 10 (List.replicate count '0') 0 = 0 := by
    intro count
    induction count with
    | zero => rfl
    | succ count ih => rwa [List.replicate_succ]
  intro hnil
  unfold withoutTrailingZeros at hnil
  rw [List.reverse_eq_nil_iff, List.dropWhile_eq_nil_iff] at hnil
  have hall : decimal value = List.replicate (decimal value).length '0' :=
    List.eq_replicate_of_mem fun c hc => beq_iff_eq.mp (hnil c (List.mem_reverse.mpr hc))
  have hread := Nat.ofDigitChars_ten_toDigits (n := value)
  rw [decimal] at hall
  rw [hall, hzeros] at hread
  exact h hread.symm

theorem isNumeric_withoutTrailingZeros (value : Nat) :
    ∀ c ∈ withoutTrailingZeros (decimal value), isNumeric c = true := by
  intro c hc
  have hc := (List.dropWhile_sublist _).mem (List.mem_reverse.mp hc)
  exact isNumeric_of_isDigit (isDigit_of_mem_decimal (List.mem_reverse.mp hc))

/-- Zero, or the digits of a decimal in one of the two forms. -/
theorem writtenMagnitude_cases {text : List Char} (h : writtenMagnitude units = text) :
    text = ['0', '.', '0']
      ∨ ∃ value point, text = positional (withoutTrailingZeros (decimal value)) point
        ∨ (text = scientific (withoutTrailingZeros (decimal value)) point ∧ value ≠ 0) := by
  unfold writtenMagnitude at h
  split at h
  · exact .inl h.symm
  · rename_i hunits
    rcases hshortest : shortest units with ⟨value, exponent⟩
    rw [hshortest] at h
    dsimp only at h
    refine .inr ⟨value, (decimal value).length + exponent, ?_⟩
    split at h
    · exact .inl h.symm
    · rename_i hfar
      refine .inr ⟨h.symm, ?_⟩
      rintro rfl
      rcases roundsTo_of_shortest hshortest with hrounds | ⟨-, rfl⟩
      · rw [roundsTo_zero hunits] at hrounds
        cases hrounds
      · exact hfar (by decide)

theorem isNumeric_writtenMagnitude (units : Nat) :
    ∀ c ∈ writtenMagnitude units, isNumeric c = true := by
  obtain ⟨text, htext⟩ : ∃ text, writtenMagnitude units = text := ⟨_, rfl⟩
  rw [htext]
  rcases writtenMagnitude_cases htext with rfl | ⟨value, point, rfl | ⟨rfl, -⟩⟩
  · exact List.all_eq_true.mp (by decide)
  · exact isNumeric_positional (isNumeric_withoutTrailingZeros value) point
  · exact isNumeric_scientific (isNumeric_withoutTrailingZeros value) point

theorem hasPoint_writtenMagnitude (units : Nat) : hasPoint (writtenMagnitude units) = true := by
  obtain ⟨text, htext⟩ : ∃ text, writtenMagnitude units = text := ⟨_, rfl⟩
  rw [htext, hasPoint_eq_true]
  rcases writtenMagnitude_cases htext with rfl | ⟨value, point, rfl | ⟨rfl, hvalue⟩⟩
  · exact .inl (by decide)
  · exact .inl (point_mem_positional _ point)
  · exact .inr (exponent_mem_scientific (withoutTrailingZeros_ne_nil hvalue) point)

/-- A finite double is written in the characters of numbers, and not as an integer is. -/
theorem written_finite (negative : Bool) (units : Nat) :
    (∀ c ∈ (finite negative units).written.toList, isNumeric c = true)
      ∧ hasPoint (finite negative units).written.toList = true := by
  have hnumeric := isNumeric_writtenMagnitude units
  have hpoint := hasPoint_writtenMagnitude units
  rw [written, String.toList_ofList]
  cases negative with
  | false =>
      rw [if_neg Bool.false_ne_true]
      exact ⟨hnumeric, hpoint⟩
  | true =>
      rw [if_pos rfl]
      refine ⟨List.forall_mem_cons.mpr ⟨by decide, hnumeric⟩, ?_⟩
      rw [hasPoint_eq_true] at hpoint ⊢
      exact hpoint.imp (List.mem_cons_of_mem _) (List.mem_cons_of_mem _)

end Double

end SutraArbiter
