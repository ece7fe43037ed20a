import SutraArbiter.Numeral
import SutraArbiter.Proofs.Text.Trim
import Mathlib.Data.Int.Order.Basic
import Mathlib.Data.List.Lex

namespace SutraArbiter

namespace Text

variable {c : Char} {s : List Char}

theorem isDigit_eq_false_of_isBlank (h : isBlank c = true) : isDigit c = false := by
  have hblanks : ∀ n ∈ blanks,
      (zeros.find? fun start => start ≤ n && n < start + 10) = none := by
    decide
  unfold isDigit digitValue?
  rw [hblanks c.toNat (by simpa [isBlank] using h)]
  rfl

/-- The values of the digits of a text. -/
def digitValues (s : List Char) : List Nat :=
  s.filterMap digitValue?

theorem mapM_digitValue? (h : ∀ c ∈ s, isDigit c = true) :
    s.mapM digitValue? = some (digitValues s) ∧ (digitValues s).length = s.length := by
  induction s with
  | nil => exact ⟨rfl, rfl⟩
  | cons c rest ih =>
      obtain ⟨hc, hrest⟩ := List.forall_mem_cons.mp h
      obtain ⟨value, hvalue⟩ := Option.isSome_iff_exists.mp hc
      obtain ⟨hvalues, hlength⟩ := ih hrest
      simp only [digitValues] at hvalues hlength ⊢
      simp [hvalue, hvalues, hlength]

end Text

namespace Numeral

open Text

variable {s : String} {group : List Char} {chars : List Char}

def value (s : String) : List Nat :=
  (components (withoutLineEnd s.toList)).map fun group => ofDigits (digitValues group)

/-- No component has so many digits that it is refused as an integer. -/
def IsShort (s : String) : Prop :=
  ∀ group ∈ components (withoutLineEnd s.toList), group.length ≤ Number.digitLimit

instance : Decidable (IsShort s) := by
  unfold IsShort
  infer_instance

/-- A group of digits, as the components of a numeral are. -/
structure IsGroup (group : List Char) : Prop where
  filled : group ≠ []
  digits : ∀ c ∈ group, isDigit c = true

theorem IsGroup.not_mem (h : IsGroup group) {c : Char} (hc : isDigit c = false) : c ∉ group :=
  fun hmem => by simp [h.digits c hmem] at hc

theorem IsGroup.isMargin (h : IsGroup group) : ∀ c ∈ group, Number.isMargin c = false := by
  intro c hc
  cases hblank : isBlank c with
  | false => simp [Number.isMargin, hblank]
  | true => simpa [isDigit_eq_false_of_isBlank hblank] using h.digits c hc

theorem IsGroup.dropWhile (h : IsGroup group) (tail : List Char) :
    (group ++ tail).dropWhile Number.isMargin = group ++ tail := by
  cases hgroup : group with
  | nil => exact absurd hgroup h.filled
  | cons c rest =>
      have hc : Number.isMargin c = false := h.isMargin c (by simp [hgroup])
      simp [hc]

/-- A line end behind the digits is passed over. -/
theorem IsGroup.trimBy (h : IsGroup group) {tail : List Char} (htail : ∀ c ∈ tail, c = '\n') :
    trimBy Number.isMargin (group ++ tail) = group := by
  have hmargin : ∀ c ∈ tail.reverse, Number.isMargin c = true := by
    intro c hc
    rw [htail c (List.mem_reverse.mp hc)]
    decide
  have hkept : group.reverse.dropWhile Number.isMargin = group.reverse := by
    rw [List.dropWhile_eq_self_iff]
    intro hsome
    rw [h.isMargin _ (List.mem_reverse.mp (List.getElem_mem hsome))]
    simp
  unfold Text.trimBy
  rw [h.dropWhile, List.reverse_append, List.dropWhile_append_of_pos hmargin, hkept,
    List.reverse_reverse]

theorem IsGroup.unsigned (h : IsGroup group) : Number.unsigned group = (false, group) := by
  unfold Number.unsigned
  split
  · exact absurd List.mem_cons_self (h.not_mem (c := '-') (by decide))
  · exact absurd List.mem_cons_self (h.not_mem (c := '+') (by decide))
  · rfl

theorem IsGroup.digitGroups? (h : IsGroup group) :
    Number.digitGroups? group = some (digitValues group) := by
  have hwhole : group.splitOn '_' = [group] :=
    List.splitOn_eq_singleton (h.not_mem (by decide))
  simp [Number.digitGroups?, hwhole, h.filled, (mapM_digitValue? h.digits).1]

theorem IsGroup.readInteger (h : IsGroup group) {tail : List Char}
    (htail : ∀ c ∈ tail, c = '\n') :
    Number.readInteger (group ++ tail) =
      if Number.digitLimit < group.length then .error (.tooLong group.length)
      else .ok (ofDigits (digitValues group)) := by
  have hrow : ∀ c ∈ group, Number.isRowPart c = true := fun c hc => by
    simp [Number.isRowPart, h.digits c hc]
  have hlength := (mapM_digitValue? h.digits).2
  simp only [Number.readInteger, h.trimBy htail, h.unsigned, List.takeWhile_eq_self_iff.mpr hrow,
    h.digitGroups?, hlength, List.dropWhile_eq_nil_iff.mpr hrow]
  rfl

/-! The components of a dotted numeral are groups of digits, of which the last may be
followed by a line end. -/

/-- The value of a group, unless it has too many digits. -/
def groupValue? (group : List Char) : Option Int :=
  if group.length ≤ Number.digitLimit then some (ofDigits (digitValues group)) else none

theorem IsGroup.componentValue? (h : IsGroup group) {tail : List Char}
    (htail : ∀ c ∈ tail, c = '\n') :
    Numeral.componentValue? (group ++ tail) = groupValue? group := by
  rw [Numeral.componentValue?, h.readInteger htail, groupValue?]
  by_cases hshort : group.length ≤ Number.digitLimit
  · rw [if_pos hshort, if_neg (Nat.not_lt.mpr hshort)]
    rfl
  · rw [if_neg hshort, if_pos (Nat.lt_of_not_le hshort)]
    rfl

theorem exists_withoutLineEnd (chars : List Char) :
    ∃ tail, chars = withoutLineEnd chars ++ tail ∧ ∀ c ∈ tail, c = '\n' := by
  unfold withoutLineEnd
  split
  · rename_i hlast
    exact ⟨['\n'], (List.dropLast_append_getLast? _ hlast).symm, by simp⟩
  · exact ⟨[], by simp, nofun⟩

theorem isDotted_iff :
    isDotted chars = true ↔ 2 ≤ (components (withoutLineEnd chars)).length
      ∧ ∀ group ∈ components (withoutLineEnd chars), IsGroup group := by
  have hgroup (group : List Char) :
      (!group.isEmpty && group.all isDigit) = true ↔ IsGroup group := by
    rw [Bool.and_eq_true, Bool.not_eq_true', List.all_eq_true]
    exact ⟨fun ⟨hfilled, hdigits⟩ => ⟨by simpa using hfilled, hdigits⟩,
      fun h => ⟨by simpa using h.filled, h.digits⟩⟩
  simp only [isDotted, Bool.and_eq_true, decide_eq_true_eq, List.all_eq_true, hgroup]

theorem intercalate_concat (separator : Char) (before : List (List Char))
    (last tail : List Char) :
    [separator].intercalate (before ++ [last ++ tail]) =
      [separator].intercalate (before ++ [last]) ++ tail := by
  induction before with
  | nil => simp
  | cons first rest ih => cases rest <;> simp_all [List.intercalate]

/-- A dotted numeral ends in a digit. -/
theorem withoutLineEnd_intercalate {groups : List (List Char)} (hsome : groups ≠ [])
    (hgroups : ∀ group ∈ groups, IsGroup group) {tail : List Char}
    (htail : tail = [] ∨ tail = ['\n']) :
    withoutLineEnd (['.'].intercalate groups ++ tail) = ['.'].intercalate groups := by
  rcases htail with rfl | rfl
  · obtain hnone | ⟨before, last, hgroup⟩ := List.eq_nil_or_concat groups
    · exact absurd hnone hsome
    rw [List.concat_eq_append] at hgroup
    subst hgroup
    have hlast : IsGroup last := hgroups last (by simp)
    obtain hnone | ⟨digits, digit, hdigits⟩ := List.eq_nil_or_concat last
    · exact absurd hnone hlast.filled
    rw [List.concat_eq_append] at hdigits
    subst hdigits
    have hdigit : digit ≠ '\n' := by
      intro hend
      have := hlast.digits digit (by simp)
      rw [hend] at this
      exact absurd this (by decide)
    rw [List.append_nil, intercalate_concat, withoutLineEnd, List.getLast?_concat,
      if_neg fun h => hdigit (Option.some.inj h)]
  · rw [withoutLineEnd, List.getLast?_concat, if_pos rfl, List.dropLast_concat]

/-- Two or more groups with a point between neighbours, and at most one line end. -/
theorem isDotted_iff_exists :
    isDotted chars = true ↔ ∃ groups tail, chars = ['.'].intercalate groups ++ tail
      ∧ 2 ≤ groups.length ∧ (∀ group ∈ groups, IsGroup group)
      ∧ (tail = [] ∨ tail = ['\n']) := by
  rw [isDotted_iff]
  constructor
  · intro ⟨hlength, hgroups⟩
    refine ⟨components (withoutLineEnd chars), ?_⟩
    rw [components, List.intercalate_splitOn]
    by_cases hend : chars.getLast? = some '\n'
    · refine ⟨['\n'], ?_, hlength, hgroups, .inr rfl⟩
      rw [withoutLineEnd, if_pos hend, List.dropLast_append_getLast? _ hend]
    · refine ⟨[], ?_, hlength, hgroups, .inl rfl⟩
      rw [withoutLineEnd, if_neg hend, List.append_nil]
  · rintro ⟨groups, tail, rfl, hlength, hgroups, htail⟩
    have hsome : groups ≠ [] := by
      intro hnone
      rw [hnone] at hlength
      cases hlength
    have hcomponents : components (['.'].intercalate groups) = groups := by
      apply List.splitOn_intercalate '.' _ hsome
      intro group hgroup
      exact (hgroups group hgroup).not_mem (by decide)
    rw [withoutLineEnd_intercalate hsome hgroups htail, hcomponents]
    exact ⟨hlength, hgroups⟩

/-- Behind the last of the groups nothing is split off. -/
theorem components_append {before : List (List Char)} {last tail : List Char}
    (hcomponents : components chars = before ++ [last])
    (hgroups : ∀ group ∈ before ++ [last], IsGroup group) (htail : ∀ c ∈ tail, c = '\n') :
    components (chars ++ tail) = before ++ [last ++ tail] := by
  have hpoint {group : List Char} (h : group ∈ before ++ [last]) : '.' ∉ group :=
    (hgroups group h).not_mem (by decide)
  have hwhole : chars ++ tail = ['.'].intercalate (before ++ [last ++ tail]) := by
    rw [intercalate_concat, ← hcomponents, components, List.intercalate_splitOn]
  rw [components, hwhole]
  refine List.splitOn_intercalate '.' (fun group hgroup => ?_) (by simp)
  rcases List.mem_append.mp hgroup with hgroup | hgroup
  · exact hpoint (List.mem_append_left _ hgroup)
  · rw [List.mem_singleton.mp hgroup, List.mem_append, not_or]
    refine ⟨hpoint (by simp), fun hmem => ?_⟩
    exact absurd (htail _ hmem) (by decide)

theorem mapM_componentValue? (h : isDotted chars = true) :
    (components chars).mapM componentValue? =
      (components (withoutLineEnd chars)).mapM groupValue? := by
  obtain ⟨hlength, hgroups⟩ := isDotted_iff.mp h
  obtain ⟨tail, hchars, htail⟩ := exists_withoutLineEnd chars
  rcases List.eq_nil_or_concat (components (withoutLineEnd chars)) with
    hnone | ⟨before, last, hcomponents⟩
  · rw [hnone] at hlength
    cases hlength
  rw [List.concat_eq_append] at hcomponents
  rw [hcomponents] at hgroups ⊢
  have hlast : componentValue? (last ++ tail) = groupValue? last :=
    (hgroups last (by simp)).componentValue? htail
  have hbefore : ∀ before : List (List Char), (∀ group ∈ before, IsGroup group) →
      (before ++ [last ++ tail]).mapM componentValue? =
        (before ++ [last]).mapM groupValue? := by
    intro before hbefore
    induction before with
    | nil => simp [hlast]
    | cons group rest ih =>
        obtain ⟨hgroup, hrest⟩ := List.forall_mem_cons.mp hbefore
        have hfirst : componentValue? (group ++ []) = groupValue? group :=
          hgroup.componentValue? nofun
        rw [List.append_nil] at hfirst
        simp only [List.cons_append, List.mapM_cons, ih hrest, hfirst]
  conv_lhs => rw [hchars, components_append hcomponents hgroups htail]
  exact hbefore before fun group hgroup => hgroups group (List.mem_append_left _ hgroup)

theorem mapM_groupValue? {groups : List (List Char)}
    (h : ∀ group ∈ groups, group.length ≤ Number.digitLimit) :
    groups.mapM groupValue? =
      some (groups.map fun group => (ofDigits (digitValues group) : Int)) := by
  induction groups with
  | nil => rfl
  | cons group rest ih =>
      obtain ⟨hgroup, hrest⟩ := List.forall_mem_cons.mp h
      simp [groupValue?, hgroup, ih hrest]

theorem mapM_groupValue?_eq_none {groups : List (List Char)}
    (h : ¬ ∀ group ∈ groups, group.length ≤ Number.digitLimit) :
    groups.mapM groupValue? = none := by
  induction groups with
  | nil => exact absurd nofun h
  | cons group rest ih =>
      by_cases hgroup : group.length ≤ Number.digitLimit
      · have hrest := ih fun hrest => h (List.forall_mem_cons.mpr ⟨hgroup, hrest⟩)
        simp [groupValue?, hgroup, hrest]
      · simp [groupValue?, hgroup]

/-- A dotted numeral is placed by its value. -/
theorem place_of_isShort (h : isDotted s.toList = true) (hshort : IsShort s) :
    place s = (value s).map Int.ofNat := by
  rw [place, mapM_componentValue? h, mapM_groupValue? hshort, value, List.map_map]
  rfl

/-- One with a component of too many digits is placed last. -/
theorem place_of_not_isShort (h : isDotted s.toList = true) (hlong : ¬ IsShort s) :
    place s = lastPlace := by
  rw [place, mapM_componentValue? h, mapM_groupValue?_eq_none hlong]
  rfl

theorem le_iff {s t : String} : le s t = true ↔ place s ≤ place t := by
  rw [le, Bool.not_eq_true', decide_eq_false_iff_not, not_lt]

theorem trans_le (r s t : String) (hrs : le r s = true) (hst : le s t = true) :
    le r t = true :=
  le_iff.mpr ((le_iff.mp hrs).trans (le_iff.mp hst))

theorem total_le (s t : String) : (le s t || le t s) = true := by
  rw [Bool.or_eq_true, le_iff, le_iff]
  exact le_total _ _

theorem map_ofNat_lt {xs ys : List Nat} :
    xs.map Int.ofNat < ys.map Int.ofNat ↔ xs < ys := by
  induction xs generalizing ys with
  | nil => cases ys <;> simp
  | cons x xs ih =>
      cases ys with
      | nil => simp
      | cons y ys =>
          simp only [List.map_cons, List.cons_lt_cons_iff, ih, Int.ofNat_eq_natCast, Int.ofNat_lt,
            Int.natCast_inj]

/-- Between short numerals the order of the places is that of the values. -/
theorem place_le_iff {t : String} (hs : isDotted s.toList = true) (hshort : IsShort s)
    (ht : isDotted t.toList = true) (hshort' : IsShort t) :
    place s ≤ place t ↔ value s ≤ value t := by
  rw [place_of_isShort hs hshort, place_of_isShort ht hshort', ← not_lt, ← not_lt, map_ofNat_lt]

end Numeral

end SutraArbiter
