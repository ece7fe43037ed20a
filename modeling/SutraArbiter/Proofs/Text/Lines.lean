import SutraArbiter.Datum.Written
import SutraArbiter.Proofs.Number.Written
import SutraArbiter.Text.Blank
import Mathlib.Data.List.Basic

namespace SutraArbiter.Text

/-! Lines of text.  Texts that keep to one line each are the lines of what is joined of them,
and what is quoted keeps to one line: whatever ends a line is escaped. -/

variable {c : Char} {s t held after : List Char} {pieces : List (List Char)}

/-- The characters that end a line. -/
def lineEnds : List Nat :=
  [0x0A, 0x0B, 0x0C, 0x0D, 0x1C, 0x1D, 0x1E, 0x85, 0x2028, 0x2029]

def endsLine (c : Char) : Bool :=
  lineEnds.contains c.toNat

/-- The lines of a text whose first line begins with `held`.  A carriage return and the line
feed behind it end one line, and there is no line behind the last line end. -/
def linesFrom (held : List Char) : List Char → List (List Char)
  | [] => if held.isEmpty then [] else [held]
  | '\r' :: '\n' :: rest => held :: linesFrom [] rest
  | c :: rest => if endsLine c then held :: linesFrom [] rest else linesFrom (held ++ [c]) rest

def lines (s : String) : List String :=
  (linesFrom [] s.toList).map String.ofList

/-- No line ends within the text. -/
def IsUnbroken (s : List Char) : Prop :=
  ∀ c ∈ s, endsLine c = false

instance (s : List Char) : Decidable (IsUnbroken s) :=
  List.decidableBAll (endsLine · = false) s

@[simp] theorem isUnbroken_nil : IsUnbroken [] := nofun

@[simp] theorem isUnbroken_cons : IsUnbroken (c :: s) ↔ endsLine c = false ∧ IsUnbroken s :=
  List.forall_mem_cons

@[simp] theorem isUnbroken_append : IsUnbroken (s ++ t) ↔ IsUnbroken s ∧ IsUnbroken t :=
  List.forall_mem_append

/-- Of a text that is written out, by its characters. -/
theorem isUnbroken_ofList (h : IsUnbroken s) : IsUnbroken (String.ofList s).toList := by
  rwa [String.toList_ofList]

theorem isUnbroken_flatMap {α : Type} {items : List α} {f : α → List Char}
    (h : ∀ item ∈ items, IsUnbroken (f item)) : IsUnbroken (items.flatMap f) := by
  intro c hc
  obtain ⟨item, hitem, hc⟩ := List.mem_flatMap.mp hc
  exact h item hitem c hc

theorem isUnbroken_intercalate {separator : List Char} (hseparator : IsUnbroken separator) :
    IsUnbroken (separator.intercalate pieces) ↔ ∀ piece ∈ pieces, IsUnbroken piece := by
  induction pieces with
  | nil => simp
  | cons piece rest ih =>
      cases rest with
      | nil => simp
      | cons next rest =>
          rw [List.intercalate_cons_cons, isUnbroken_append, isUnbroken_append, ih,
            and_iff_left hseparator]
          exact List.forall_mem_cons.symm

theorem isBlank_of_endsLine (h : endsLine c = true) : isBlank c = true := by
  have hends : ∀ n ∈ lineEnds, isBlank (Char.ofNat n) = true := by decide
  simpa using hends c.toNat (by simpa [endsLine] using h)

/-- What stands between blanks keeps to a line, as whatever ends a line is a blank. -/
theorem isUnbroken_of_mem_splitOnP : ∀ piece ∈ s.splitOnP isBlank, IsUnbroken piece := by
  induction s with
  | nil => simp
  | cons c s ih =>
      rw [List.splitOnP_cons_eq_if_modifyHead]
      split
      · exact List.forall_mem_cons.mpr ⟨isUnbroken_nil, ih⟩
      · rename_i hplain
        have hc : endsLine c = false := Bool.eq_false_iff.mpr fun h => hplain (isBlank_of_endsLine h)
        obtain ⟨first, rest, hpieces⟩ :=
          List.exists_cons_of_ne_nil (List.splitOnP_ne_nil isBlank s)
        rw [hpieces, List.forall_mem_cons] at ih
        rw [hpieces, List.modifyHead_cons, List.forall_mem_cons]
        exact ⟨isUnbroken_cons.mpr ⟨hc, ih.1⟩, ih.2⟩

theorem isUnbroken_collapse (s : List Char) : IsUnbroken (collapse s) :=
  (isUnbroken_intercalate (by decide)).mpr fun piece hpiece =>
    isUnbroken_of_mem_splitOnP piece (List.mem_filter.mp hpiece).1

/-- What keeps to a line is part of it. -/
theorem linesFrom_append (h : IsUnbroken s) :
    linesFrom held (s ++ after) = linesFrom (held ++ s) after := by
  induction s generalizing held with
  | nil => rw [List.nil_append, List.append_nil]
  | cons c rest ih =>
      obtain ⟨hc, hrest⟩ := isUnbroken_cons.mp h
      have hreturn : c ≠ '\r' := by
        rintro rfl
        exact absurd hc (by decide)
      rw [List.cons_append, linesFrom, hc, if_neg Bool.false_ne_true, ih hrest]
      · simp
      · exact fun _ hc _ => hreturn hc

theorem linesFrom_of_isUnbroken (h : IsUnbroken s) (hs : s ≠ []) : linesFrom [] s = [s] := by
  have hline : linesFrom [] (s ++ []) = linesFrom ([] ++ s) [] := linesFrom_append h
  rw [List.append_nil, List.nil_append, linesFrom, if_neg (by simpa using hs)] at hline
  exact hline

theorem isUnbroken_of_mem_linesFrom (hheld : IsUnbroken held) :
    ∀ line ∈ linesFrom held s, IsUnbroken line := by
  fun_induction linesFrom held s with
  | case1 => nofun
  | case2 held hsome => simpa using hheld
  | case3 held rest ih => exact List.forall_mem_cons.mpr ⟨hheld, ih isUnbroken_nil⟩
  | case4 held c rest hother hc ih => exact List.forall_mem_cons.mpr ⟨hheld, ih isUnbroken_nil⟩
  | case5 held c rest hother hc ih => exact ih (by simpa [hheld] using hc)

/-- A text whose last character ends no line has a last line, which a line feed ends. -/
theorem linesFrom_newline (hsome : held ++ s ≠ []) (hlast : ∀ c ∈ s.getLast?, endsLine c = false) :
    linesFrom held (s ++ '\n' :: after) = linesFrom held s ++ linesFrom [] after := by
  have hrest {c : Char} {rest : List Char}
      (hlast : ∀ d ∈ (c :: rest).getLast?, endsLine d = false) :
      ∀ d ∈ rest.getLast?, endsLine d = false := by
    cases rest with
    | nil => nofun
    | cons d others => simpa using hlast
  -- What ends a line within the text is not the last of it.
  have hfollowed {c : Char} {rest : List Char}
      (hlast : ∀ d ∈ (c :: rest).getLast?, endsLine d = false) (hc : endsLine c = true) :
      rest ≠ [] := by
    rintro rfl
    rw [hlast c rfl] at hc
    cases hc
  fun_induction linesFrom held s with
  | case1 held hnone => exact absurd (by simpa using hnone) hsome
  | case2 held hheld => rfl
  | case3 held rest ih =>
      have hnext := hfollowed (hrest hlast) rfl
      rw [List.cons_append, List.cons_append, linesFrom, ih hnext (hrest (hrest hlast)),
        List.cons_append]
  | case4 held c rest hother hc ih =>
      have hnext := hfollowed hlast hc
      rw [List.cons_append, linesFrom, if_pos hc, ih hnext (hrest hlast), List.cons_append]
      obtain ⟨d, others, rfl⟩ := List.exists_cons_of_ne_nil hnext
      intro following hreturn hfeed
      exact hother others hreturn (by rw [(List.cons.inj hfeed).1])
  | case5 held c rest hother hc ih =>
      rw [List.cons_append, linesFrom, if_neg hc, ih (by simp) (hrest hlast)]
      rintro following rfl -
      exact hc rfl

/-- What ends in no line end, on one line or more. -/
structure IsEnded (s : List Char) : Prop where
  some : s ≠ []
  last : ∀ c ∈ s.getLast?, endsLine c = false

theorem isEnded_of_isUnbroken (h : IsUnbroken s) (hs : s ≠ []) : IsEnded s where
  some := hs
  last c hc := h c (List.mem_of_getLast? hc)

/-- Two texts on a line each, one behind the other. -/
theorem isEnded_newline (hafter : IsUnbroken after) (hsome : after ≠ []) :
    IsEnded (s ++ '\n' :: after) where
  some := by simp
  last c hc := by
    rw [List.getLast?_append_cons, List.getLast?_cons_of_ne_nil hsome] at hc
    exact hafter c (List.mem_of_getLast? hc)

theorem linesFrom_pair (hs : IsUnbroken s) (hsome : s ≠ []) (hafter : IsUnbroken after)
    (hmore : after ≠ []) : linesFrom [] (s ++ '\n' :: after) = [s, after] := by
  have hended := isEnded_of_isUnbroken hs hsome
  have hjoin : linesFrom [] (s ++ '\n' :: after) = linesFrom [] s ++ linesFrom [] after :=
    linesFrom_newline hended.some hended.last
  rw [hjoin, linesFrom_of_isUnbroken hs hsome, linesFrom_of_isUnbroken hafter hmore,
    List.singleton_append]

theorem linesFrom_intercalate (h : ∀ piece ∈ pieces, IsEnded piece) :
    linesFrom [] (['\n'].intercalate pieces) = pieces.flatMap (linesFrom []) := by
  induction pieces with
  | nil => rfl
  | cons piece rest ih =>
      obtain ⟨hpiece, hrest⟩ := List.forall_mem_cons.mp h
      cases rest with
      | nil => simp
      | cons next rest =>
          have hjoin (after : List Char) : linesFrom [] (piece ++ '\n' :: after) =
              linesFrom [] piece ++ linesFrom [] after :=
            linesFrom_newline hpiece.some hpiece.last
          rw [List.intercalate_cons_cons, List.append_assoc, List.singleton_append, hjoin, ih hrest]
          rfl

/-- Texts that are not empty are the lines of what is joined of them exactly if each keeps to
one line. -/
theorem linesFrom_intercalate_eq_iff (hsome : ∀ piece ∈ pieces, piece ≠ []) :
    linesFrom [] (['\n'].intercalate pieces) = pieces ↔ ∀ piece ∈ pieces, IsUnbroken piece := by
  constructor
  · intro h piece hpiece
    rw [← h] at hpiece
    exact isUnbroken_of_mem_linesFrom isUnbroken_nil piece hpiece
  · intro h
    have hline : ∀ piece ∈ pieces, linesFrom [] piece = [piece] := fun piece hpiece =>
      linesFrom_of_isUnbroken (h piece hpiece) (hsome piece hpiece)
    rw [linesFrom_intercalate fun piece hpiece =>
        isEnded_of_isUnbroken (h piece hpiece) (hsome piece hpiece),
      List.flatMap_congr hline, List.flatMap_singleton']

theorem isPrintable_eq_false_of_endsLine (h : endsLine c = true) : isPrintable c = false := by
  have hends : ∀ n ∈ lineEnds, isPrintable (Char.ofNat n) = false := by
    decide +kernel
  simpa using hends c.toNat (by simpa [endsLine] using h)

theorem endsLine_of_isPrintable (h : isPrintable c = true) : endsLine c = false := by
  rw [← Bool.not_eq_true]
  intro hends
  rw [isPrintable_eq_false_of_endsLine hends] at h
  cases h

theorem isUnbroken_of_isNumeric (h : ∀ c ∈ s, isNumeric c = true) : IsUnbroken s := by
  have hends : ∀ n ∈ lineEnds, isNumeric (Char.ofNat n) = false := by decide
  intro c hc
  rw [← Bool.not_eq_true]
  intro hline
  have hother := hends c.toNat (by simpa [endsLine] using hline)
  rw [Char.ofNat_toNat, h c hc] at hother
  cases hother

theorem isUnbroken_toDigits {base : Nat} (hbase : 1 < base) (hsmall : base ≤ 16) (n : Nat) :
    IsUnbroken (Nat.toDigits base n) := by
  have hdigits : ∀ digit < 16, endsLine (Nat.digitChar digit) = false := by decide
  induction n using Nat.strongRecOn with
  | _ n ih =>
      rw [Nat.toDigits_eq_if hbase]
      split
      · rename_i hlast
        simpa using hdigits n (by omega)
      · rename_i hmore
        have hlast := Nat.mod_lt n (Nat.lt_of_succ_lt hbase)
        simpa [hdigits (n % base) (by omega)] using ih (n / base) (Nat.div_lt_self (by omega) hbase)

theorem isUnbroken_hexDigits (width n : Nat) : IsUnbroken (hexDigits width n) := by
  rw [hexDigits, isUnbroken_append]
  refine ⟨fun c hc => ?_, isUnbroken_toDigits (by decide) (by decide) n⟩
  rw [List.eq_of_mem_replicate hc]
  decide

theorem isUnbroken_codeEscape (n : Nat) : IsUnbroken (codeEscape n) := by
  have hmarks : IsUnbroken [backslash, 'u', 'x', 'U'] := by decide
  simp only [isUnbroken_cons] at hmarks
  unfold codeEscape
  repeat' split
  all_goals simp [isUnbroken_hexDigits, hmarks]

theorem isUnbroken_escapeChar {mark : Char} (hmark : endsLine mark = false) :
    IsUnbroken (escapeChar mark c) := by
  have hbackslash : endsLine backslash = false := by decide
  unfold escapeChar
  split
  · rename_i hescaped
    simp only [Bool.or_eq_true, decide_eq_true_eq] at hescaped
    rcases hescaped with rfl | rfl
    · simp [hbackslash, hmark]
    · simp [hbackslash]
  · split
    · decide
    · split
      · decide
      · split
        · decide
        · split
          · rename_i hprintable
            simpa using endsLine_of_isPrintable hprintable
          · exact isUnbroken_codeEscape _

theorem endsLine_enclosingMark (s : List Char) : endsLine (enclosingMark s) = false := by
  unfold enclosingMark
  split <;> decide

theorem isUnbroken_quote (s : List Char) : IsUnbroken (quote s) := by
  have hmark := endsLine_enclosingMark s
  simp [quote, hmark, isUnbroken_flatMap fun c (_ : c ∈ s) => isUnbroken_escapeChar (c := c) hmark]

theorem isUnbroken_escapeOctet {mark : Char} (hmark : endsLine mark = false) (n : Nat) :
    IsUnbroken (escapeOctet mark n) := by
  unfold escapeOctet
  split
  · exact isUnbroken_escapeChar hmark
  · exact isUnbroken_codeEscape n

theorem isUnbroken_quoteOctets (octets : List UInt8) : IsUnbroken (quoteOctets octets) := by
  have hmark : endsLine (enclosingOctet octets) = false := endsLine_enclosingMark _
  simp [quoteOctets, hmark, isUnbroken_flatMap fun octet (_ : octet ∈ octets) =>
    isUnbroken_escapeOctet hmark octet.toNat]

theorem isUnbroken_quoteBuffer (octets : List UInt8) : IsUnbroken (quoteBuffer octets) := by
  have hmark : endsLine (enclosingOctet octets) = false := endsLine_enclosingMark _
  have hapostrophe : endsLine apostrophe = false := by decide
  simp [quoteBuffer, hmark, isUnbroken_flatMap fun octet (_ : octet ∈ octets) =>
    isUnbroken_escapeOctet hapostrophe octet.toNat]

end SutraArbiter.Text

namespace SutraArbiter.Datum

open Text

theorem joinWith_eq (separator : List Char) (pieces : List (List Char)) :
    joinWith separator pieces = separator.intercalate pieces := by
  induction pieces with
  | nil => rfl
  | cons piece rest ih =>
      cases rest with
      | nil => simp [joinWith]
      | cons next rest =>
          rw [joinWith, ih, List.intercalate_cons_cons]
          exact nofun

theorem isUnbroken_commaSeparated {pieces : List (List Char)}
    (h : ∀ piece ∈ pieces, IsUnbroken piece) : IsUnbroken (commaSeparated pieces) := by
  rw [commaSeparated, joinWith_eq]
  exact (isUnbroken_intercalate (by decide)).mpr h

theorem isUnbroken_tupleText {pieces : List (List Char)}
    (h : ∀ piece ∈ pieces, IsUnbroken piece) : IsUnbroken (tupleText pieces) := by
  have hmarks : IsUnbroken ['(', ')', ','] := by decide
  simp only [isUnbroken_cons] at hmarks
  unfold tupleText
  split
  · simpa [hmarks] using h
  · simp [hmarks, isUnbroken_commaSeparated h]

theorem isUnbroken_written (x : Double) : IsUnbroken x.written.toList := by
  cases x with
  | nan => decide
  | infinite negative => cases negative <;> decide
  | finite negative units => exact isUnbroken_of_isNumeric (Double.written_finite negative units).1

mutual

theorem isUnbroken_shown : (d : Datum) → IsUnbroken d.shown
  | null => by
      show IsUnbroken "None".toList
      decide
  | bool value => by
      show IsUnbroken (if value then "True".toList else "False".toList)
      split <;> decide
  | int value => isUnbroken_of_isNumeric fun _ => isNumeric_of_mem_decimalInt
  | float value => isUnbroken_written value
  | text value => isUnbroken_quote value.toList
  | bytes octets => by
      show IsUnbroken ('b' :: quoteOctets octets)
      exact isUnbroken_cons.mpr ⟨by decide, isUnbroken_quoteOctets octets⟩
  | buffer octets => by
      show IsUnbroken ("bytearray(b".toList ++ quoteBuffer octets ++ [')'])
      rw [isUnbroken_append, isUnbroken_append]
      exact ⟨⟨by decide, isUnbroken_quoteBuffer octets⟩, by decide⟩
  | list items => by
      show IsUnbroken ('[' :: commaSeparated (shownItems items) ++ [']'])
      rw [isUnbroken_append, isUnbroken_cons]
      exact ⟨⟨by decide, isUnbroken_commaSeparated (isUnbroken_shownItems items)⟩, by decide⟩
  | tuple items => isUnbroken_tupleText (isUnbroken_shownItems items)
  | map entries => by
      show IsUnbroken ('\x7b' :: commaSeparated (shownEntries entries) ++ ['\x7d'])
      rw [isUnbroken_append, isUnbroken_cons]
      exact ⟨⟨by decide, isUnbroken_commaSeparated (isUnbroken_shownEntries entries)⟩, by decide⟩

theorem isUnbroken_shownItems : (items : List Datum) → ∀ piece ∈ shownItems items, IsUnbroken piece
  | [] => nofun
  | item :: rest => by
      rw [shownItems, List.forall_mem_cons]
      exact ⟨isUnbroken_shown item, isUnbroken_shownItems rest⟩

theorem isUnbroken_shownEntries : (entries : List (Datum × Datum)) →
    ∀ piece ∈ shownEntries entries, IsUnbroken piece
  | [] => nofun
  | (key, value) :: rest => by
      rw [shownEntries, List.forall_mem_cons, isUnbroken_append, isUnbroken_cons, isUnbroken_cons]
      exact ⟨⟨isUnbroken_shown key, by decide, by decide, isUnbroken_shown value⟩,
        isUnbroken_shownEntries rest⟩

end

theorem isUnbroken_quoted (d : Datum) : IsUnbroken d.quoted.toList := by
  rw [quoted, String.toList_ofList]
  exact isUnbroken_shown d

end SutraArbiter.Datum
