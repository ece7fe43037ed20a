import SutraArbiter.Json.Scalar
import SutraArbiter.Json.Token

namespace SutraArbiter

namespace Text

variable {c : Char}

theorem toNat_lt (c : Char) : c.toNat < 0x110000 := by
  have hvalid := c.valid
  simp only [UInt32.isValidChar, Nat.isValidChar] at hvalid
  simp only [Char.toNat]
  omega

/-- No character is half a pair by its own code. -/
theorem isHalf_toNat (c : Char) : isHalf c.toNat = false := by
  have hvalid := c.valid
  simp only [isHalf, isLeadingHalf, isTrailingHalf, Char.toNat, Bool.or_eq_false_iff,
    Bool.and_eq_false_iff, decide_eq_false_iff_not]
  simp only [UInt32.isValidChar, Nat.isValidChar] at hvalid
  omega

theorem joinHalves_add (leading trailing : Nat) :
    joinHalves (0xD800 + leading) (0xDC00 + trailing) = 0x10000 + leading * 0x400 + trailing := by
  unfold joinHalves
  rw [Nat.add_sub_cancel_left, Nat.add_sub_cancel_left]

end Text

namespace Json.Token

open Text

theorem hexValue?_digitChar : ∀ d < 16, hexValue? (Nat.digitChar d) = some d := by
  decide

theorem exists_mapM_hexValue? (n : Nat) : ∃ values, (Nat.toDigits 16 n).mapM hexValue? = some values
    ∧ values.foldl (fun unit value => 16 * unit + value) 0 = n := by
  induction n using Nat.strongRecOn with
  | _ n ih =>
      rw [Nat.toDigits_eq_if (by decide)]
      split
      · rename_i hsmall
        exact ⟨[n], by simp [hexValue?_digitChar n hsmall], by simp⟩
      · rename_i hlarge
        obtain ⟨values, hvalues, hfold⟩ := ih (n / 16) (by omega)
        have hlast := hexValue?_digitChar (n % 16) (Nat.mod_lt _ (by decide))
        refine ⟨values ++ [n % 16], by simp [List.mapM_append, hvalues, hlast], ?_⟩
        rw [List.foldl_append, hfold]
        simp only [List.foldl_cons, List.foldl_nil]
        omega

theorem unit?_hexDigits (width n : Nat) : unit? (hexDigits width n) = some n := by
  have hzeros : ∀ count, (List.replicate count '0').mapM hexValue? =
      some (List.replicate count 0) := by
    intro count
    induction count with
    | zero => rfl
    | succ count ih =>
        rw [List.replicate_succ, List.mapM_cons, ih]
        rfl
  have hfold : ∀ count, (List.replicate count 0).foldl (fun unit value => 16 * unit + value) 0 =
      0 := by
    intro count
    induction count with
    | zero => rfl
    | succ count ih => rwa [List.replicate_succ, List.foldl_cons]
  obtain ⟨values, hvalues, hread⟩ := exists_mapM_hexValue? n
  unfold unit? hexDigits
  simp only [List.mapM_append, hzeros, hvalues, Option.bind_eq_bind, Option.bind_some,
    Option.pure_def, Option.map_some, List.foldl_append, hfold, hread]

theorem length_hexDigits {n : Nat} (h : n < 0x10000) : (hexDigits 4 n).length = 4 := by
  have hlength : (Nat.toDigits 16 n).length ≤ 4 :=
    (Nat.length_toDigits_le_iff (by decide) (by decide)).mpr h
  simp only [hexDigits, List.length_append, List.length_replicate]
  omega

variable {s rest : List Char} {c : Char}

theorem Held.content_add (held : Held) (c : Char) :
    (held.add c).content = held.content ++ [c] :=
  List.reverse_cons

theorem escaped?_shortEscape? {letter : Char} (h : shortEscape? c = some letter) :
    letter ≠ 'u' ∧ escaped? letter = some c := by
  have hcode : ∀ {n : Nat}, c.toNat = n → c = Char.ofNat n := by
    rintro n rfl
    exact (Char.ofNat_toNat c).symm
  unfold shortEscape? at h
  split at h
  · rename_i hplain
    cases h
    rw [Bool.or_eq_true, decide_eq_true_eq, decide_eq_true_eq] at hplain
    rcases hplain with rfl | rfl <;> decide
  split at h
  · subst_vars
    cases h
    decide
  split at h
  · subst_vars
    cases h
    decide
  split at h
  · subst_vars
    cases h
    decide
  split at h
  · rename_i hbackspace
    cases h
    rw [hcode hbackspace]
    decide
  split at h
  · rename_i hfeed
    cases h
    rw [hcode hfeed]
    decide
  · cases h

theorem stringRow_quote (held : Held) (rest : List Char) :
    stringRow held (quotationMark :: rest) = string held.content :: row rest := by
  cases rest with
  | nil => simp [stringRow, row]
  | cons d rest => simp [stringRow]

theorem stringRow_unitEscape {n : Nat} (h : n < 0x10000) (held : Held) (rest : List Char) :
    stringRow held (unitEscape n ++ rest) = stringRow (held.addUnit n) rest := by
  have hread := unit?_hexDigits 4 n
  unfold unitEscape
  match hdigits : hexDigits 4 n, length_hexDigits h with
  | [a, b, c, d], _ =>
      rw [hdigits] at hread
      have hmark : backslash ≠ quotationMark := by decide
      simp only [List.cons_append, List.nil_append]
      rw [stringRow, if_neg hmark, if_pos rfl, if_pos rfl, unitRow, hread]

theorem stringRow_shortEscape {letter : Char} (h : shortEscape? c = some letter) (held : Held)
    (rest : List Char) :
    stringRow held (backslash :: letter :: rest) = stringRow (held.add c) rest := by
  obtain ⟨hletter, hread⟩ := escaped?_shortEscape? h
  have hmark : backslash ≠ quotationMark := by decide
  rw [stringRow, if_neg hmark, if_pos rfl, if_neg hletter, hread]

theorem stringRow_plain (hshort : shortEscape? c = none) (hplain : 0x20 ≤ c.toNat) (held : Held)
    {rest : List Char} (hrest : rest ≠ []) :
    stringRow held (c :: rest) = stringRow (held.add c) rest := by
  obtain ⟨d, rest, rfl⟩ := List.exists_cons_of_ne_nil hrest
  have hmarks : c ≠ quotationMark ∧ c ≠ backslash := by
    constructor <;> rintro rfl <;> cases hshort
  rw [stringRow, if_neg hmarks.1, if_neg hmarks.2, if_neg (Nat.not_lt.mpr hplain)]

theorem addUnit_of_basic (held : Held) (c : Char) : held.addUnit c.toNat = held.add c := by
  have hcode := isHalf_toNat c
  rw [isHalf, Bool.or_eq_false_iff] at hcode
  rw [Held.addUnit, hcode.1, hcode.2, Char.ofNat_toNat]
  rfl

/-- The two units of a character beyond the basic plane are joined again. -/
theorem addUnit_addUnit (held : Held) (hbeyond : 0x10000 ≤ c.toNat) :
    (held.addUnit (0xD800 + (c.toNat - 0x10000) / 0x400)).addUnit
        (0xDC00 + (c.toNat - 0x10000) % 0x400) = held.add c := by
  obtain ⟨leading, hleading⟩ : ∃ leading, leading = (c.toNat - 0x10000) / 0x400 := ⟨_, rfl⟩
  obtain ⟨trailing, htrailing⟩ : ∃ trailing, trailing = (c.toNat - 0x10000) % 0x400 := ⟨_, rfl⟩
  have hcode : c.toNat = 0x10000 + leading * 0x400 + trailing := by omega
  have hbound := toNat_lt c
  have hlead : leading < 0x400 := by omega
  have htrail : trailing < 0x400 := by omega
  rw [← hleading, ← htrailing]
  have hfirst : held.addUnit (0xD800 + leading) = ⟨held.settle, some (0xD800 + leading)⟩ := by
    rw [Held.addUnit, if_pos]
    simp only [isLeadingHalf, Bool.and_eq_true, decide_eq_true_eq]
    omega
  have hother : isLeadingHalf (0xDC00 + trailing) = false := by
    simp only [isLeadingHalf, Bool.and_eq_false_iff, decide_eq_false_iff_not]
    omega
  have hsecond : isTrailingHalf (0xDC00 + trailing) = true := by
    simp only [isTrailingHalf, Bool.and_eq_true, decide_eq_true_eq]
    omega
  have hjoined : joinHalves (0xD800 + leading) (0xDC00 + trailing) = c.toNat := by
    rw [joinHalves_add, hcode]
  rw [hfirst, Held.addUnit, hother, hsecond]
  simp only [Bool.false_eq_true, if_false, if_true]
  rw [hjoined, Char.ofNat_toNat]
  rfl

theorem stringRow_codeEscape (held : Held) (c : Char) (rest : List Char) :
    stringRow held (codeEscape c.toNat ++ rest) = stringRow (held.add c) rest := by
  have hbound := toNat_lt c
  unfold codeEscape
  split
  · rename_i hbasic
    rw [stringRow_unitEscape hbasic, addUnit_of_basic]
  · rename_i hbeyond
    rw [List.append_assoc, stringRow_unitEscape (by omega), stringRow_unitEscape (by omega),
      addUnit_addUnit held (Nat.not_lt.mp hbeyond)]

/-- One character that was escaped is taken up. -/
theorem stringRow_escapeChar (held : Held) (c : Char) (hrest : rest ≠ []) :
    stringRow held (escapeChar .ascii c ++ rest) = stringRow (held.add c) rest := by
  unfold escapeChar
  cases hshort : shortEscape? c with
  | some letter => exact stringRow_shortEscape hshort held rest
  | none =>
      dsimp only
      split
      · exact stringRow_codeEscape held c rest
      · rename_i hplain
        have hcode : 0x20 ≤ c.toNat := by
          simp only [Alphabet.needsEscape, Bool.or_eq_true, decide_eq_true_eq] at hplain
          omega
        exact stringRow_plain hshort hcode held hrest

theorem stringRow_flatMap_escapeChar (held : Held) (s rest : List Char) :
    stringRow held (s.flatMap (escapeChar .ascii) ++ quotationMark :: rest) =
      string (held.content ++ s) :: row rest := by
  induction s generalizing held with
  | nil => rw [List.flatMap_nil, List.nil_append, stringRow_quote, List.append_nil]
  | cons c s ih =>
      rw [List.flatMap_cons, List.append_assoc, stringRow_escapeChar held c (by simp), ih,
        Held.content_add, List.append_cons held.content c s]

/-- A text is read back as one token. -/
theorem row_string (s rest : List Char) :
    row (Json.string .ascii s ++ rest) = string s :: row rest := by
  have hquote : isBlank quotationMark = false ∧ isMark quotationMark = false := by decide
  rw [Json.string, List.append_assoc, List.cons_append, row]
  simp only [hquote, Bool.false_eq_true, if_false, if_true]
  exact stringRow_flatMap_escapeChar .empty s rest

/-- A word goes on through this character. -/
def IsPlain (c : Char) : Prop :=
  isBlank c = false ∧ isMark c = false ∧ c ≠ quotationMark

instance (c : Char) : Decidable (IsPlain c) := by
  unfold IsPlain; infer_instance

/-- Nothing follows, or a mark does. -/
def Ends (rest : List Char) : Prop :=
  ∀ c ∈ rest.head?, isMark c = true

theorem ends_nil : Ends [] := by
  rintro c ⟨⟩

theorem ends_cons (h : isMark c = true) (rest : List Char) : Ends (c :: rest) := by
  rintro d ⟨⟩
  exact h

theorem isBlank_of_isMark (h : isMark c = true) : isBlank c = false := by
  simp only [isMark, Bool.or_eq_true, decide_eq_true_eq] at h
  rcases h with ((((rfl | rfl) | rfl) | rfl) | rfl) | rfl <;> decide

theorem wordRow_of_ends {word : List Char} (hplain : ∀ c ∈ word, IsPlain c) (hends : Ends rest) :
    ∀ reversed : List Char, wordRow reversed (word ++ rest) =
      Token.word (reversed.reverse ++ word) :: row rest := by
  induction word with
  | nil =>
      intro reversed
      rw [List.nil_append, List.append_nil]
      cases rest with
      | nil => simp [wordRow, row]
      | cons c rest =>
          have hmark : isMark c = true := hends c rfl
          have hblank : isBlank c = false := isBlank_of_isMark hmark
          rw [wordRow, row]
          simp only [hmark, hblank, Bool.false_eq_true, if_false, if_true]
  | cons c word ih =>
      intro reversed
      obtain ⟨⟨hblank, hmark, hquote⟩, hword⟩ := List.forall_mem_cons.mp hplain
      rw [List.cons_append, wordRow]
      simp only [hblank, hmark, hquote, Bool.false_eq_true, if_false]
      rw [ih hword, List.reverse_cons, List.append_assoc]
      rfl

theorem row_word {word : List Char} (hne : word ≠ []) (hplain : ∀ c ∈ word, IsPlain c)
    (hends : Ends rest) : row (word ++ rest) = Token.word word :: row rest := by
  obtain ⟨c, word, rfl⟩ := List.exists_cons_of_ne_nil hne
  obtain ⟨⟨hblank, hmark, hquote⟩, hword⟩ := List.forall_mem_cons.mp hplain
  rw [List.cons_append, row]
  simp only [hblank, hmark, hquote, Bool.false_eq_true, if_false]
  exact wordRow_of_ends hword hends [c]

theorem row_mark (h : isMark c = true) (rest : List Char) :
    row (c :: rest) = mark c :: row rest := by
  have hblank : isBlank c = false := isBlank_of_isMark h
  rw [row]
  simp only [h, hblank, Bool.false_eq_true, if_false, if_true]

end Json.Token

end SutraArbiter
