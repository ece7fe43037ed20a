import SutraArbiter.Proofs.Text.Closure
import Mathlib.Data.List.Chain

namespace SutraArbiter.Text

/-! A composed text is composed already.  Joining two characters changes nothing of what a
text is taken apart into, so to compose once more is to join the same parts again. -/

variable {c d x y z base : Char} {s t held front after : List Char} {last : Nat}

/-! Taking apart, by number.  The kernel goes through the tables with the comparisons of
numbers that it has built in. -/

/-- The numbers of the parts of a character. -/
def partNumbers (n : Nat) : List Nat :=
  bif Nat.blt n 0xC0 then [n]
  else bif isSyllable n then syllableParts n
  else ((decompositionPage (n / 256)).find? fun row => Nat.beq row.1 n).elim [n] Prod.snd

theorem lookup_eq_find? (rows : List (Nat × List Nat)) (n : Nat) :
    rows.lookup n = (rows.find? fun row => Nat.beq row.1 n).map Prod.snd := by
  induction rows with
  | nil => rfl
  | cons row rest ih =>
      obtain ⟨key, parts⟩ := row
      by_cases hkey : key = n
      · simp [hkey]
      · have hother : (n == key) = false := beq_false_of_ne (Ne.symm hkey)
        rw [List.lookup_cons, hother, ih]
        simp [hkey]

theorem decomposeChar_ofNat {n : Nat} (h : n.isValidChar) :
    decomposeChar (Char.ofNat n) = (partNumbers n).map Char.ofNat := by
  unfold decomposeChar partNumbers
  rw [toNat_ofNat h, lookup_eq_find?]
  by_cases hplain : n < 0xC0
  · rw [if_pos hplain, Nat.blt_eq.mpr hplain]
    rfl
  · have hblt : Nat.blt n 0xC0 = false := by simpa [← Nat.blt_eq] using hplain
    rw [if_neg hplain, hblt]
    cases isSyllable n with
    | true => rw [if_pos rfl, cond_false, cond_true]
    | false =>
        rw [if_neg Bool.false_ne_true, cond_false, cond_false]
        cases (decompositionPage (n / 256)).find? fun row => Nat.beq row.1 n <;> rfl

/-- A character that is taken apart into itself. -/
def IsPrime (c : Char) : Prop :=
  decomposeChar c = [c]

theorem isPrime_ofNat {n : Nat} (h : n.isValidChar) (hparts : partNumbers n = [n]) :
    IsPrime (Char.ofNat n) := by
  rw [IsPrime, decomposeChar_ofNat h, hparts]
  rfl

theorem isPrime_parts (page : Nat) :
    ∀ row ∈ decompositionPage page, ∀ n ∈ row.2, n.isValidChar ∧ partNumbers n = [n] := by
  unfold decompositionPage
  split
  all_goals decide +kernel

theorem isPrime_of_letter {n : Nat} (hfirst : leadBase ≤ n) (hlast : n < tailBase + tailCount) :
    IsPrime (Char.ofNat n) := by
  have hletters : ∀ n ∈ List.range' leadBase (tailBase + tailCount - leadBase),
      n.isValidChar ∧ partNumbers n = [n] := by
    decide +kernel
  have hmem : n ∈ List.range' leadBase (tailBase + tailCount - leadBase) := by
    refine List.mem_range'_1.mpr ⟨hfirst, ?_⟩
    unfold tailBase tailCount leadBase at *
    omega
  exact isPrime_ofNat (hletters n hmem).1 (hletters n hmem).2

theorem isPrime_toNat (hfirst : leadBase ≤ c.toNat) (hlast : c.toNat < tailBase + tailCount) :
    IsPrime c := by
  simpa using isPrime_of_letter hfirst hlast

theorem decomposeChar_of_isSyllable (h : isSyllable c.toNat = true) :
    decomposeChar c = (syllableParts c.toNat).map Char.ofNat := by
  have hplain : ¬ c.toNat < 0xC0 := by
    simp only [isSyllable, Bool.and_eq_true, decide_eq_true_eq] at h
    unfold syllableBase at h
    omega
  rw [decomposeChar, if_neg hplain, if_pos h]

/-- A syllable is taken apart into its letters, each given by its place in its row. -/
theorem decomposeChar_syllable {lead vowel tail : Nat} (hlead : lead < leadCount)
    (hvowel : vowel < vowelCount) (htail : tail < tailCount) :
    decomposeChar
        (Char.ofNat (syllableBase + (lead * vowelCount + vowel) * tailCount + tail)) =
      [Char.ofNat (leadBase + lead), Char.ofNat (vowelBase + vowel)] ++
        if tail = 0 then [] else [Char.ofNat (tailBase + tail)] := by
  unfold leadCount vowelCount tailCount at *
  have hvalid : syllableBase + (lead * 21 + vowel) * 28 + tail < 0xD800 := by
    unfold syllableBase
    omega
  have hsyllable : isSyllable (syllableBase + (lead * 21 + vowel) * 28 + tail) = true := by
    unfold isSyllable leadCount vowelCount tailCount
    simp only [Bool.and_eq_true, decide_eq_true_eq]
    omega
  rw [decomposeChar_of_isSyllable (by rwa [toNat_ofNat (.inl hvalid)]),
    toNat_ofNat (.inl hvalid)]
  have hlead : ((lead * 21 + vowel) * 28 + tail) / (21 * 28) = lead := by omega
  have hmiddle : ((lead * 21 + vowel) * 28 + tail) / 28 % 21 = vowel := by omega
  have hlast : ((lead * 21 + vowel) * 28 + tail) % 28 = tail := by omega
  have hoffset : syllableBase + (lead * 21 + vowel) * 28 + tail - syllableBase =
      (lead * 21 + vowel) * 28 + tail := by omega
  simp only [syllableParts, vowelCount, tailCount, hoffset, hlead, hmiddle, hlast]
  split <;> rfl

theorem isPrime_of_mem_decomposeChar (h : d ∈ decomposeChar c) : IsPrime d := by
  have hself (hc : decomposeChar c = [c]) : IsPrime d := by
    rw [hc] at h
    rwa [List.mem_singleton.mp h]
  by_cases hplain : c.toNat < 0xC0
  · exact hself (if_pos hplain)
  · cases hsyllable : isSyllable c.toNat with
    | true =>
        rw [decomposeChar_of_isSyllable hsyllable] at h
        obtain ⟨n, hn, rfl⟩ := List.mem_map.mp h
        obtain ⟨hfirst, hlast⟩ := mem_syllableParts hsyllable hn
        exact isPrime_of_letter hfirst hlast
    | false =>
        have hrow := decomposeChar.eq_1 c
        rw [if_neg hplain, hsyllable, if_neg Bool.false_ne_true] at hrow
        split at hrow
        · rename_i parts hparts
          rw [hrow] at h
          obtain ⟨n, hn, rfl⟩ := List.mem_map.mp h
          obtain ⟨hvalid, hself⟩ := isPrime_parts _ _ (mem_of_lookup_eq_some hparts) n hn
          exact isPrime_ofNat hvalid hself
        · exact hself hrow

theorem isPrime_of_mem_decompose (h : d ∈ decompose s) : IsPrime d := by
  obtain ⟨c, -, hd⟩ := List.mem_flatMap.mp h
  exact isPrime_of_mem_decomposeChar hd

theorem decompose_of_isPrime (h : ∀ c ∈ s, IsPrime c) : decompose s = s := by
  rw [decompose, List.flatMap_congr h, List.flatMap_singleton']

theorem partNumbers_rows (second : Nat) :
    ∀ row ∈ composites second, (row.1.isValidChar ∧ row.2.isValidChar ∧ second.isValidChar)
      ∧ partNumbers row.2 = partNumbers row.1 ++ partNumbers second := by
  unfold composites
  split
  all_goals first | decide +kernel | simp

theorem decomposeChar_rows {second : Nat} {row : Nat × Nat} (h : row ∈ composites second) :
    decomposeChar (Char.ofNat row.2) =
      decomposeChar (Char.ofNat row.1) ++ decomposeChar (Char.ofNat second) := by
  obtain ⟨⟨hfirst, hjoined, hsecond⟩, hparts⟩ := partNumbers_rows second row h
  rw [decomposeChar_ofNat hfirst, decomposeChar_ofNat hjoined, decomposeChar_ofNat hsecond,
    hparts, List.map_append]

theorem decomposeChar_of_syllable? {n : Nat} (h : syllable? x.toNat y.toNat = some n) :
    decomposeChar (Char.ofNat n) = decomposeChar x ++ decomposeChar y := by
  unfold syllable? at h
  split at h
  · -- A leading letter and a vowel.
    rename_i hletters
    simp only [Bool.and_eq_true, decide_eq_true_eq] at hletters
    obtain ⟨⟨⟨hleadFirst, hleadLast⟩, hvowelFirst⟩, hvowelLast⟩ := hletters
    have hx : IsPrime x := isPrime_toNat hleadFirst (by
      unfold leadBase leadCount tailBase tailCount at *
      omega)
    have hy : IsPrime y := isPrime_toNat (by unfold leadBase vowelBase at *; omega) (by
      unfold vowelBase vowelCount tailBase tailCount at *
      omega)
    have hlead : x.toNat - leadBase < leadCount := by omega
    have hvowel : y.toNat - vowelBase < vowelCount := by omega
    have hjoined := decomposeChar_syllable hlead hvowel (show 0 < tailCount by decide)
    rw [Nat.add_zero, Option.some.inj h, Nat.add_sub_cancel' hleadFirst,
      Nat.add_sub_cancel' hvowelFirst, Char.ofNat_toNat, Char.ofNat_toNat] at hjoined
    rw [hx, hy]
    exact hjoined
  · split at h
    · -- A syllable without a tail, and a tail.
      rename_i hsyllable
      simp only [isSyllable, Bool.and_eq_true, decide_eq_true_eq] at hsyllable
      obtain ⟨⟨⟨⟨hfirst, hlast⟩, hopen⟩, htailFirst⟩, htailLast⟩ := hsyllable
      have hy : IsPrime y := isPrime_toNat (by unfold leadBase tailBase at *; omega) htailLast
      obtain ⟨lead, vowel, hlead, hvowel, hx⟩ : ∃ lead vowel, lead < leadCount ∧
          vowel < vowelCount ∧
          x.toNat = syllableBase + (lead * vowelCount + vowel) * tailCount := by
        unfold leadCount vowelCount tailCount at *
        exact ⟨(x.toNat - syllableBase) / 28 / 21, (x.toNat - syllableBase) / 28 % 21,
          by omega, by omega, by omega⟩
      have hwhole := decomposeChar_syllable hlead hvowel (show 0 < tailCount by decide)
      have htail : y.toNat - tailBase < tailCount := by omega
      have hjoined := decomposeChar_syllable hlead hvowel htail
      rw [← hx, Option.some.inj h, Nat.add_sub_cancel' (Nat.le_of_lt htailFirst),
        if_neg (by omega), Char.ofNat_toNat] at hjoined
      rw [Nat.add_zero, ← hx, Char.ofNat_toNat, if_pos rfl] at hwhole
      rw [hjoined, hwhole, hy, List.append_nil]
    · cases h

theorem decomposeChar_of_composePair? (h : composePair? x y = some z) :
    decomposeChar z = decomposeChar x ++ decomposeChar y := by
  unfold composePair? at h
  split at h
  · rename_i joined hjoined
    cases h
    simpa using decomposeChar_rows (mem_of_lookup_eq_some hjoined)
  · obtain ⟨n, hn, rfl⟩ := Option.map_eq_some_iff.mp h
    exact decomposeChar_of_syllable? hn

/-- A property is stable if the rows of the table say so and it does not tell Hangul apart. -/
theorem isStable_of_rows {P : Char → Prop}
    (hrows : ∀ page, ∀ row ∈ decompositionPage page,
      ((∀ n ∈ row.2, P (Char.ofNat n)) ↔ P (Char.ofNat row.1)))
    (hhangul : ∀ c d, IsHangul c → IsHangul d → (P c ↔ P d)) : IsStable P := by
  have hparts (c : Char) : (∀ d ∈ decomposeChar c, P d) ↔ P c :=
    of_decomposeChar (P := fun c parts => (∀ d ∈ parts, P d) ↔ P c) (by simp)
      (fun page row hrow => by rw [List.forall_mem_map, hrows page row hrow])
      fun c parts hc hsome hall => by
        obtain ⟨d, hd⟩ := List.exists_mem_of_ne_nil parts hsome
        exact ⟨fun h => (hhangul d c (hall d hd) hc).mp (h d hd),
          fun h e he => (hhangul c e hc (hall e he)).mp h⟩
  refine ⟨fun hjoined => ?_, hparts⟩
  rw [← hparts, decomposeChar_of_composePair? hjoined, List.forall_mem_append, hparts, hparts]

/-- No mark would pass over the one before it. -/
def IsOrdered (s : List Char) : Prop :=
  s.IsChain fun c d => ¬ (0 < markClass d ∧ markClass d < markClass c)

theorem settleMark_of_isOrdered (h : IsOrdered (c :: s)) : settleMark c s = c :: s := by
  cases s with
  | nil => rfl
  | cons d rest =>
      have hstays := (List.isChain_cons_cons.mp h).1
      rw [settleMark, if_neg (by simpa using hstays)]

theorem IsOrdered.settleMark (h : IsOrdered s) : IsOrdered (settleMark c s) := by
  induction s with
  | nil => exact List.isChain_singleton _
  | cons d rest ih =>
      unfold Text.settleMark
      split
      · rename_i hpasses
        simp only [Bool.and_eq_true, decide_eq_true_eq] at hpasses
        refine List.isChain_cons.mpr ⟨fun e he => ?_, ih h.tail⟩
        -- What follows `d` now is `c`, which it precedes, or what followed it before.
        cases rest with
        | nil =>
            cases he
            omega
        | cons f others =>
            have hbefore := (List.isChain_cons_cons.mp h).1
            unfold Text.settleMark at he
            split at he <;> cases he
            · exact hbefore
            · omega
      · rename_i hstays
        exact List.isChain_cons_cons.mpr ⟨by simpa using hstays, h⟩

theorem isOrdered_orderMarks (s : List Char) : IsOrdered (orderMarks s) := by
  induction s with
  | nil => exact List.isChain_nil
  | cons c rest ih => exact ih.settleMark

theorem orderMarks_of_isOrdered (h : IsOrdered s) : orderMarks s = s := by
  induction s with
  | nil => rfl
  | cons c rest ih => rw [orderMarks, ih h.tail, settleMark_of_isOrdered h]

@[simp] theorem orderMarks_orderMarks (s : List Char) :
    orderMarks (orderMarks s) = orderMarks s :=
  orderMarks_of_isOrdered (isOrdered_orderMarks s)

theorem orderMarks_append_congr (front : List Char) (h : orderMarks s = orderMarks t) :
    orderMarks (front ++ s) = orderMarks (front ++ t) := by
  induction front with
  | nil => exact h
  | cons c rest ih => rw [List.cons_append, List.cons_append, orderMarks, orderMarks, ih]

/-- Marks of different classes come to stand as they do whichever is put in first. -/
theorem settleMark_comm (hc : 0 < markClass c) (h : markClass c < markClass d) :
    settleMark c (settleMark d s) = settleMark d (settleMark c s) := by
  have hpass (rest : List Char) : settleMark d (c :: rest) = c :: settleMark d rest := by
    simp [settleMark, hc, h]
  have hstay (rest : List Char) : settleMark c (d :: rest) = c :: d :: rest := by
    simp [settleMark, Nat.lt_asymm h]
  induction s with
  | nil => rw [settleMark, settleMark, hpass, hstay, settleMark]
  | cons e rest ih =>
      by_cases hed : 0 < markClass e ∧ markClass e < markClass d
      · have hde (rest : List Char) : settleMark d (e :: rest) = e :: settleMark d rest := by
          simp [settleMark, hed]
        by_cases hec : markClass e < markClass c
        · have hce (rest : List Char) : settleMark c (e :: rest) = e :: settleMark c rest := by
            simp [settleMark, hed, hec]
          rw [hde, hce, hce, hde, ih]
        · have hce (rest : List Char) : settleMark c (e :: rest) = c :: e :: rest := by
            simp [settleMark, hec]
          rw [hde, hce, hce, hpass, hde]
      · have hde : settleMark d (e :: rest) = d :: e :: rest := by
          simp [settleMark, hed]
        have hce : settleMark c (e :: rest) = c :: e :: rest := by
          have hec : ¬ (0 < markClass e ∧ markClass e < markClass c) := by omega
          simp [settleMark, hec]
        rw [hde, hce, hstay, hpass, hde]

/-- A mark may as well stand before marks of lower classes. -/
theorem orderMarks_pass (h : ∀ d ∈ held, 0 < markClass d ∧ markClass d < markClass c) :
    orderMarks (held ++ c :: s) = orderMarks (c :: (held ++ s)) := by
  induction held with
  | nil => rfl
  | cons d rest ih =>
      obtain ⟨hd, hrest⟩ := List.forall_mem_cons.mp h
      rw [List.cons_append, orderMarks, ih hrest]
      exact settleMark_comm hd.1 hd.2

/-- What a text is taken apart into, with the marks in order. -/
def parts (s : List Char) : List Char :=
  orderMarks (decompose s)

theorem compose_eq (s : List Char) : compose s = composeMarks (parts s) := rfl

theorem parts_cons (c : Char) (s : List Char) :
    parts (c :: s) = orderMarks (decomposeChar c ++ decompose s) := rfl

theorem parts_append_congr (front : List Char) (h : parts s = parts t) :
    parts (front ++ s) = parts (front ++ t) := by
  unfold parts
  rw [decompose_append, decompose_append]
  exact orderMarks_append_congr _ h

/-- The marks that are held back behind a base, up to the class `last`. -/
structure AreHeld (held : List Char) (last : Nat) : Prop where
  prime : ∀ c ∈ held, IsPrime c
  marks : ∀ c ∈ held, 0 < markClass c
  le_last : ∀ c ∈ held, markClass c ≤ last
  eq_nil : last = 0 → held = []

theorem areHeld_nil : AreHeld [] 0 :=
  ⟨by simp, by simp, by simp, fun _ => rfl⟩

theorem AreHeld.append (h : AreHeld held last) (hprime : IsPrime c) (hmark : 0 < markClass c)
    {next : Nat} (hlast : last ≤ next) (hnext : markClass c ≤ next) :
    AreHeld (held ++ [c]) next where
  prime := by simpa [or_imp, forall_and] using ⟨h.prime, hprime⟩
  marks := by simpa [or_imp, forall_and] using ⟨h.marks, hmark⟩
  le_last := by
    simpa [or_imp, forall_and] using
      ⟨fun d hd => Nat.le_trans (h.le_last d hd) hlast, hnext⟩
  eq_nil := by
    intro hzero
    omega

/-- What joins the base passes over the marks that are held back. -/
theorem AreHeld.parts_join (h : AreHeld held last) (hprime : IsPrime c)
    (hpasses : last = 0 ∨ last < markClass c) (hjoined : composePair? base c = some z) :
    parts (z :: (held ++ s)) = parts (base :: (held ++ c :: s)) := by
  have hmoved : orderMarks (c :: (held ++ decompose s)) =
      orderMarks (held ++ c :: decompose s) := by
    rcases hpasses with hnone | hlast
    · rw [h.eq_nil hnone]
      rfl
    · exact (orderMarks_pass fun d hd =>
        ⟨h.marks d hd, Nat.lt_of_le_of_lt (h.le_last d hd) hlast⟩).symm
  have hheld : decompose held = held := decompose_of_isPrime h.prime
  have hc : decompose (c :: s) = c :: decompose s := congrArg (· ++ decompose s) hprime
  rw [parts_cons, parts_cons, decomposeChar_of_composePair? hjoined, hprime, decompose_append,
    decompose_append, hheld, hc, List.append_assoc]
  exact orderMarks_append_congr _ hmoved

theorem parts_composeFrom (hheld : AreHeld held last) (hs : ∀ c ∈ s, IsPrime c) :
    parts (composeFrom base held last s) = parts (base :: (held ++ s)) := by
  induction s generalizing base held last with
  | nil => rw [composeFrom, List.append_nil]
  | cons c rest ih =>
      obtain ⟨hc, hrest⟩ := List.forall_mem_cons.mp hs
      have hopened : parts (base :: held ++ composeFrom c [] 0 rest) =
          parts (base :: (held ++ c :: rest)) :=
        parts_append_congr (base :: held) (ih areHeld_nil hrest)
      have hkept {next : Nat} (hmark : markClass c ≠ 0) (hlast : last ≤ next)
          (hnext : markClass c ≤ next) :
          parts (composeFrom base (held ++ [c]) next rest) =
            parts (base :: (held ++ c :: rest)) := by
        rw [ih (hheld.append hc (Nat.pos_of_ne_zero hmark) hlast hnext) hrest,
          List.append_assoc, List.singleton_append]
      unfold composeFrom
      split
      · rename_i hpasses
        simp only [Bool.or_eq_true, decide_eq_true_eq] at hpasses
        split
        · rename_i joined hjoined
          rw [ih hheld hrest, hheld.parts_join hc hpasses hjoined]
        · split
          · exact hopened
          · rename_i hmark
            exact hkept hmark (by omega) (Nat.le_refl _)
      · rename_i hblocked
        simp only [Bool.or_eq_true, decide_eq_true_eq] at hblocked
        split
        · exact hopened
        · rename_i hmark
          exact hkept hmark (Nat.le_refl _) (by omega)

theorem isPrime_of_mem_parts (h : c ∈ parts s) : IsPrime c :=
  isPrime_of_mem_decompose ((orderMarks_perm _).mem_iff.mp h)

@[simp] theorem parts_parts (s : List Char) : parts (parts s) = parts s := by
  have hprime : decompose (parts s) = parts s :=
    decompose_of_isPrime fun _ hc => isPrime_of_mem_parts hc
  rw [parts, hprime]
  exact orderMarks_orderMarks _

/-- A text and its composition have the same parts. -/
@[simp] theorem parts_compose (s : List Char) : parts (compose s) = parts s := by
  have hjoined : parts (composeMarks (parts s)) = parts (parts s) := by
    cases hparts : parts s with
    | nil => rfl
    | cons c rest =>
        refine parts_composeFrom areHeld_nil fun d hd => isPrime_of_mem_parts (s := s) ?_
        exact hparts ▸ List.mem_cons_of_mem c hd
  rw [compose_eq, hjoined, parts_parts]

@[simp] theorem compose_compose (s : List Char) : compose (compose s) = compose s := by
  rw [compose_eq (compose s), parts_compose, ← compose_eq]

/-! Where a composed text is cut, both sides are composed: neither can take anything from
the other, as a text has as many parts as its composition. -/

theorem eq_nil_of_decompose (h : decompose s = []) : s = [] :=
  List.eq_nil_iff_forall_not_mem.mpr fun c hc =>
    decomposeChar_ne_nil (List.flatMap_eq_nil_iff.mp h c hc)

theorem length_decompose_compose (s : List Char) :
    (decompose (compose s)).length = (decompose s).length := by
  have hordered (s : List Char) : (parts s).length = (decompose s).length :=
    (orderMarks_perm _).length_eq
  rw [← hordered, parts_compose, hordered]

theorem eq_of_append_compose (h : front ++ compose s = t ++ s) : front = t ∧ compose s = s := by
  have hlength := length_decompose_compose s
  rcases List.append_eq_append_iff.mp h with ⟨middle, ht, hs⟩ | ⟨middle, hfront, hs⟩
  · have hnil : middle = [] := by
      rw [hs, decompose_append, List.length_append] at hlength
      exact eq_nil_of_decompose (List.length_eq_zero_iff.mp (by omega))
    subst hnil
    exact ⟨by simpa using ht.symm, by simpa using hs⟩
  · have hnil : middle = [] := by
      have hparts := congrArg (fun s => (decompose s).length) hs
      simp only [decompose_append, List.length_append] at hparts
      exact eq_nil_of_decompose (List.length_eq_zero_iff.mp (by omega))
    subst hnil
    exact ⟨by simpa using hfront, by simpa using hs.symm⟩

theorem compose_append_eq_self (hopens : Opens after) :
    compose (s ++ after) = s ++ after ↔ compose s = s ∧ compose after = after := by
  rw [compose_append hopens]
  exact ⟨eq_of_append_compose, fun ⟨hs, hafter⟩ => by rw [hs, hafter]⟩

theorem compose_trim_of_eq_self (h : compose s = s) : compose (trim s) = trim s := by
  obtain ⟨front, back, hfront, hback, hs⟩ := exists_trimBy isBlank s
  have hcut : (decompose front ++ compose (trim s)) ++ decompose back =
      (front ++ trim s) ++ back := by
    rw [← compose_between_blanks hfront hback]
    exact (congrArg compose hs).symm.trans (h.trans hs)
  have hblanks : decompose back = compose back := by
    have hall := compose_append_apart (s := []) fun c hc =>
      isApart_of_isBlank (isBlank_of_mem_decompose hback c hc)
    simpa using hall.symm
  rw [hblanks] at hcut
  exact (eq_of_append_compose (eq_of_append_compose hcut).1).2

end SutraArbiter.Text
