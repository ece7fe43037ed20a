import SutraArbiter.Proofs.Text.Composition

namespace SutraArbiter.Text

/-! What taking apart, ordering and joining make of the characters of a text.  A property
of characters is carried through the three steps by what it is in the tables and among the
letters and syllables of Hangul. -/

variable {c d x y z : Char} {s after : List Char}

def IsHangul (c : Char) : Prop :=
  leadBase ≤ c.toNat ∧ c.toNat < tailBase + tailCount
    ∨ syllableBase ≤ c.toNat ∧ c.toNat < syllableBase + leadCount * vowelCount * tailCount

theorem toNat_ofNat {n : Nat} (h : n.isValidChar) : (Char.ofNat n).toNat = n := by
  rw [Char.ofNat, dif_pos h]
  rfl

theorem toNat_ofNat_or (n : Nat) : (Char.ofNat n).toNat = n ∨ Char.ofNat n = Char.ofNat 0 := by
  by_cases hvalid : n.isValidChar
  · exact .inl (toNat_ofNat hvalid)
  · refine .inr ?_
    rw [Char.ofNat, dif_neg hvalid]
    rfl

theorem isHangul_of_syllable? {n : Nat} (h : syllable? x.toNat y.toNat = some n) :
    IsHangul x ∧ IsHangul y ∧ IsHangul (Char.ofNat n) := by
  have hjoined : syllableBase ≤ n ∧ n < syllableBase + leadCount * vowelCount * tailCount := by
    unfold syllable? isSyllable at h
    split at h
    · rename_i hletters
      simp only [Bool.and_eq_true, decide_eq_true_eq] at hletters
      have hn := Option.some.inj h
      unfold leadBase leadCount vowelBase vowelCount tailCount syllableBase at *
      omega
    · split at h
      · rename_i hsyllable
        simp only [Bool.and_eq_true, decide_eq_true_eq] at hsyllable
        have hn := Option.some.inj h
        unfold tailBase leadCount vowelCount tailCount syllableBase at *
        omega
      · cases h
  have hvalid : n < 0xD800 := by
    unfold leadCount vowelCount tailCount syllableBase at hjoined
    omega
  refine ⟨?_, ?_, .inr (by rwa [toNat_ofNat (.inl hvalid)])⟩
  · by_contra hx
    rw [syllable?_of_isOutsideHangul] at h
    · cases h
    · unfold IsHangul at hx
      unfold IsOutsideHangul
      unfold leadBase leadCount tailBase vowelCount tailCount syllableBase at *
      omega
  · by_contra hy
    rw [syllable?_of_second] at h
    · cases h
    · unfold IsHangul at hy
      unfold leadBase leadCount tailBase vowelBase vowelCount tailCount syllableBase at *
      omega

theorem mem_of_lookup_eq_some {α β : Type} [BEq α] [LawfulBEq α] {pairs : List (α × β)} {key : α}
    {value : β} (h : pairs.lookup key = some value) : (key, value) ∈ pairs := by
  obtain ⟨front, back, hpairs, -⟩ := List.lookup_eq_some_iff.mp h
  rw [hpairs]
  exact List.mem_append_right front List.mem_cons_self

/-- What holds of every row of the table, and of Hangul, holds wherever two characters are
joined. -/
theorem of_composePair? {P : Char → Char → Char → Prop}
    (hrows : ∀ second, ∀ row ∈ composites second,
      P (Char.ofNat row.1) (Char.ofNat second) (Char.ofNat row.2))
    (hhangul : ∀ x y z, IsHangul x → IsHangul y → IsHangul z → P x y z)
    (h : composePair? x y = some z) : P x y z := by
  unfold composePair? at h
  split at h
  · rename_i joined hjoined
    cases h
    simpa using hrows y.toNat _ (mem_of_lookup_eq_some hjoined)
  · obtain ⟨n, hn, rfl⟩ := Option.map_eq_some_iff.mp h
    obtain ⟨hx, hy, hz⟩ := isHangul_of_syllable? hn
    exact hhangul x y _ hx hy hz

theorem isHangul_ofNat {n : Nat} (hfirst : leadBase ≤ n) (hlast : n < tailBase + tailCount) :
    IsHangul (Char.ofNat n) := by
  have hvalid : n < 0xD800 := by
    unfold tailBase tailCount at hlast
    omega
  exact .inl (by rw [toNat_ofNat (.inl hvalid)]; exact ⟨hfirst, hlast⟩)

theorem mem_syllableParts {n m : Nat} (h : isSyllable n = true) (hm : m ∈ syllableParts n) :
    leadBase ≤ m ∧ m < tailBase + tailCount := by
  simp only [isSyllable, Bool.and_eq_true, decide_eq_true_eq] at h
  have hparts : m = leadBase + (n - syllableBase) / (vowelCount * tailCount)
      ∨ m = vowelBase + (n - syllableBase) / tailCount % vowelCount
      ∨ m = tailBase + (n - syllableBase) % tailCount := by
    simp only [syllableParts] at hm
    split at hm
    · exact (List.mem_pair.mp hm).imp_right .inl
    · simpa using hm
  unfold leadBase vowelBase tailBase leadCount vowelCount tailCount syllableBase at *
  omega

theorem isHangul_of_mem_syllableParts {n m : Nat} (h : isSyllable n = true)
    (hm : m ∈ syllableParts n) : IsHangul (Char.ofNat m) :=
  isHangul_ofNat (mem_syllableParts h hm).1 (mem_syllableParts h hm).2

/-- What holds of a character that stays, of every row of the table, and of Hangul, holds of
a character and what it is taken apart into. -/
theorem of_decomposeChar {P : Char → List Char → Prop} (hself : ∀ c, P c [c])
    (hrows : ∀ page, ∀ row ∈ decompositionPage page, P (Char.ofNat row.1) (row.2.map Char.ofNat))
    (hhangul : ∀ c parts, IsHangul c → parts ≠ [] → (∀ d ∈ parts, IsHangul d) → P c parts) :
    P c (decomposeChar c) := by
  unfold decomposeChar
  split
  · exact hself c
  · split
    · rename_i hplain hsyllable
      refine hhangul _ _ (.inr (by simpa [isSyllable] using hsyllable)) ?_ ?_
      · simp only [syllableParts]
        split <;> simp
      · exact List.forall_mem_map.mpr fun m hm => isHangul_of_mem_syllableParts hsyllable hm
    · split
      · rename_i parts hparts
        simpa using hrows _ _ (mem_of_lookup_eq_some hparts)
      · exact hself c

/-- The second text is the first with some of its pairs joined, in whatever order. -/
inductive Fuses : List Char → List Char → Prop
  | perm {s t : List Char} (h : s.Perm t) : Fuses s t
  | join {s t : List Char} {x y z : Char} (rest : List Char) (h : s.Perm (x :: y :: rest))
      (hjoined : composePair? x y = some z) (hrest : Fuses (z :: rest) t) : Fuses s t

namespace Fuses

variable {t u : List Char} {P : Char → Prop}

theorem of_perm (h : u.Perm s) (hfuses : Fuses s t) : Fuses u t := by
  cases hfuses with
  | perm hst => exact .perm (h.trans hst)
  | join rest hs hjoined hrest => exact .join rest (h.trans hs) hjoined hrest

theorem append_left (front : List Char) (h : Fuses s t) : Fuses (front ++ s) (front ++ t) := by
  induction h with
  | perm hst => exact .perm (hst.append_left front)
  | join rest hs hjoined _ ih =>
      refine .join (front ++ rest) ?_ hjoined (of_perm List.perm_middle.symm ih)
      exact (hs.append_left front).trans (List.perm_middle.trans (List.perm_middle.cons _))

theorem forall_mem (hjoin : ∀ x y z, composePair? x y = some z → P x → P y → P z)
    (h : Fuses s t) (hs : ∀ c ∈ s, P c) : ∀ c ∈ t, P c := by
  induction h with
  | perm hst => exact fun c hc => hs c (hst.mem_iff.mpr hc)
  | join rest hsplit hjoined _ ih =>
      simp only [hsplit.mem_iff, List.forall_mem_cons] at hs
      exact ih (List.forall_mem_cons.mpr ⟨hjoin _ _ _ hjoined hs.1 hs.2.1, hs.2.2⟩)

theorem forall_mem_of (hjoin : ∀ x y z, composePair? x y = some z → P z → P x ∧ P y)
    (h : Fuses s t) (ht : ∀ c ∈ t, P c) : ∀ c ∈ s, P c := by
  induction h with
  | perm hst => exact fun c hc => ht c (hst.mem_iff.mp hc)
  | join rest hsplit hjoined _ ih =>
      obtain ⟨hz, hrest⟩ := List.forall_mem_cons.mp (ih ht)
      obtain ⟨hx, hy⟩ := hjoin _ _ _ hjoined hz
      simp only [hsplit.mem_iff, List.forall_mem_cons]
      exact ⟨hx, hy, hrest⟩

end Fuses

theorem settleMark_perm (c : Char) (s : List Char) : (settleMark c s).Perm (c :: s) := by
  induction s with
  | nil => exact .refl _
  | cons d rest ih =>
      unfold settleMark
      split
      · exact (ih.cons d).trans (.swap c d rest)
      · exact .refl _

theorem orderMarks_perm (s : List Char) : (orderMarks s).Perm s := by
  induction s with
  | nil => exact .refl _
  | cons c rest ih => exact (settleMark_perm c _).trans (ih.cons c)

theorem fuses_composeFrom (base : Char) (held : List Char) (last : Nat) (s : List Char) :
    Fuses (base :: held ++ s) (composeFrom base held last s) := by
  induction s generalizing base held last with
  | nil => simpa [composeFrom] using Fuses.perm (.refl (base :: held))
  | cons c rest ih =>
      have hopened : Fuses (base :: held ++ c :: rest) (base :: held ++ composeFrom c [] 0 rest) :=
        (ih c [] 0).append_left (base :: held)
      have hheld (last : Nat) :
          Fuses (base :: held ++ c :: rest) (composeFrom base (held ++ [c]) last rest) := by
        simpa using ih base (held ++ [c]) last
      unfold composeFrom
      split
      · split
        · rename_i joined hjoined
          exact .join (held ++ rest) (List.perm_middle.cons base) hjoined (ih joined held last)
        · split
          · exact hopened
          · exact hheld _
      · split
        · exact hopened
        · exact hheld _

theorem fuses_composeMarks (s : List Char) : Fuses s (composeMarks s) := by
  cases s with
  | nil => exact .perm (.refl [])
  | cons c rest => exact fuses_composeFrom c [] 0 rest

theorem fuses_compose (s : List Char) : Fuses (decompose s) (compose s) :=
  (fuses_composeMarks _).of_perm (orderMarks_perm _).symm

/-- The first of the marks that a text begins with has no base to join. -/
theorem exists_isCombining_compose {mark : Char} (h : mark ∈ (decompose s).head?)
    (hmark : isCombining mark = true) : ∃ c ∈ compose s, isCombining c = true := by
  obtain ⟨rest, hparts⟩ := List.head?_eq_some_iff.mp h
  obtain ⟨c, others, hordered, hc⟩ :
      ∃ c others, settleMark mark (orderMarks rest) = c :: others ∧ isCombining c = true := by
    cases orderMarks rest with
    | nil => exact ⟨mark, [], rfl, hmark⟩
    | cons d others =>
        unfold settleMark
        split
        · rename_i hpasses
          simp only [Bool.and_eq_true, decide_eq_true_eq] at hpasses
          exact ⟨d, _, rfl, by simpa [isCombining] using Nat.ne_of_gt hpasses.1⟩
        · exact ⟨mark, _, rfl, hmark⟩
  refine ⟨c, ?_, hc⟩
  rw [compose, hparts, orderMarks, hordered, composeMarks_eq]
  simp [hc]

/-- A property that joined characters have exactly if their parts do. -/
structure IsStable (P : Char → Prop) : Prop where
  joined : ∀ {x y z}, composePair? x y = some z → (P z ↔ P x ∧ P y)
  parts : ∀ c, (∀ d ∈ decomposeChar c, P d) ↔ P c

theorem IsStable.forall_mem_decompose {P : Char → Prop} (h : IsStable P) :
    (∀ c ∈ decompose s, P c) ↔ ∀ c ∈ s, P c := by
  simp only [decompose, List.forall_mem_flatMap, h.parts]

theorem IsStable.forall_mem_compose {P : Char → Prop} (h : IsStable P) :
    (∀ c ∈ compose s, P c) ↔ ∀ c ∈ s, P c := by
  have hfuses : (∀ c ∈ compose s, P c) ↔ ∀ c ∈ decompose s, P c :=
    ⟨(fuses_compose s).forall_mem_of fun x y z hxyz => (h.joined hxyz).mp,
      (fuses_compose s).forall_mem fun x y z hxyz hx hy => (h.joined hxyz).mpr ⟨hx, hy⟩⟩
  rw [hfuses, h.forall_mem_decompose]

/-- What stands before the text joins nothing in it. -/
def Opens (s : List Char) : Prop :=
  ∀ c ∈ (decompose s).head?, IsOpening c

theorem compose_append (h : Opens after) : compose (s ++ after) = compose s ++ compose after := by
  unfold Opens at h
  unfold compose
  rw [decompose_append]
  cases hafter : decompose after with
  | nil => simp [orderMarks, composeMarks]
  | cons c rest =>
      have hc : IsOpening c := h c (by simp [hafter])
      have hordered : orderMarks (c :: rest) = c :: orderMarks rest := settleMark_of_base hc.base
      rw [orderMarks_append hc.base, composeMarks_append_of_isOpening hc, hordered]

theorem ne_nil_of_mem_decompositionPage (page : Nat) :
    ∀ row ∈ decompositionPage page, row.2 ≠ [] := by
  unfold decompositionPage
  split
  all_goals decide +kernel

theorem decomposeChar_ne_nil : decomposeChar c ≠ [] :=
  of_decomposeChar (P := fun _ parts => parts ≠ []) (by simp)
    (fun page row hrow => by simpa using ne_nil_of_mem_decompositionPage page row hrow)
    fun _ _ _ hsome _ => hsome

theorem opens_nil : Opens [] := by
  simp [Opens, decompose]

theorem opens_cons (h : Opens [c]) : Opens (c :: s) := by
  unfold Opens decompose at *
  rw [List.flatMap_cons, List.head?_append_of_ne_nil _ decomposeChar_ne_nil]
  simpa using h

end SutraArbiter.Text
