import SutraArbiter.Proofs.Script.Alphabets
import SutraArbiter.Proofs.Text.Letters
import SutraArbiter.Proofs.Word.Usable

namespace SutraArbiter

/-! A word is found in the list of its script in which its text stands: the normal form of a
text is in the script of the text. -/

namespace Text

variable {c : Char} {s before : List Char} {P : Char → Prop}

theorem forall_mem_trim (h : ∀ c ∈ s, P c) : ∀ c ∈ trim s, P c := by
  obtain ⟨front, back, -, -, hs⟩ := exists_trimBy isBlank s
  intro c hc
  refine h c ?_
  rw [hs]
  exact List.mem_append_left _ (List.mem_append_right _ hc)

theorem exists_mem_trim :
    (∃ c ∈ trim s, isSeparator c = false) ↔ ∃ c ∈ s, isSeparator c = false := by
  constructor
  · rintro ⟨c, hc, hletter⟩
    exact ⟨c, forall_mem_trim (P := (· ∈ s)) (fun _ h => h) c hc, hletter⟩
  · rintro ⟨c, hc, hletter⟩
    obtain ⟨front, back, hfront, hback, hs⟩ := exists_trimBy isBlank s
    have hshown := (isSeparator_eq_false.mp hletter).2
    rw [hs, List.mem_append, List.mem_append] at hc
    rcases hc with (hc | hc) | hc
    · simp [hfront c hc] at hshown
    · exact ⟨c, hc, hletter⟩
    · simp [hback c hc] at hshown

/-- Where no letter has a case rule of its own, each is taken to its small form. -/
theorem lowerFrom_eq_map (h : ∀ c ∈ s, c ≠ 'Σ' ∧ c ≠ 'İ') :
    lowerFrom before s = s.map lowerLetter := by
  induction s generalizing before with
  | nil => rfl
  | cons c rest ih =>
      obtain ⟨⟨hsigma, hdot⟩, hrest⟩ := List.forall_mem_cons.mp h
      rw [lowerFrom, lowerBetween, if_neg hsigma, if_neg hdot, ih hrest]
      rfl

end Text

namespace Script

open Text

variable {c : Char} {s : List Char}

/-- No letter of the alphabet has case. -/
theorem isSmall_of_isDevanagari (h : isDevanagari c = true) : IsSmall c := by
  have hruns : ∀ run ∈ caseRuns, (run.last < 0x900 ∨ 0x97F < run.first)
      ∧ (run.last < 0x200C ∨ 0x200D < run.first) := by
    decide +kernel
  simp only [isDevanagari, Bool.or_eq_true, Bool.and_eq_true, decide_eq_true_eq] at h
  refine ⟨?_, lowerLetter_of_forall_not_covers fun run hrun hcovers => ?_⟩
  · rintro rfl
    revert h
    decide
  · have hclear := hruns run hrun
    obtain ⟨hfirst, hlast, -⟩ := hcovers
    omega

theorem isSmall_of_isSeparator (h : isSeparator c = true) : IsSmall c := by
  rcases isSeparator_eq_true.mp h with rfl | hblank
  · decide
  · exact isSmall_of_isBlank hblank

theorem hasNoRule_of_isIast (h : isIast c = true) : c ≠ 'Σ' ∧ c ≠ 'İ' :=
  forall_isIast (P := fun c => c ≠ 'Σ' ∧ c ≠ 'İ') (by decide) h

theorem isIast_lowerLetter (h : isIast c = true) : isIast (lowerLetter c) = true := by
  have hletters : ∀ n ∈ letterNumbers, isIast (Char.ofNat (smallNumber n)) = true := by
    decide +kernel
  rw [lowerLetter_eq]
  exact hletters _ (mem_letterNumbers h)

theorem compose_singleton_of_isIast (h : isIast c = true) : compose [c] = [c] := by
  have hletters : ∀ n ∈ letterNumbers, rejoined n = [Char.ofNat n] := by
    decide
  have hself := hletters _ (mem_letterNumbers h)
  rwa [← compose_ofNat (n := c.toNat) c.valid, Char.ofNat_toNat] at hself

theorem opens_of_isIast (h : isIast c = true) : Opens (c :: s) := by
  have hparts : ∀ d ∈ decompose [c], IsPart d :=
    isPart_of_mem_decompose (by simp [compose_singleton_of_isIast h, h])
  rw [decompose_singleton] at hparts
  exact opens_cons (opens_of_forall_isPart hparts (isCombining_of_isIast h))

/-- Letters and separators are composed one by one. -/
theorem forall_mem_compose_of_isIast (h : ∀ c ∈ s, isIast c = true ∨ isSeparator c = true) :
    ∀ c ∈ compose s, isIast c = true ∨ isSeparator c = true := by
  induction s with
  | nil => simp
  | cons c rest ih =>
      obtain ⟨hc, hrest⟩ := List.forall_mem_cons.mp h
      have hopens : Opens rest := by
        cases rest with
        | nil => exact opens_nil
        | cons d others =>
            exact (hrest d List.mem_cons_self).elim opens_of_isIast opens_of_isSeparator
      have hchar : ∀ d ∈ compose [c], isIast d = true ∨ isSeparator d = true := by
        rcases hc with hletter | hseparator
        · simp [compose_singleton_of_isIast hletter, hletter]
        · exact fun d hd => .inr ((isStable_isSeparator true).forall_mem_compose.mpr
            (by simpa using hseparator) d hd)
      rw [← List.singleton_append, compose_append hopens, List.forall_mem_append]
      exact ⟨hchar, ih hrest⟩

theorem lowerLetter_of_letters (h : isIast c = true ∨ isSeparator c = true) :
    isIast (lowerLetter c) = true ∨ isSeparator (lowerLetter c) = true := by
  rcases h with hletter | hseparator
  · exact .inl (isIast_lowerLetter hletter)
  · exact .inr (by rwa [(isSmall_of_isSeparator hseparator).2])

/-- The normal form of a text in a script is in that script. -/
theorem ofChars_normalChars (h : ofChars s ≠ .unknown) : ofChars (normalChars s) = ofChars s := by
  cases hs : ofChars s with
  | devanagari =>
      obtain ⟨hsome, hall⟩ := ofChars_eq_devanagari.mp hs
      have hcomposed := forall_mem_trim
        (isStable_isDevanagari.or_isSeparator.forall_mem_compose.mpr hall)
      have hsmall : normalChars s = trim (compose s) := lower_of_isSmall fun c hc =>
        (hcomposed c hc).elim isSmall_of_isDevanagari isSmall_of_isSeparator
      rw [hsmall, ofChars_eq_devanagari, exists_mem_trim, exists_mem_compose]
      exact ⟨hsome, hcomposed⟩
  | iast =>
      obtain ⟨hsome, hall⟩ := ofChars_eq_iast.mp hs
      have hcomposed := forall_mem_trim hall
      have hsmall : normalChars s = (trim (compose s)).map lowerLetter :=
        lowerFrom_eq_map fun c hc => (hcomposed c hc).elim hasNoRule_of_isIast
          fun hseparator => ⟨(isSmall_of_isSeparator hseparator).ne_sigma,
            (isSmall_of_isSeparator hseparator).1⟩
      rw [← exists_mem_compose, ← exists_mem_trim] at hsome
      rw [hsmall, ofChars_eq_iast]
      refine ⟨?_, forall_mem_compose_of_isIast (List.forall_mem_map.mpr fun c hc =>
        lowerLetter_of_letters (hcomposed c hc))⟩
      obtain ⟨c, hc, hletter⟩ := hsome
      have hiast : isIast c = true := (hcomposed c hc).resolve_right (by simp [hletter])
      exact ⟨_, List.mem_map_of_mem hc, isSeparator_of_isIast (isIast_lowerLetter hiast)⟩
  | unknown => exact absurd hs h

theorem ofString_normalForm {text : String} (h : ofString text ≠ .unknown) :
    ofString (normalForm text) = ofString text := by
  rw [ofString, toList_normalForm]
  exact ofChars_normalChars h

end Script

namespace Lexicon

variable {table : Entries} {text : String} {word : Word}

/-- Under the script of the text the table has a sequence of texts, and this is one of them. -/
def Enlists (table : Entries) (text : String) : Prop :=
  ∃ (shelf : String) (listed : Datum) (texts : List String),
    (Script.ofString text).shelf? = some shelf ∧ table.get? shelf = some listed
      ∧ listed.items? = .ok (texts.map .text) ∧ text ∈ texts

theorem lists?_of_enlists (h : Enlists table text) (hscript : Script.ofString text ≠ .unknown) :
    lists? (.map table) (Text.normalForm text) = .ok true := by
  obtain ⟨shelf, listed, texts, hshelf, hget, hlisted, hmem⟩ := h
  simp only [lists?, Script.ofString_normalForm hscript, hshelf, Datum.getD?, Datum.entriesFor?,
    ok_bind, Entries.getD_of_get?_eq_some hget, pure, Except.pure, normalEntries?_eq_ok hlisted]
  simpa using ⟨text, hmem, rfl⟩

theorem contains?_of_surface (h : Enlists table text) (hscript : Script.ofString text ≠ .unknown)
    (hshown : Text.isBlankString text = false) (hsurface : word.surface = Text.trimString text) :
    contains? (.map table) word = .ok true := by
  have hsome : word.surface ≠ "" := by
    rw [hsurface]
    intro hblank
    rw [Text.isBlankString_eq_true.mpr hblank] at hshown
    cases hshown
  have hform : Text.normalForm word.surface = Text.normalForm text := by
    rw [hsurface, Text.normalForm_trimString]
  unfold contains? Word.forms
  rw [List.filter_cons_of_pos (by simpa using hsome), List.map_cons, List.eraseDups_cons, anyOf?,
    hform, lists?_of_enlists h hscript]
  rfl

/-- A word that has a text for its surface is found wherever a table lists the text. -/
theorem contains?_of_enlists {script : Script} (h : checkSurface (.text text) = .ok script) :
    Script.ofString (Text.normalForm text) = Script.ofString text
      ∧ (∃ word, WordGroup.read (.list [.text text]) = .ok ⟨[word], some script⟩)
      ∧ ∀ (raw : Datum) (items : List Datum) (group : WordGroup),
        WordGroup.items raw = .ok items → WordGroup.read raw = .ok group →
          ∀ (i : Nat) (item : Datum) (word : Word), items[i]? = some item →
            item.surface? = some (.text text) → group.words[i]? = some word →
              ∀ table, Enlists table text → contains? (.map table) word = .ok true := by
  obtain ⟨given, hgiven, hshown, hscript, hknown⟩ := checkSurface_eq_ok.mp h
  cases hgiven
  have hknown : Script.ofString text ≠ .unknown := hscript ▸ hknown
  refine ⟨Script.ofString_normalForm hknown, ?_, ?_⟩
  · have hcheck : Particulars.script? ⟨[(.surface, .text text)], []⟩ = .ok (some script) := by
      rw [Particulars.script?_of_some rfl, h]
      rfl
    have hbuild : ∃ word, Word.build 0 ⟨[(.surface, .text text)], []⟩ = .ok word := ⟨_, rfl⟩
    obtain ⟨word, hbuild⟩ := hbuild
    have hread : readWord 0 (.text text) = .ok (word, some script) := by
      rw [readWord, readParticulars, ok_bind, hcheck, ok_bind, hbuild]
      rfl
    refine ⟨word, ?_⟩
    rw [WordGroup.read, WordGroup.items, ok_bind, readWords, hread]
    rfl
  · intro raw items group hitems hread i item word hitem hgiven hword table henlists
    have hholds := WordGroup.holds_of_read hitems hread
    exact contains?_of_surface henlists hknown hshown
      ((hholds.surface i word item hword hitem).1 text hgiven)

theorem contains?_of_enlists_marked :
    let text := "Gajah" ++ String.singleton (Char.ofNat 0x323) ++ " "
    let table := [(Datum.text "iast", Datum.list [.text text])]
    checkSurface (.text text) = .ok .iast ∧ Script.ofString (Text.normalForm text) = .iast
      ∧ ∃ word, WordGroup.read (.list [.text text]) = .ok ⟨[word], some .iast⟩
        ∧ contains? (.map table) word = .ok true := by
  intro text table
  have hshown : Text.isBlankString text = false := by decide
  have hscript : Script.ofString text = .iast := by decide
  have hcheck : checkSurface (.text text) = .ok .iast :=
    checkSurface_eq_ok.mpr ⟨text, rfl, hshown, hscript, by decide⟩
  have henlists : Enlists table text :=
    ⟨"iast", .list [.text text], [text], by rw [hscript]; rfl, rfl, rfl, List.mem_cons_self⟩
  obtain ⟨hsame, ⟨word, hread⟩, hfound⟩ := contains?_of_enlists hcheck
  exact ⟨hcheck, hsame.trans hscript, word, hread,
    hfound _ [.text text] _ rfl hread 0 _ word rfl rfl rfl table henlists⟩

end Lexicon

end SutraArbiter
