import SutraArbiter.Text.Blank

namespace SutraArbiter.Text

/-! A text is cut at its separators, and what stands between them are its words.
Words that are joined by separators are found again when the text is cut. -/

/-- Blanks and plus signs only, possibly none. -/
def IsMargin (s : String) : Prop :=
  ∀ c ∈ s.toList, c = '+' ∨ isBlank c = true

/-- Something with neither a blank nor a plus sign in it. -/
def IsToken (s : String) : Prop :=
  s ≠ "" ∧ ∀ c ∈ s.toList, c ≠ '+' ∧ isBlank c = false

instance (s : String) : Decidable (IsMargin s) :=
  List.decidableBAll _ s.toList

instance (s : String) : Decidable (IsToken s) :=
  have := List.decidableBAll (fun c => c ≠ '+' ∧ isBlank c = false) s.toList
  inferInstanceAs (Decidable (_ ∧ _))

/-- The words one after the other, with some separators between each and the next. -/
inductive Joins : List String → String → Prop
  | last (word : String) : Joins [word] word
  | next {words : List String} {text separators : String} (word : String)
      (apart : separators ≠ "") (margin : IsMargin separators) (rest : Joins words text) :
      Joins (word :: words) (word ++ separators ++ text)

/-- The words of a text, told by cutting it. -/
def cut (s : List Char) : List (List Char) :=
  (s.splitOnP isSeparator).filter fun token => !token.isEmpty

theorem isSeparator_eq_true {c : Char} :
    isSeparator c = true ↔ c = '+' ∨ isBlank c = true := by
  simp [isSeparator]

theorem isSeparator_eq_false {c : Char} :
    isSeparator c = false ↔ c ≠ '+' ∧ isBlank c = false := by
  simp [isSeparator]

theorem tokensFrom_eq (held s : List Char) :
    tokensFrom held s =
      ((s.splitOnP isSeparator).modifyHead (held ++ ·)).filter fun token => !token.isEmpty := by
  induction s generalizing held with
  | nil => cases held <;> simp [tokensFrom]
  | cons c rest ih =>
      rw [tokensFrom, List.splitOnP_cons_eq_if_modifyHead]
      split
      · have hrest : (rest.splitOnP isSeparator).modifyHead ([] ++ ·) =
            rest.splitOnP isSeparator := by
          cases rest.splitOnP isSeparator <;> rfl
        rw [ih [], hrest]
        cases held <;> simp
      · rw [ih (held ++ [c]), List.modifyHead_modifyHead]
        congr 2
        funext token
        simp

theorem tokens_eq_cut (s : List Char) : tokens s = cut s := by
  have hsame : (s.splitOnP isSeparator).modifyHead ([] ++ ·) = s.splitOnP isSeparator := by
    cases s.splitOnP isSeparator <;> rfl
  rw [tokens, tokensFrom_eq, hsame, cut]

theorem cut_separator_cons {c : Char} (h : isSeparator c = true) (s : List Char) :
    cut (c :: s) = cut s := by
  simp [cut, List.splitOnP_cons_eq_if_modifyHead, h]

theorem cut_margin_append {margin : List Char} (h : ∀ c ∈ margin, isSeparator c = true)
    (s : List Char) : cut (margin ++ s) = cut s := by
  induction margin with
  | nil => rfl
  | cons c rest ih =>
      obtain ⟨hc, hrest⟩ := List.forall_mem_cons.mp h
      rw [List.cons_append, cut_separator_cons hc, ih hrest]

/-- A word ends where the margin behind it begins. -/
theorem cut_token_append {token margin : List Char} (hsome : token ≠ [])
    (htoken : ∀ c ∈ token, isSeparator c = false) (hmargin : ∀ c ∈ margin, isSeparator c = true)
    {s : List Char} (hapart : margin = [] → s = []) :
    cut (token ++ margin ++ s) = token :: cut s := by
  have hfilter : ∀ pieces : List (List Char), ((token :: pieces).filter fun piece =>
      !piece.isEmpty) = token :: pieces.filter fun piece => !piece.isEmpty := by
    simp [hsome]
  cases margin with
  | nil =>
      rw [hapart rfl, List.append_nil, List.append_nil, cut, List.splitOnP_eq_singleton htoken,
        hfilter]
      rfl
  | cons c rest =>
      obtain ⟨hc, hrest⟩ := List.forall_mem_cons.mp hmargin
      rw [List.append_assoc, List.cons_append, cut,
        List.splitOnP_append_cons_of_forall_mem htoken c hc, hfilter]
      exact congrArg (token :: ·) (cut_margin_append hrest s)

namespace Joins

variable {words : List String} {text trail : String}

theorem cut_append (h : Joins words text) (hwords : ∀ word ∈ words, IsToken word)
    (htrail : IsMargin trail) : cut (text ++ trail).toList = words.map String.toList := by
  have hseparators : ∀ {margin : String}, IsMargin margin →
      ∀ c ∈ margin.toList, isSeparator c = true :=
    fun hmargin c hc => isSeparator_eq_true.mpr (hmargin c hc)
  have hletters : ∀ {word : String}, IsToken word →
      word.toList ≠ [] ∧ ∀ c ∈ word.toList, isSeparator c = false :=
    fun hword => ⟨by simpa using hword.1, fun c hc => isSeparator_eq_false.mpr (hword.2 c hc)⟩
  induction h with
  | last word =>
      obtain ⟨hsome, hword⟩ := hletters (hwords word List.mem_cons_self)
      rw [String.toList_append, ← List.append_nil (word.toList ++ trail.toList),
        cut_token_append hsome hword (hseparators htrail) fun _ => rfl]
      rfl
  | @next words text separators word apart margin rest ih =>
      obtain ⟨hfirst, hrest⟩ := List.forall_mem_cons.mp hwords
      obtain ⟨hsome, hword⟩ := hletters hfirst
      have hapart : separators.toList ≠ [] := by simpa using apart
      rw [String.append_assoc, String.toList_append, String.toList_append,
        cut_token_append hsome hword (hseparators margin) fun hnone => absurd hnone hapart,
        ih hrest]
      rfl

end Joins

end SutraArbiter.Text
