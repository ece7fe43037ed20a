import SutraArbiter.Proofs.Strategy.Verdict

namespace SutraArbiter

theorem allOf?_eq_true {α : Type} {p : α → Except Fault Bool} {items : List α}
    (h : allOf? p items = .ok true) : ∀ x ∈ items, p x = .ok true := by
  induction items with
  | nil => simp
  | cons item rest ih =>
      obtain ⟨held, hheld, h⟩ := bind_eq_ok.mp h
      cases held with
      | false => cases h
      | true => exact List.forall_mem_cons.mpr ⟨hheld, ih h⟩

theorem granted_eq_true {ε : Type} {answer : Except ε Bool} (h : granted answer = true) :
    answer = .ok true := by
  cases answer with
  | error failure => cases h
  | ok held => exact congrArg _ h

namespace Word

variable {word : Word} {criteria : Entries}

theorem has_of_value_ne_null {key : String} (hfield : (Field.ofName? key).isSome = true)
    (h : (word.value key).isNull = false) : word.has key = true := by
  obtain ⟨field, hfield⟩ := Option.isSome_iff_exists.mp hfield
  unfold has
  unfold value at h ⊢
  rw [hfield] at h ⊢
  dsimp only at h ⊢
  split at h
  · cases h
  · rename_i hgiven
    simp [hgiven, Datum.holds]

theorem has_of_meets (hmeets : word.meets criteria = true) {key literal : String}
    (hentry : (Datum.text key, Datum.text literal) ∈ criteria)
    (hfield : (Field.ofName? key).isSome = true) : word.has key = true := by
  have hall := granted_eq_true hmeets
  unfold meetsAll? at hall
  rw [Datum.entriesFor?, ok_bind] at hall
  have hheld := allOf?_eq_true hall _ hentry
  rw [lookup?_text, ok_bind] at hheld
  refine has_of_value_ne_null hfield ?_
  cases hnull : (word.value key).isNull with
  | false => rfl
  | true => simp [meets?, matchesLiteral?, hnull] at hheld

end Word

theorem Selection.ascending_of_pairwise {places : List Int} (h : places.Pairwise (· < ·)) :
    ascending places = places := by
  have hperm : (ascending places).Perm places :=
    (List.perm_ext_iff_of_nodup ((pairwise_ascending places).imp Int.ne_of_lt)
      (h.imp Int.ne_of_lt)).mpr fun _ => mem_ascending
  refine hperm.eq_of_pairwise (fun i j _ _ hij hji => ?_) (pairwise_ascending places) h
  exact absurd hij (Int.lt_asymm hji)

namespace Placed

variable {words : List Word}

theorem pairwise_positions (h : Placed words) : (positions words).Pairwise (· < ·) := by
  have hindices : (words.map Word.index).Pairwise (· < ·) := by
    rw [h]
    exact List.pairwise_lt_range
  rw [List.pairwise_map] at hindices
  exact List.pairwise_map.mpr (hindices.imp Int.ofNat_lt.mpr)

/-- The last of the words that are asked for stands behind all others. -/
theorem getLast?_filter_eq_some (h : Placed words) {p : Word → Bool} {last : Word} :
    (words.filter p).getLast? = some last ↔
      last ∈ words ∧ p last = true
        ∧ ∀ word ∈ words, p word = true → word.position ≤ last.position := by
  have hbehind : ∀ {found}, (words.filter p).getLast? = some found →
      ∀ word ∈ words.filter p, word.position ≤ found.position := by
    intro found hfound word hword
    obtain ⟨earlier, hsplit⟩ := List.getLast?_eq_some_iff.mp hfound
    have hascend : (words.filter p).Pairwise fun one other => one.position < other.position :=
      (List.pairwise_map.mp h.pairwise_positions).sublist List.filter_sublist
    rw [hsplit] at hascend hword
    rcases List.mem_append.mp hword with hword | hword
    · exact Int.le_of_lt ((List.pairwise_append.mp hascend).2.2 word hword found
        List.mem_cons_self)
    · exact Int.le_of_eq (congrArg _ (List.mem_singleton.mp hword))
  constructor
  · intro hlast
    obtain ⟨hmember, hheld⟩ := List.mem_filter.mp (List.mem_of_getLast? hlast)
    exact ⟨hmember, hheld, fun word hword hasked =>
      hbehind hlast word (List.mem_filter.mpr ⟨hword, hasked⟩)⟩
  · rintro ⟨hmember, hheld, hafter⟩
    have hlast := List.mem_filter.mpr ⟨hmember, hheld⟩
    obtain ⟨found, hfound⟩ : ∃ found, (words.filter p).getLast? = some found :=
      ⟨_, List.getLast?_eq_some_getLast (List.ne_nil_of_mem hlast)⟩
    obtain ⟨hother, hasked⟩ := List.mem_filter.mp (List.mem_of_getLast? hfound)
    have hplace := Int.le_antisymm (hbehind hfound last hlast) (hafter found hother hasked)
    rw [hfound, h.eq_of_position hmember hother hplace]

theorem ofPositions_filter (h : Placed words) (p : Word → Bool) :
    Selection.ofPositions (positions (words.filter p)) (positions words) =
      ⟨positions (words.filter p), positions (words.filter fun word => !p word)⟩ := by
  have hordered : ∀ q : Word → Bool,
      Selection.ascending (positions (words.filter q)) = positions (words.filter q) := fun q =>
    Selection.ascending_of_pairwise
      (h.pairwise_positions.sublist (List.filter_sublist.map Word.position))
  have hrest : (positions words).filter
      (fun i => !(positions (words.filter p)).contains i) =
        positions (words.filter fun word => !p word) := by
    unfold positions
    rw [List.filter_map]
    congr 1
    refine List.filter_congr fun word hword => congrArg not ?_
    rw [Bool.eq_iff_iff, List.contains_iff_mem]
    exact h.position_mem_filter (fun _ hmember => hmember) hword
  unfold Selection.ofPositions
  rw [hrest, hordered, hordered]

end Placed

namespace Strategy

variable {strategy : Strategy} {params : Entries} {words : List Word} {context : Context}
  {selection : Selection} {confidence : Double}

theorem confidence_of_flag (h : flagFinding params words = .selected selection confidence) :
    (params.getD "flag_confidence" (.float .one)).toDouble? = .ok confidence := by
  unfold flagFinding at h
  split at h
  · split at h
    · split at h
      · split at h
        · rename_i told htold
          cases h
          exact htold
        · cases h
      · cases h
    · cases h
  · cases h

/-- A selection has full confidence, or the one that is told for the flag. -/
theorem confidence_of_finding
    (h : strategy.finding params words context = .selected selection confidence) :
    confidence = .one
      ∨ (params.getD "flag_confidence" (.float .one)).toDouble? = .ok confidence := by
  cases strategy with
  | identicalForms =>
      simp only [finding, identicalFormsFinding] at h
      split at h
      · split at h
        · cases h
        · split at h <;> cases h
          exact .inl rfl
      · cases h
  | lexicalRetention =>
      simp only [finding, lexicalFinding] at h
      split at h
      · split at h
        · exact .inr (confidence_of_flag h)
        · cases h
          exact .inl rfl
      · cases h
  | seriesRetention =>
      simp only [finding, seriesFinding] at h
      split at h
      · split at h <;> cases h
        exact .inl rfl
      · cases h
  | attributePairing =>
      simp only [finding, pairingFinding] at h
      split at h
      · split at h <;> cases h
        exact .inl rfl
      · cases h
  | attributeSelection =>
      simp only [finding, selectionFinding] at h
      split at h
      · split at h <;> cases h
        exact .inl rfl
      · cases h

theorem confidence_of_selected (hflag : params.get? "flag_confidence" = none)
    (h : strategy.finding params words context = .selected selection confidence) :
    confidence = .one := by
  rcases confidence_of_finding h with hone | htold
  · exact hone
  · rw [Entries.getD_of_get?_eq_none hflag] at htold
    exact (Except.ok.inj htold).symm

theorem isShare_of_selected (hadmits : strategy.Admits params)
    (h : strategy.finding params words context = .selected selection confidence) :
    confidence.level.isShare = true := by
  rcases confidence_of_finding h with rfl | htold
  · exact Double.isShare_one
  · obtain ⟨told, hconfidence, hshare⟩ := hadmits.flagConfidence
    rw [htold, Except.ok.injEq] at hconfidence
    exact hconfidence ▸ hshare

theorem length_of_enough (hminimum : params.get? "min_words" = none)
    (h : enough params words = true) : 2 ≤ words.length := by
  simp only [enough, hasMinimum?, Datum.getD?, Datum.entriesFor?, ok_bind, pure, Except.pure,
    Entries.getD_of_get?_eq_none hminimum, Datum.toInt?, usualMinimum, granted_ok,
    decide_eq_true_eq] at h
  omega

/-- A pairing selects out of enough words, one of which is to keep. -/
theorem exists_of_pairing (hplaced : Placed words)
    (h : pairingFinding params words = .selected selection confidence) :
    enough params words = true
      ∧ ∃ word ∈ words, word.meets (criteria params "retain") = true := by
  unfold pairingFinding at h
  split at h
  · rename_i henough
    dsimp only at h
    split at h
    · cases h
    · rename_i hkept
      rw [isEmpty_kept hplaced, Bool.not_eq_true', Bool.not_eq_false, List.any_eq_true] at hkept
      obtain ⟨word, hword, hpaired⟩ := hkept
      exact ⟨henough, word, hword, (Bool.and_eq_true_iff.mp hpaired).1⟩
  · cases h

theorem series_of_member (hplaced : Placed words) (henough : enough params words = true)
    (hmember : ∃ word ∈ words, isSeriesMember params word = true) :
    seriesFinding params words =
      .selected ⟨positions (words.filter (isSeriesMember params)),
        positions (words.filter fun word => !isSeriesMember params word)⟩ .one := by
  have hsome : (words.filter (isSeriesMember params)).isEmpty = false := by
    obtain ⟨word, hword, hmember⟩ := hmember
    rw [List.isEmpty_eq_false_iff]
    exact List.ne_nil_of_mem (List.mem_filter.mpr ⟨hword, hmember⟩)
  unfold seriesFinding Finding.ofPositions
  rw [if_pos henough]
  dsimp only
  rw [hsome, if_neg Bool.false_ne_true, hplaced.ofPositions_filter]

end Strategy

namespace Plan

variable {plan : Plan} {words : List Word} {context : Context} {selection : Selection}
  {confidence : Double}

/-- The confidence of a plan of which no part tells another. -/
def share (plan : Plan) : Double :=
  (Double.one.mul plan.confidence).roundPlaces 6

theorem strategy_of_selected (h : plan.finding words context = .selected selection confidence) :
    ∃ found, plan.strategy.finding plan.params words context = .selected selection found
      ∧ confidence = (found.mul plan.confidence).roundPlaces 6 := by
  unfold finding at h
  split at h
  · unfold weigh at h
    split at h
    · rename_i found hfound
      cases h
      exact ⟨found, hfound, rfl⟩
    · cases h
  · cases h

theorem confidence_of_selected (hflag : plan.params.get? "flag_confidence" = none)
    (h : plan.finding words context = .selected selection confidence) :
    confidence = plan.share := by
  obtain ⟨found, hfound, rfl⟩ := strategy_of_selected h
  rw [Strategy.confidence_of_selected hflag hfound]
  rfl

/-- However confidences are multiplied and rounded, a proper plan gives a share of one. -/
theorem isShare_of_selected (hproper : plan.IsProper)
    (h : plan.finding words context = .selected selection confidence) :
    confidence.level.isShare = true := by
  obtain ⟨found, hfound, rfl⟩ := strategy_of_selected h
  have hshare := Strategy.isShare_of_selected hproper.admits hfound
  exact Double.isShare_roundPlaces 6 (Double.isShare_mul hshare hproper.share)

/-- A proper plan is never held to be out of form. -/
theorem exists_verdict (hproper : plan.IsProper) (id : String) (words : List Word)
    (context : Context) : ∃ accepted, (plan.finding words context).verdict id = .ok accepted := by
  cases hfinding : plan.finding words context with
  | passed reason nearMiss => exact ⟨_, rfl⟩
  | selected selection confidence =>
      have hshare := isShare_of_selected hproper hfinding
      have hnumber : confidence.isNaN = false := by
        cases confidence with
        | nan => exact absurd hshare (by decide)
        | infinite negative => rfl
        | finite negative units => rfl
      have hproblem : Finding.problem? confidence = none := by
        simp [Finding.problem?, hnumber, hshare]
      rw [Finding.verdict, hproblem]
      exact ⟨_, rfl⟩

end Plan

end SutraArbiter
