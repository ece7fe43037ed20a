import SutraArbiter.Proofs.Script.Alphabets

namespace SutraArbiter

/-- No mark stands right behind a separator. -/
def Text.IsWellMarked (s : List Char) : Prop :=
  s.IsChain fun c d => isSeparator c = true → isCombining d = false

namespace Script

open Text

variable {s : List Char}

/-- A mark behind a separator stays where it is, and is no letter. -/
theorem isWellMarked_of_iast (h : ofChars s = .iast) : IsWellMarked s := by
  have hletters := (ofChars_eq_iast.mp h).2
  have hparts := isPart_of_mem_decompose hletters
  refine List.isChain_iff_forall_rel_of_append_cons_cons.mpr fun {c d front back} hs hc => ?_
  rw [Bool.eq_false_iff]
  intro hmark
  have hd : ∀ e ∈ decomposeChar d, IsPart e :=
    fun e he => hparts e (by simp [hs, decompose, he])
  obtain ⟨first, rest, hfirst⟩ := List.exists_cons_of_ne_nil (decomposeChar_ne_nil (c := d))
  have hstays : isCombining first = true :=
    (isCombining_head? hd first (by simp [hfirst])).trans hmark
  obtain ⟨e, he, hcombining⟩ := exists_isCombining_compose (s := d :: back)
    (by simp [decompose, hfirst]) hstays
  have hmem : e ∈ compose s := by
    rw [hs, compose_append (opens_of_isSeparator hc), compose_cons_of_isSeparator hc]
    simp [he]
  rcases hletters e hmem with hletter | hseparator
  · rw [isCombining_of_isIast hletter] at hcombining
    cases hcombining
  · rw [isCombining_of_isSeparator hseparator] at hcombining
    cases hcombining

theorem isParted_of_isWellMarked (hmarks : IsWellMarked s)
    (hparts : ∀ c ∈ decompose (withoutSeparators s), IsPart c) : IsParted s := by
  refine List.isChain_iff_forall_rel_of_append_cons_cons.mpr fun {c d front back} hs hc => ?_
  have hbase := List.isChain_iff_forall_rel_of_append_cons_cons.mp hmarks hs hc
  cases hd : isSeparator d with
  | true => exact opens_of_isSeparator hd
  | false =>
      refine opens_of_forall_isPart (fun e he => hparts e ?_) hbase
      have hmem : d ∈ withoutSeparators s := List.mem_filter.mpr ⟨by simp [hs], by simp [hd]⟩
      exact List.mem_flatMap_of_mem hmem he

theorem ofChars_withoutSeparators_of_isParted (h : IsParted s) :
    ofChars (withoutSeparators s) = ofChars s := by
  have hletters : withoutSeparators (compose (withoutSeparators s)) =
      withoutSeparators (compose s) := by
    rw [← withoutSeparators_compose h, withoutSeparators_withoutSeparators]
  simp only [ofChars, hletters]

theorem ofChars_withoutSeparators_eq_devanagari :
    ofChars (withoutSeparators s) = .devanagari ↔ ofChars s = .devanagari := by
  simp only [ofChars_eq_devanagari, exists_mem_withoutSeparators, forall_mem_withoutSeparators,
    or_assoc, or_self]

theorem ofChars_withoutSeparators_of_iast (h : ofChars s = .iast) :
    ofChars (withoutSeparators s) = .iast := by
  have hparts := isPart_of_mem_decompose (ofChars_eq_iast.mp h).2
  rw [ofChars_withoutSeparators_of_isParted, h]
  refine isParted_of_isWellMarked (isWellMarked_of_iast h) fun d hd => ?_
  obtain ⟨c, hc, hd⟩ := List.mem_flatMap.mp hd
  exact hparts d (List.mem_flatMap_of_mem (List.mem_of_mem_filter hc) hd)

theorem ofChars_of_withoutSeparators_eq_iast (h : ofChars (withoutSeparators s) = .iast)
    (hmarks : IsWellMarked s) : ofChars s = .iast := by
  rw [← h, ofChars_withoutSeparators_of_isParted]
  exact isParted_of_isWellMarked hmarks (isPart_of_mem_decompose (ofChars_eq_iast.mp h).2)

theorem ofChars_withoutSeparators_of_ne_unknown (h : ofChars s ≠ .unknown) :
    ofChars (withoutSeparators s) = ofChars s := by
  cases hs : ofChars s with
  | devanagari => exact ofChars_withoutSeparators_eq_devanagari.mpr hs
  | iast => exact ofChars_withoutSeparators_of_iast hs
  | unknown => exact absurd hs h

theorem ofChars_withoutSeparators_eq_iff :
    ofChars (withoutSeparators s) = ofChars s ↔
      (ofChars (withoutSeparators s) = .iast → IsWellMarked s) := by
  constructor
  · intro heq hiast
    exact isWellMarked_of_iast (heq ▸ hiast)
  · intro hmarks
    cases hbare : ofChars (withoutSeparators s) with
    | devanagari => exact (ofChars_withoutSeparators_eq_devanagari.mp hbare).symm
    | iast => exact (ofChars_of_withoutSeparators_eq_iast hbare (hmarks hbare)).symm
    | unknown =>
        by_contra hknown
        rw [ofChars_withoutSeparators_of_ne_unknown (Ne.symm hknown)] at hbare
        exact hknown hbare.symm

/-- The text without the separators in it has the script of the text, unless it is in IAST
and a mark stood behind a separator: then the text itself has none. -/
theorem ofString_withoutSeparators (s : String) :
    let bare := String.ofList (withoutSeparators s.toList)
    (ofString bare = ofString s ↔ (ofString bare = .iast → IsWellMarked s.toList))
      ∧ (ofString s ≠ .unknown → ofString bare = ofString s)
      ∧ (ofString bare = .devanagari ↔ ofString s = .devanagari) := by
  simp only [ofString, String.toList_ofList]
  exact ⟨ofChars_withoutSeparators_eq_iff, ofChars_withoutSeparators_of_ne_unknown,
    ofChars_withoutSeparators_eq_devanagari⟩

/-- A mark behind a separator is not joined to the letter before it. -/
theorem ofString_withoutSeparators_ne :
    let s := "a " ++ String.singleton (Char.ofNat 0x304)
    ofString s = .unknown
      ∧ ofString (String.ofList (withoutSeparators s.toList)) = .iast := by
  decide

end Script

end SutraArbiter
