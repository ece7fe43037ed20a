import SutraArbiter.Proofs.Rule.Acceptance

namespace SutraArbiter

namespace Lexicon

def IsProper (table : Entries) : Prop :=
  ∀ entry ∈ table, ∃ listed : List String, entry.2 = Datum.ofStrings listed

end Lexicon

/-- A pair of lexicons, one for each side. -/
structure IsPair (pair : Datum) (retain drop : Entries) : Prop where
  keeps : pair.require? "retain" = .ok (.map retain)
  drops : pair.require? "drop" = .ok (.map drop)
  retain : Lexicon.IsProper retain
  drop : Lexicon.IsProper drop

/-- Parameters with which a strategy never fails. -/
structure Strategy.Admits (strategy : Strategy) (params : Entries) : Prop where
  minimum : ∃ count : Int, 1 ≤ count
    ∧ params.getD "min_words" (.int usualMinimum) = .int count
  flag : params.get? "flag" = none ∨ ∃ name, params.get? "flag" = some (.text name)
  caseFlag : ∃ name,
    params.getD "case_check_flag" (.text "force_case_check") = .text name
  flagConfidence : ∃ confidence,
    (params.getD "flag_confidence" (.float .one)).toDouble? = .ok confidence
      ∧ confidence.level.isShare = true
  pairs : ∃ pairs, (params.getD "pairs" (.tuple [])).items? = .ok pairs
    ∧ ∀ pair ∈ pairs, ∃ retain drop, IsPair pair retain drop
  series : ∃ table, params.getD "series" (.map []) = .map table ∧ Lexicon.IsProper table
  retain : strategy = .attributePairing ∨ strategy = .attributeSelection →
    ∃ criteria, params.get? "retain" = some (.map criteria)
  against : strategy = .attributePairing →
    ∃ criteria, params.get? "against" = some (.map criteria)

namespace Form

variable {d : Datum} {entries : Entries}

theorem IsWording.exists_text (h : IsWording d) : ∃ wording, d = .text wording := by
  cases d with
  | text wording => exact ⟨wording, rfl⟩
  | _ => cases h

theorem IsPositive.exists_count (h : IsPositive d) : ∃ count, 1 ≤ count ∧ d = .int count := by
  cases d with
  | int count => exact ⟨count, h, rfl⟩
  | _ => cases h

theorem IsShare.exists_toDouble? (h : IsShare d) :
    ∃ confidence, d.toDouble? = .ok confidence ∧ confidence.level.isShare = true := by
  cases d with
  | int value =>
      obtain ⟨confidence, hconfidence, hshare⟩ := Double.exists_ofInt? h.1 h.2
      exact ⟨confidence, by rw [Datum.toDouble?, hconfidence, Datum.inRange?], hshare⟩
  | float x => exact ⟨x, rfl, isShare_float.mp h⟩
  | _ => cases h

theorem IsFilters.exists_map (h : IsFilters d) : ∃ criteria, d = .map criteria := by
  cases d with
  | map criteria => exact ⟨criteria, rfl⟩
  | _ => cases h

theorem IsWords.exists_texts (h : IsWords d) :
    ∃ listed : List String, d = Datum.ofStrings listed := by
  cases d with
  | list words =>
      induction words with
      | nil => exact ⟨[], rfl⟩
      | cons word rest ih =>
          obtain ⟨hword, hrest⟩ := List.forall_mem_cons.mp h
          obtain ⟨wording, rfl⟩ := hword.exists_text
          obtain ⟨listed, hlisted⟩ := ih hrest
          rw [Datum.list.inj hlisted]
          exact ⟨wording :: listed, rfl⟩
  | _ => cases h

theorem IsLexicon.exists_table (h : IsLexicon d) :
    ∃ table, d = .map table ∧ Lexicon.IsProper table := by
  cases d with
  | map table =>
      refine ⟨table, rfl, ?_⟩
      intro entry hentry
      exact (h.2 entry hentry).2.exists_texts
  | _ => cases h

theorem IsPairing.exists_isPair (h : IsPairing d) : ∃ retain drop, IsPair d retain drop := by
  cases d with
  | map sides =>
      obtain ⟨retain, drop, hperm, hretain, hdrop⟩ := h
      obtain ⟨hkeeps, hdrops⟩ := Rule.get?_of_sides hperm
      obtain ⟨kept, rfl, hkept⟩ := hretain.exists_table
      obtain ⟨dropped, rfl, hdropped⟩ := hdrop.exists_table
      refine ⟨kept, dropped, ?_, ?_, hkept, hdropped⟩
      · simp [Datum.require?, hkeeps]
      · simp [Datum.require?, hdrops]
  | _ => cases h

theorem IsPairs.exists_items? (h : IsPairs d) :
    ∃ pairs, d.items? = .ok pairs ∧ ∀ pair ∈ pairs, ∃ retain drop, IsPair pair retain drop := by
  cases d with
  | list pairs => exact ⟨pairs, rfl, fun pair hpair => (h.2 pair hpair).exists_isPair⟩
  | _ => cases h

theorem Slot.Admits.exists_criteria {key : String} {required : Bool}
    (h : Slot.Admits ⟨key, required, IsFilters⟩ entries) (hhas : entries.has key = true) :
    ∃ criteria, entries.get? key = some (.map criteria) := by
  obtain ⟨value, hvalue⟩ := Option.isSome_iff_exists.mp hhas
  obtain ⟨criteria, rfl⟩ := IsFilters.exists_map (h value hvalue)
  exact ⟨criteria, hvalue⟩

end Form

namespace Rule

open Form

variable {entries : Entries} {strategy : Strategy}

theorem checkParameters_eq_ok (h : checkParameters strategy entries = .ok ()) :
    strategy.Admits (entries.without "strategy") := by
  obtain ⟨-, hrequired, -, hslots, -⟩ := checkParameters_iff.mp ⟨(), h⟩
  simp only [everySlot, List.forall_mem_cons] at hslots
  obtain ⟨hconfidence, hminimum, hflag, hcaseFlag, hretain, hagainst, hpairs, hseries, -⟩ := hslots
  have hget : ∀ {name : String}, name ≠ "strategy" →
      (entries.without "strategy").get? name = entries.get? name := Entries.get?_without
  have hgetD : ∀ {name : String} {default : Datum}, name ≠ "strategy" →
      (entries.without "strategy").getD name default = entries.getD name default := by
    intro name default hname
    rw [Entries.getD, hget hname, Entries.getD]
  constructor
  case minimum =>
    rw [hgetD (by decide)]
    rcases hminimum.getD (.int usualMinimum) with hdefault | hgiven
    · exact ⟨usualMinimum, by decide, hdefault⟩
    · exact hgiven.exists_count
  case flag =>
    rw [hget (by decide)]
    rcases hflag.eq_none_or with hnone | ⟨value, hvalue, hgiven⟩
    · exact .inl hnone
    · obtain ⟨name, rfl⟩ := hgiven.exists_text
      exact .inr ⟨name, hvalue⟩
  case caseFlag =>
    rw [hgetD (by decide)]
    rcases hcaseFlag.getD (.text "force_case_check") with hdefault | hgiven
    · exact ⟨_, hdefault⟩
    · exact hgiven.exists_text
  case flagConfidence =>
    rw [hgetD (by decide)]
    rcases hconfidence.getD (.float .one) with hdefault | hgiven
    · exact ⟨.one, by rw [hdefault]; rfl, Double.isShare_one⟩
    · exact hgiven.exists_toDouble?
  case pairs =>
    rw [hgetD (by decide)]
    rcases hpairs.getD (.tuple []) with hdefault | hgiven
    · exact ⟨[], by rw [hdefault]; rfl, by simp⟩
    · exact hgiven.exists_items?
  case series =>
    rw [hgetD (by decide)]
    rcases hseries.getD (.map []) with hdefault | hgiven
    · exact ⟨[], hdefault, by simp [Lexicon.IsProper]⟩
    · exact hgiven.exists_table
  case retain =>
    intro hstrategy
    rw [hget (by decide)]
    exact hretain.exists_criteria (hrequired _ (by rcases hstrategy with rfl | rfl <;> decide))
  case against =>
    intro hstrategy
    rw [hget (by decide)]
    exact hagainst.exists_criteria (hrequired _ (by subst hstrategy; decide))

/-- The parameters of a strategy, without its name. -/
theorem admits_of_matches (h : Matches strategy entries) :
    strategy.Admits (entries.without "strategy") := by
  obtain ⟨named, hnamed⟩ := Option.isSome_iff_exists.mp h.has_strategy
  obtain ⟨-, ⟨⟩, hchecked⟩ := (matches_iff hnamed).mp h
  exact checkParameters_eq_ok hchecked

end Rule

end SutraArbiter
