import SutraArbiter.Proofs.Arrangement.Failing
import SutraArbiter.Proofs.Rule.Acceptance

namespace SutraArbiter

/-! On what the check of a rule breaks off: an integer that has no text, a name
of a strategy that cannot be looked up, or unknown keys that have no order. -/

/-- The datum has no text, and this is the fault with which it is told. -/
def Datum.LacksText (d : Datum) (fault : Fault) : Prop :=
  fault = .overlongInteger ∧ d.isOverlong = true

/-- The datum is of a kind that is not looked up, and this is the fault with which it is
told. -/
def Datum.IsUnfit (d : Datum) (fault : Fault) : Prop :=
  ∃ kind, d.unfitKind? = some kind ∧ fault = .unhashable kind

namespace Rule

/-- The mappings that a rule is made of, each with the keys that it may have. -/
inductive Holds (entries : Entries) : List String → Entries → Prop
  | top : Holds entries ("context" :: requiredKeys) entries
  | metadata {part : Entries} (at_key : entries.get? "metadata" = some (.map part)) :
      Holds entries metadataKeys part
  | context {part : Entries} (at_key : entries.get? "context" = some (.map part)) :
      Holds entries ["require", "forbid"] part
  | parameters {part : Entries} (strategy : Strategy)
      (at_key : entries.get? "match" = some (.map part)) :
      Holds entries (parameterNames strategy) part
  | series {part table : Entries} (at_key : entries.get? "match" = some (.map part))
      (at_series : part.get? "series" = some (.map table)) :
      Holds entries ["iast", "devanagari"] table
  | side {part pair table : Entries} {pairs : List Datum} {side : String}
      (at_key : entries.get? "match" = some (.map part))
      (at_pairs : part.get? "pairs" = some (.list pairs)) (mem : .map pair ∈ pairs)
      (at_side : pair.get? side = some (.map table)) :
      Holds entries ["iast", "devanagari"] table
  | action {part : Entries} (at_key : entries.get? "action" = some (.map part)) :
      Holds entries ("strategy" :: "optional" :: Payload.overrideNames) part

/-- Two keys beyond the allowed ones have no order. -/
def Disordered (allowed : List String) (table : Entries) (fault : Fault) : Prop :=
  ∃ x ∈ unknownKeys allowed table, ∃ y ∈ unknownKeys allowed table,
    x.precedes? y = .error fault

/-- What the check of a rule may break off on. -/
inductive Stumbles (entries : Entries) (fault : Fault) : Prop
  | text (lacks : (Datum.map entries).LacksText fault)
  | strategy {key : String} {part : Entries} {named : Datum}
      (part_key : key = "match" ∨ key = "action")
      (at_key : entries.get? key = some (.map part))
      (at_strategy : part.get? "strategy" = some named) (unfit : named.IsUnfit fault)
  | order {allowed : List String} {table : Entries} (holds : Holds entries allowed table)
      (disordered : Disordered allowed table fault)

end Rule

namespace Datum.LacksText

variable {fault : Fault} {d : Datum} {entries : Entries} {key : String}

theorem of_mem {items : List Datum} (hmem : d ∈ items) (h : d.LacksText fault) :
    (Datum.list items).LacksText fault := by
  refine ⟨h.1, eq_true_of_ne_false fun hclear => ?_⟩
  exact absurd (isOverlong_list_eq_false.mp hclear d hmem) (by simp [h.2])

theorem of_key {value : Datum} (hmem : (d, value) ∈ entries) (h : d.LacksText fault) :
    (Datum.map entries).LacksText fault := by
  refine ⟨h.1, eq_true_of_ne_false fun hclear => ?_⟩
  exact absurd (isOverlong_map_eq_false.mp hclear _ hmem).1 (by simp [h.2])

theorem of_get? (hget : entries.get? key = some d) (h : d.LacksText fault) :
    (Datum.map entries).LacksText fault := by
  refine ⟨h.1, eq_true_of_ne_false fun hclear => ?_⟩
  exact absurd (isOverlong_map_eq_false.mp hclear _ (Entries.mem_of_get? hget)).2 (by simp [h.2])

theorem of_getD (h : (entries.getD key .null).LacksText fault) :
    (Datum.map entries).LacksText fault := by
  cases hget : entries.get? key with
  | none =>
      rw [Entries.getD_of_get?_eq_none hget] at h
      cases h.2
  | some value =>
      rw [Entries.getD_of_get?_eq_some hget] at h
      exact h.of_get? hget

end Datum.LacksText

section

variable {α : Type} {violation : Violation} {fault : Fault}

theorem object_eq_fault :
    (object violation : Except Objection α) = .error (.fault fault) ↔
      fault = .overlongInteger ∧ Datum.anyOverlong violation.evidence = true := by
  unfold object
  cases Datum.anyOverlong violation.evidence <;> simp [eq_comm]

theorem lacksText_of_object {d : Datum} (hevidence : violation.evidence = [d])
    (h : (object violation : Except Objection α) = .error (.fault fault)) :
    d.LacksText fault := by
  obtain ⟨rfl, hlong⟩ := object_eq_fault.mp h
  rw [hevidence, Datum.anyOverlong, Datum.anyOverlong, Bool.or_false] at hlong
  exact ⟨rfl, hlong⟩

/-- A step that does not break off is passed. -/
theorem exists_of_bind_eq_fault {β : Type} {first : Except Objection α}
    {next : α → Except Objection β} (hfirst : first ≠ .error (.fault fault))
    (h : (first >>= next) = .error (.fault fault)) :
    ∃ value, next value = .error (.fault fault) := by
  obtain h | ⟨value, -, h⟩ := bind_eq_error.mp h
  · exact absurd h hfirst
  · exact ⟨value, h⟩

theorem object_ne_fault (hevidence : violation.evidence = []) :
    (object violation : Except Objection α) ≠ .error (.fault fault) := by
  intro h
  obtain ⟨-, hlong⟩ := object_eq_fault.mp h
  rw [hevidence] at hlong
  cases hlong

end

namespace Rule

variable {entries : Entries} {fault : Fault} {d : Datum} {key : String}

theorem onlyKeys_eq_fault {allowed : List String} {violation : List Datum → Violation}
    (hevidence : ∀ keys, (violation keys).evidence = keys)
    (h : onlyKeys allowed violation entries = .error (.fault fault)) :
    (Datum.map entries).LacksText fault ∨ Disordered allowed entries fault := by
  unfold onlyKeys at h
  split at h
  · cases h
  · split at h
    · rename_i told htold
      obtain ⟨rfl, hlong⟩ := object_eq_fault.mp h
      rw [hevidence] at hlong
      obtain ⟨key, hkey, hlong⟩ := Datum.anyOverlong_eq_true.mp hlong
      have hunknown : key ∈ unknownKeys allowed entries :=
        (Datum.sorted?_eq_ok htold).mem_iff.mp hkey
      obtain ⟨⟨_, value⟩, hentry, rfl⟩ := List.mem_map.mp (List.mem_filter.mp hunknown).1
      exact .inl (Datum.LacksText.of_key hentry ⟨rfl, hlong⟩)
    · rename_i hsorted
      cases h
      exact .inr (Datum.sorted?_eq_error hsorted)

theorem withKeys_ne_fault {required : List String} {violation : String → Violation}
    (hevidence : ∀ key, (violation key).evidence = []) :
    withKeys required violation entries ≠ .error (.fault fault) := by
  unfold withKeys
  split
  · exact object_ne_fault (hevidence _)
  · simp

theorem optionalWording_ne_fault {violation : String → Violation}
    (hevidence : ∀ key, (violation key).evidence = []) :
    optionalWording violation entries key ≠ .error (.fault fault) := by
  unfold optionalWording
  split
  · simp
  · split
    · simp
    · exact object_ne_fault (hevidence _)

theorem get?_of_getD {part : Entries} (h : entries.getD key .null = .map part) :
    entries.get? key = some (.map part) := by
  cases hget : entries.get? key with
  | none =>
      rw [Entries.getD_of_get?_eq_none hget] at h
      cases h
  | some value => rw [← h, Entries.getD_of_get?_eq_some hget]

theorem checkId_eq_fault (h : checkId d = .error (.fault fault)) : d.LacksText fault := by
  unfold checkId at h
  split at h
  · split at h
    · cases h
    · exact lacksText_of_object rfl h
  · exact lacksText_of_object rfl h

theorem checkVersion_eq_fault (h : checkVersion d = .error (.fault fault)) :
    d.LacksText fault := by
  unfold checkVersion at h
  split at h
  · split at h
    · cases h
    · exact lacksText_of_object rfl h
  · exact lacksText_of_object rfl h

theorem checkTier_eq_fault (h : checkTier d = .error (.fault fault)) : d.LacksText fault := by
  unfold checkTier at h
  split at h
  · split at h
    · cases h
    · exact lacksText_of_object rfl h
  · exact lacksText_of_object rfl h

theorem checkTags_eq_fault (h : checkTags d = .error (.fault fault)) : d.LacksText fault := by
  unfold checkTags at h
  split at h
  · exact absurd h (object_ne_fault rfl)
  · split at h
    · rename_i item hitem
      exact (lacksText_of_object rfl h).of_mem (List.mem_of_find?_eq_some hitem)
    · cases h
  · exact absurd h (object_ne_fault rfl)

theorem checkMetadata_eq_fault (h : checkMetadata d = .error (.fault fault)) :
    d.LacksText fault ∨ ∃ part, d = .map part ∧ Disordered metadataKeys part fault := by
  unfold checkMetadata at h
  split at h
  · rename_i part
    rcases bind_eq_error.mp h with h | ⟨_, -, h⟩
    · exact (onlyKeys_eq_fault (fun _ => rfl) h).imp_right fun h => ⟨part, rfl, h⟩
    obtain ⟨_, h⟩ := exists_of_bind_eq_fault (withKeys_ne_fault fun _ => rfl) h
    obtain ⟨_, h⟩ := exists_of_bind_eq_fault (optionalWording_ne_fault fun _ => rfl) h
    obtain ⟨_, h⟩ := exists_of_bind_eq_fault (optionalWording_ne_fault fun _ => rfl) h
    obtain ⟨_, h⟩ := exists_of_bind_eq_fault (optionalWording_ne_fault fun _ => rfl) h
    obtain ⟨_, h⟩ := exists_of_bind_eq_fault (optionalWording_ne_fault fun _ => rfl) h
    dsimp only at h
    split at h
    · cases h
    · exact .inl (lacksText_of_object rfl h).of_getD
  · exact absurd h (object_ne_fault rfl)

theorem checkGate_ne_fault : checkGate entries key ≠ .error (.fault fault) := by
  unfold checkGate
  split
  · simp
  · simp
  · exact object_ne_fault rfl

theorem checkContext_eq_fault (h : checkContext d = .error (.fault fault)) :
    d.LacksText fault
      ∨ ∃ part, d = .map part ∧ Disordered ["require", "forbid"] part fault := by
  unfold checkContext at h
  split at h
  · rename_i part
    rcases bind_eq_error.mp h with h | ⟨_, -, h⟩
    · exact (onlyKeys_eq_fault (fun _ => rfl) h).imp_right fun h => ⟨part, rfl, h⟩
    obtain ⟨_, h⟩ := exists_of_bind_eq_fault checkGate_ne_fault h
    exact absurd h checkGate_ne_fault
  · exact absurd h (object_ne_fault rfl)

theorem readStrategy_eq_fault (h : readStrategy d = .error (.fault fault)) :
    d.LacksText fault ∨ d.IsUnfit fault := by
  unfold readStrategy at h
  split at h
  · rename_i kind hkind
    cases h
    exact .inr ⟨kind, hkind, rfl⟩
  · refine .inl ?_
    split at h
    · split at h
      · cases h
      · exact lacksText_of_object rfl h
    · exact lacksText_of_object rfl h

theorem checkFlagConfidence_eq_fault
    (h : checkFlagConfidence entries = .error (.fault fault)) :
    (Datum.map entries).LacksText fault := by
  unfold checkFlagConfidence at h
  split at h
  · cases h
  · rename_i given hgiven
    split at h
    · split at h
      · cases h
      · exact (lacksText_of_object rfl h).of_get? hgiven
    · exact absurd h (object_ne_fault rfl)

theorem checkMinWords_eq_fault (h : checkMinWords entries = .error (.fault fault)) :
    (Datum.map entries).LacksText fault := by
  unfold checkMinWords at h
  split at h
  · cases h
  · rename_i value hgiven
    split at h
    · cases h
    · exact (lacksText_of_object rfl h).of_get? hgiven
  · rename_i given _ hgiven
    exact (lacksText_of_object rfl h).of_get? hgiven

theorem checkFilters_ne_fault : checkFilters entries key ≠ .error (.fault fault) := by
  unfold checkFilters
  split
  · simp
  · exact object_ne_fault rfl
  · simp
  · exact object_ne_fault rfl

theorem checkLexicon_eq_fault {place : LexiconPlace}
    (h : checkLexicon place d = .error (.fault fault)) :
    d.LacksText fault
      ∨ ∃ table, d = .map table ∧ Disordered ["iast", "devanagari"] table fault := by
  unfold checkLexicon at h
  split at h
  · exact absurd h (object_ne_fault rfl)
  · rename_i table _
    rcases bind_eq_error.mp h with h | ⟨_, -, h⟩
    · exact (onlyKeys_eq_fault (fun _ => rfl) h).imp_right fun h => ⟨table, rfl, h⟩
    split at h
    · exact absurd h (object_ne_fault rfl)
    · cases h
  · exact absurd h (object_ne_fault rfl)

/-- A side of a pair stumbles. -/
def SideDisordered (pair : Datum) (fault : Fault) : Prop :=
  ∃ entries side table, pair = .map entries ∧ Entries.get? entries side = some (.map table)
    ∧ Disordered ["iast", "devanagari"] table fault

theorem sideDisordered_of_lexicon {place : LexiconPlace}
    (h : checkLexicon place (entries.getD key .null) = .error (.fault fault)) :
    (Datum.map entries).LacksText fault ∨ SideDisordered (.map entries) fault := by
  rcases checkLexicon_eq_fault h with h | ⟨table, htable, h⟩
  · exact .inl h.of_getD
  · exact .inr ⟨entries, key, table, rfl, get?_of_getD htable, h⟩

theorem checkPair_eq_fault {number : Nat} (h : checkPair number d = .error (.fault fault)) :
    d.LacksText fault ∨ SideDisordered d fault := by
  unfold checkPair at h
  split at h
  · split at h
    · rcases bind_eq_error.mp h with h | ⟨_, -, h⟩
      · exact sideDisordered_of_lexicon h
      · exact sideDisordered_of_lexicon h
    · exact absurd h (object_ne_fault rfl)
  · exact absurd h (object_ne_fault rfl)

theorem checkPairsFrom_eq_fault {number : Nat} {pairs : List Datum}
    (h : checkPairsFrom number pairs = .error (.fault fault)) :
    ∃ pair ∈ pairs, pair.LacksText fault ∨ SideDisordered pair fault := by
  induction pairs generalizing number with
  | nil => cases h
  | cons pair rest ih =>
      rcases bind_eq_error.mp h with h | ⟨_, -, h⟩
      · exact ⟨pair, List.mem_cons_self, checkPair_eq_fault h⟩
      · obtain ⟨other, hother, h⟩ := ih h
        exact ⟨other, List.mem_cons_of_mem _ hother, h⟩

theorem checkPairs_eq_fault (h : checkPairs entries = .error (.fault fault)) :
    (Datum.map entries).LacksText fault
      ∨ ∃ pairs, entries.get? "pairs" = some (.list pairs)
          ∧ ∃ pair ∈ pairs, SideDisordered pair fault := by
  unfold checkPairs at h
  split at h
  · cases h
  · exact absurd h (object_ne_fault rfl)
  · rename_i pairs _ hpairs
    obtain ⟨pair, hpair, h | h⟩ := checkPairsFrom_eq_fault h
    · exact .inl ((h.of_mem hpair).of_get? hpairs)
    · exact .inr ⟨pairs, hpairs, pair, hpair, h⟩
  · exact absurd h (object_ne_fault rfl)

theorem checkSeries_eq_fault {strategy : Strategy}
    (h : checkSeries strategy entries = .error (.fault fault)) :
    (Datum.map entries).LacksText fault
      ∨ ∃ table, entries.get? "series" = some (.map table)
          ∧ Disordered ["iast", "devanagari"] table fault := by
  -- What follows the look at the series says nothing that lacks a text.
  have hneither : (if strategy = .seriesRetention && !entries.has "series"
      && !entries.has "flag" then object .seriesOrFlag else pure ()) ≠
        .error (.fault fault) := by
    split
    · exact object_ne_fault rfl
    · simp [pure, Except.pure]
  unfold checkSeries at h
  cases hseries : entries.get? "series" with
  | none =>
      simp only [hseries] at h
      exact absurd h hneither
  | some given =>
      simp only [hseries] at h
      rcases bind_eq_error.mp h with h | ⟨_, -, h⟩
      · rcases checkLexicon_eq_fault h with hlacks | ⟨table, rfl, hdisordered⟩
        · exact .inl (hlacks.of_get? hseries)
        · exact .inr ⟨table, rfl, hdisordered⟩
      · exact absurd h hneither

/-- What the parameters of a strategy may stumble over besides a missing text. -/
inductive ParametersDisordered (strategy : Strategy) (entries : Entries) (fault : Fault) : Prop
  | keys (disordered : Disordered (parameterNames strategy) entries fault)
  | series {table : Entries} (at_series : entries.get? "series" = some (.map table))
      (disordered : Disordered ["iast", "devanagari"] table fault)
  | side {pairs : List Datum} {pair : Datum} (at_pairs : entries.get? "pairs" = some (.list pairs))
      (mem : pair ∈ pairs) (disordered : SideDisordered pair fault)

theorem checkParameters_eq_fault {strategy : Strategy}
    (h : checkParameters strategy entries = .error (.fault fault)) :
    (Datum.map entries).LacksText fault ∨ ParametersDisordered strategy entries fault := by
  unfold checkParameters at h
  obtain h | ⟨_, -, h⟩ := bind_eq_error.mp h
  · exact (onlyKeys_eq_fault (fun _ => rfl) h).imp_right .keys
  obtain ⟨_, h⟩ := exists_of_bind_eq_fault (withKeys_ne_fault fun _ => rfl) h
  obtain h | ⟨_, -, h⟩ := bind_eq_error.mp h
  · exact .inl (checkFlagConfidence_eq_fault h)
  obtain h | ⟨_, -, h⟩ := bind_eq_error.mp h
  · exact .inl (checkMinWords_eq_fault h)
  obtain ⟨_, h⟩ := exists_of_bind_eq_fault (optionalWording_ne_fault fun _ => rfl) h
  obtain ⟨_, h⟩ := exists_of_bind_eq_fault (optionalWording_ne_fault fun _ => rfl) h
  obtain ⟨_, h⟩ := exists_of_bind_eq_fault checkFilters_ne_fault h
  obtain ⟨_, h⟩ := exists_of_bind_eq_fault checkFilters_ne_fault h
  obtain h | ⟨_, -, h⟩ := bind_eq_error.mp h
  · exact (checkPairs_eq_fault h).imp_right fun ⟨_, hpairs, _, hmem, h⟩ => .side hpairs hmem h
  · exact (checkSeries_eq_fault h).imp_right fun ⟨_, hseries, h⟩ => .series hseries h

theorem checkMatch_eq_fault (h : checkMatch d = .error (.fault fault)) :
    d.LacksText fault ∨ ∃ part named, d = .map part
      ∧ Entries.get? part "strategy" = some named
      ∧ (named.IsUnfit fault ∨ ∃ strategy, ParametersDisordered strategy part fault) := by
  unfold checkMatch at h
  split at h
  · rename_i part
    split at h
    · exact absurd h (object_ne_fault rfl)
    · rename_i named hnamed
      rcases bind_eq_error.mp h with h | ⟨strategy, -, h⟩
      · exact (readStrategy_eq_fault h).imp (fun h => h.of_get? hnamed)
          fun h => ⟨part, named, rfl, hnamed, .inl h⟩
      exact (checkParameters_eq_fault h).imp_right
        fun h => ⟨part, named, rfl, hnamed, .inr ⟨strategy, h⟩⟩
  · exact absurd h (object_ne_fault rfl)

theorem checkActionName_eq_fault (h : checkActionName d = .error (.fault fault)) :
    d.LacksText fault ∨ d.IsUnfit fault := by
  unfold checkActionName at h
  split at h
  · rename_i kind hkind
    cases h
    exact .inr ⟨kind, hkind, rfl⟩
  · refine .inl ?_
    split at h
    · split at h
      · cases h
      · exact lacksText_of_object rfl h
    · exact lacksText_of_object rfl h

theorem checkOptional_ne_fault : checkOptional entries ≠ .error (.fault fault) := by
  unfold checkOptional
  split
  · simp
  · simp
  · exact object_ne_fault rfl

theorem checkAction_eq_fault (h : checkAction d = .error (.fault fault)) :
    d.LacksText fault ∨ ∃ part named, d = .map part
      ∧ Entries.get? part "strategy" = some named
      ∧ (named.IsUnfit fault
        ∨ Disordered ("strategy" :: "optional" :: Payload.overrideNames) part fault) := by
  unfold checkAction at h
  split at h
  · rename_i part
    split at h
    · exact absurd h (object_ne_fault rfl)
    · rename_i named hnamed
      rcases bind_eq_error.mp h with h | ⟨_, -, h⟩
      · exact (checkActionName_eq_fault h).imp (fun h => h.of_get? hnamed)
          fun h => ⟨part, named, rfl, hnamed, .inl h⟩
      rcases bind_eq_error.mp h with h | ⟨_, -, h⟩
      · exact (onlyKeys_eq_fault (fun _ => rfl) h).imp_right
          fun h => ⟨part, named, rfl, hnamed, .inr h⟩
      obtain ⟨_, h⟩ := exists_of_bind_eq_fault checkOptional_ne_fault h
      obtain ⟨_, h⟩ := exists_of_bind_eq_fault (optionalWording_ne_fault fun _ => rfl) h
      obtain ⟨_, h⟩ := exists_of_bind_eq_fault (optionalWording_ne_fault fun _ => rfl) h
      exact absurd h (optionalWording_ne_fault fun _ => rfl)
  · exact absurd h (object_ne_fault rfl)

theorem stumbles_of_checkMetadata
    (h : checkMetadata (entries.getD "metadata" .null) = .error (.fault fault)) :
    Stumbles entries fault := by
  rcases checkMetadata_eq_fault h with h | ⟨part, hpart, h⟩
  · exact .text h.of_getD
  · exact .order (.metadata (get?_of_getD hpart)) h

theorem stumbles_of_checkOptionalContext
    (h : checkOptionalContext entries = .error (.fault fault)) : Stumbles entries fault := by
  unfold checkOptionalContext at h
  split at h
  · cases h
  · rename_i context hcontext
    rcases checkContext_eq_fault h with hlacks | ⟨part, rfl, hdisordered⟩
    · exact .text (hlacks.of_get? hcontext)
    · exact .order (.context hcontext) hdisordered

theorem stumbles_of_checkMatch
    (h : checkMatch (entries.getD "match" .null) = .error (.fault fault)) :
    Stumbles entries fault := by
  rcases checkMatch_eq_fault h with h | ⟨part, named, hpart, hnamed, h⟩
  · exact .text h.of_getD
  replace hpart := get?_of_getD hpart
  rcases h with hunfit | ⟨strategy, hdisordered | ⟨hseries, h⟩ | ⟨hpairs, hpair, h⟩⟩
  · exact .strategy (.inl rfl) hpart hnamed hunfit
  · exact .order (.parameters strategy hpart) hdisordered
  · exact .order (.series hpart hseries) h
  · obtain ⟨_, _, _, rfl, hside, h⟩ := h
    exact .order (.side hpart hpairs hpair hside) h

theorem stumbles_of_checkAction
    (h : checkAction (entries.getD "action" .null) = .error (.fault fault)) :
    Stumbles entries fault := by
  rcases checkAction_eq_fault h with h | ⟨part, named, hpart, hnamed, h⟩
  · exact .text h.of_getD
  replace hpart := get?_of_getD hpart
  rcases h with hunfit | hdisordered
  · exact .strategy (.inr rfl) hpart hnamed hunfit
  · exact .order (.action hpart) hdisordered

/-- The check of a rule breaks off on nothing but what it may stumble over. -/
theorem stumbles_of_check (h : check (.map entries) = .error (.fault fault)) :
    Stumbles entries fault := by
  rw [check, checkEntries] at h
  rcases bind_eq_error.mp h with h | ⟨_, -, h⟩
  · exact (onlyKeys_eq_fault (fun _ => rfl) h).elim .text (.order .top)
  obtain ⟨_, h⟩ := exists_of_bind_eq_fault (withKeys_ne_fault fun _ => rfl) h
  rcases bind_eq_error.mp h with h | ⟨_, -, h⟩
  · exact .text (checkId_eq_fault h).of_getD
  rcases bind_eq_error.mp h with h | ⟨_, -, h⟩
  · exact .text (checkVersion_eq_fault h).of_getD
  rcases bind_eq_error.mp h with h | ⟨_, -, h⟩
  · exact .text (checkTier_eq_fault h).of_getD
  rcases bind_eq_error.mp h with h | ⟨_, -, h⟩
  · exact .text (checkTags_eq_fault h).of_getD
  rcases bind_eq_error.mp h with h | ⟨_, -, h⟩
  · exact stumbles_of_checkMetadata h
  rcases bind_eq_error.mp h with h | ⟨_, -, h⟩
  · exact stumbles_of_checkOptionalContext h
  rcases bind_eq_error.mp h with h | ⟨_, -, h⟩
  · exact stumbles_of_checkMatch h
  · exact stumbles_of_checkAction h

theorem Stumbles.label (h : Stumbles entries fault) :
    fault.label = "TypeError" ∨ fault.label = "ValueError" := by
  cases h with
  | text hlacks =>
      rw [hlacks.1]
      exact .inr rfl
  | strategy _ _ _ hunfit =>
      obtain ⟨kind, -, rfl⟩ := hunfit
      exact .inl rfl
  | order _ hdisordered =>
      obtain ⟨x, -, y, -, hfails⟩ := hdisordered
      obtain ⟨left, right, rfl⟩ := Datum.precedes?_eq_error hfails
      exact .inl rfl

end Rule

end SutraArbiter
