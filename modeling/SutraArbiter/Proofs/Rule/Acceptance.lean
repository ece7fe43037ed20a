import SutraArbiter.Proofs.Number.Share
import SutraArbiter.Proofs.Rule.Form
import SutraArbiter.Rule.Grammar
import Mathlib.Data.List.Perm.Subperm
import Mathlib.Data.List.Permutation

namespace SutraArbiter

theorem Form.isShare_float {x : Double} : IsShare (.float x) ↔ x.level.isShare = true := by
  rw [Double.isShare_iff]
  cases x <;> simp [IsShare]

theorem object_ne_ok {α : Type} (violation : Violation) (value : α) :
    object violation ≠ .ok value := by
  unfold object
  split <;> simp

namespace Rule

open Form

variable {entries : Entries} {d : Datum} {key : String}

theorem onlyKeys_iff {allowed : List String} {violation : List Datum → Violation} :
    (∃ checked, onlyKeys allowed violation entries = .ok checked) ↔
      ∀ key ∈ entries.keys, ∃ name ∈ allowed, key = .text name := by
  have hunknown : (unknownKeys allowed entries).isEmpty = true ↔
      ∀ key ∈ entries.keys, ∃ name ∈ allowed, key = .text name := by
    rw [unknownKeys, List.isEmpty_iff, List.filter_eq_nil_iff]
    simp only [Bool.not_eq_true', Bool.not_eq_false, List.any_eq_true, Datum.sameKey_text]
  rw [← hunknown]
  unfold onlyKeys
  split
  · rename_i hnone
    simpa using hnone
  · cases Datum.sorted? (unknownKeys allowed entries) <;> simp_all [object_ne_ok]

/-- The keys that may be there are the names of the slots. -/
theorem onlyKeys_iff_known {slots : List Slot} {allowed : List String}
    {violation : List Datum → Violation} (hnames : allowed.Perm (slots.map Slot.name)) :
    (∃ checked, onlyKeys allowed violation entries = .ok checked) ↔
      ∀ key ∈ entries.keys, ∃ slot ∈ slots, key = .text slot.name := by
  rw [onlyKeys_iff]
  simp only [hnames.mem_iff, List.mem_map, exists_exists_and_eq_and]

theorem withKeys_iff {required : List String} {violation : String → Violation} :
    (∃ checked, withKeys required violation entries = .ok checked) ↔
      ∀ name ∈ required, entries.has name = true := by
  have hnone : required.find? (fun key => !entries.has key) = none ↔
      ∀ name ∈ required, entries.has name = true := by
    simp [List.find?_eq_none]
  rw [← hnone]
  unfold withKeys
  cases required.find? fun key => !entries.has key <;> simp [object_ne_ok]

/-- The keys that have to be there are those of the slots that have to be filled. -/
theorem follows_iff_of_required {slots : List Slot} {required : List String}
    (hrequired : required.Perm ((slots.filter Slot.required).map Slot.name)) :
    Follows slots entries ↔
      (∀ key ∈ entries.keys, ∃ slot ∈ slots, key = .text slot.name)
        ∧ (∀ name ∈ required, entries.has name = true) ∧ ∀ slot ∈ slots, slot.Admits entries := by
  rw [follows_iff]
  simp only [hrequired.mem_iff, List.forall_mem_map, List.mem_filter, and_imp]

theorem isWording_iff : isWording d = true ↔ IsWording d := by
  cases d with
  | text s => simp [isWording, IsWording, Text.isBlankString, Text.isAllBlank]
  | _ => simp [isWording, IsWording]

theorem optionalWording_iff {violation : String → Violation} {required : Bool} :
    (∃ checked, optionalWording violation entries key = .ok checked) ↔
      Slot.Admits ⟨key, required, IsWording⟩ entries := by
  unfold optionalWording Slot.Admits
  cases entries.get? key with
  | none => simp
  | some value =>
      simp only [Option.some.injEq, forall_eq', ← isWording_iff]
      cases isWording value <;> simp [object_ne_ok]

theorem isShare_iff : isShare d = true ↔ IsShare d := by
  cases d with
  | float x =>
      rw [isShare_float]
      rfl
  | _ => simp [isShare, IsShare]

theorem checkId_iff : (∃ checked, checkId d = .ok checked) ↔ IsNumeral d := by
  cases d with
  | text s =>
      rw [IsNumeral, ← Numeral.isDotted_iff_exists]
      cases hdotted : Numeral.isDotted s.toList <;> simp [checkId, hdotted, object_ne_ok]
  | _ => simp [checkId, IsNumeral, object_ne_ok]

theorem checkVersion_iff : (∃ checked, checkVersion d = .ok checked) ↔ d = .int 1 := by
  cases d with
  | int value => by_cases hvalue : value = 1 <;> simp [checkVersion, hvalue, object_ne_ok]
  | _ => simp [checkVersion, object_ne_ok]

theorem checkTier_iff : (∃ checked, checkTier d = .ok checked) ↔ IsTier d := by
  cases d with
  | text spelling =>
      simp only [checkTier, IsTier, ← Tier.ofName?_eq_some]
      cases Tier.ofName? (Text.snakeCase spelling) <;> simp [object_ne_ok]
  | _ => simp [checkTier, IsTier, object_ne_ok]

theorem find?_isWording_eq_none {items : List Datum} :
    (items.find? fun item => !isWording item) = none ↔ ∀ item ∈ items, IsWording item := by
  simp [List.find?_eq_none, ← isWording_iff]

theorem checkTags_iff : (∃ checked, checkTags d = .ok checked) ↔ IsTags d := by
  cases d with
  | list tags =>
      rw [IsTags, ← find?_isWording_eq_none]
      unfold checkTags
      cases tags with
      | nil => simp [object_ne_ok]
      | cons first rest =>
          simp only [ne_eq, reduceCtorEq, not_false_eq_true, true_and]
          cases (first :: rest).find? fun item => !isWording item <;> simp [object_ne_ok]
  | _ => simp [checkTags, IsTags, object_ne_ok]

theorem checkMetadata_iff :
    (∃ checked, checkMetadata d = .ok checked) ↔ IsRecord metadataSlots d := by
  cases d with
  | map entries =>
      have hrequired : ["confidence", "description", "title"].Perm
          ((metadataSlots.filter Slot.required).map Slot.name) := by decide
      rw [IsRecord, follows_iff_of_required hrequired]
      refine exists_bind_iff (onlyKeys_iff_known (by decide)) fun _ _ =>
        exists_bind_iff withKeys_iff fun _ hkeys => ?_
      simp only [metadataSlots, List.forall_mem_cons, List.not_mem_nil, false_implies, implies_true,
        and_true]
      refine exists_bind_iff optionalWording_iff fun _ _ =>
        exists_bind_iff optionalWording_iff fun _ _ =>
        exists_bind_iff optionalWording_iff fun _ _ =>
        exists_bind_iff optionalWording_iff fun _ _ => ?_
      have hconfidence := withKeys_iff.mp ⟨(), hkeys⟩ "confidence" (by decide)
      refine Iff.trans ?_ (holds_getD_iff hconfidence IsShare)
      rw [← isShare_iff]
      cases isShare (Entries.getD entries "confidence" .null) with
      | false => simp [object_ne_ok]
      | true => simp [pure, Except.pure]
  | _ => simp [checkMetadata, IsRecord, object_ne_ok]

theorem checkGate_iff {required : Bool} :
    (∃ checked, checkGate entries key = .ok checked) ↔
      Slot.Admits ⟨key, required, IsMap⟩ entries := by
  unfold checkGate Slot.Admits
  cases entries.get? key with
  | none => simp
  | some value => cases value <;> simp [IsMap, object_ne_ok]

theorem checkContext_iff :
    (∃ checked, checkContext d = .ok checked) ↔ IsRecord contextSlots d := by
  cases d with
  | map entries =>
      have hoptional : ([] : List String).Perm
          ((contextSlots.filter Slot.required).map Slot.name) := by decide
      have hgate : (∀ slot ∈ contextSlots, slot.Admits entries) ↔
          Slot.Admits ⟨"forbid", false, IsMap⟩ entries
            ∧ Slot.Admits ⟨"require", false, IsMap⟩ entries := by
        simp [contextSlots, and_comm]
      rw [IsRecord, follows_iff_of_required hoptional, hgate]
      simp only [List.not_mem_nil, false_implies, implies_true, true_and]
      refine exists_bind_iff (onlyKeys_iff_known (by decide)) fun _ _ => ?_
      exact exists_bind_iff checkGate_iff fun _ _ => checkGate_iff
  | _ => simp [checkContext, IsRecord, object_ne_ok]

theorem checkOptional_iff :
    (∃ checked, checkOptional entries = .ok checked) ↔
      Slot.Admits ⟨"optional", false, IsBoolean⟩ entries := by
  unfold checkOptional Slot.Admits
  cases entries.get? "optional" with
  | none => simp
  | some value => cases value <;> simp [IsBoolean, object_ne_ok]

theorem checkActionName_iff :
    (∃ checked, checkActionName d = .ok checked) ↔ d = .text "retain_selection" := by
  cases d with
  | text name =>
      have hname : Violation.actionNames.contains name = true ↔ name = "retain_selection" := by
        simp [Violation.actionNames]
      have hchecked : checkActionName (.text name) =
          if Violation.actionNames.contains name then .ok ()
          else object (.actionStrategy (.text name)) := rfl
      rw [hchecked, Datum.text.injEq, ← hname]
      cases Violation.actionNames.contains name <;> simp [object_ne_ok]
  | _ =>
      unfold checkActionName
      split <;> simp [object_ne_ok]

theorem checkAction_iff :
    (∃ checked, checkAction d = .ok checked) ↔ IsRecord actionSlots d := by
  cases d with
  | map entries =>
      have hrequired : ["strategy"].Perm ((actionSlots.filter Slot.required).map Slot.name) := by
        decide
      rw [IsRecord, follows_iff_of_required hrequired]
      unfold checkAction
      cases hnamed : Entries.get? entries "strategy" with
      | none => simp [hnamed, Entries.has, object_ne_ok]
      | some named =>
          have hhas : ∀ name ∈ ["strategy"], Entries.has entries name = true := by
            simp [Entries.has, hnamed]
          have hnames : ("strategy" :: "optional" :: Payload.overrideNames).Perm
              (actionSlots.map Slot.name) := by decide
          have hslots : (∀ slot ∈ actionSlots, slot.Admits entries) ↔
              named = .text "retain_selection"
                ∧ Slot.Admits ⟨"optional", false, IsBoolean⟩ entries
                ∧ Slot.Admits ⟨"domain", false, IsWording⟩ entries
                ∧ Slot.Admits ⟨"gender_override", false, IsWording⟩ entries
                ∧ Slot.Admits ⟨"number_override", false, IsWording⟩ entries := by
            simp [actionSlots, Slot.Admits, hnamed]
          rw [and_iff_right hhas, hslots, and_left_comm]
          simp only [hnamed]
          exact exists_bind_iff checkActionName_iff fun _ _ =>
            exists_bind_iff (onlyKeys_iff_known hnames) fun _ _ =>
            exists_bind_iff checkOptional_iff fun _ _ =>
            exists_bind_iff optionalWording_iff fun _ _ =>
            exists_bind_iff optionalWording_iff fun _ _ =>
            optionalWording_iff
  | _ => simp [checkAction, IsRecord, object_ne_ok]

theorem checkFlagConfidence_iff :
    (∃ checked, checkFlagConfidence entries = .ok checked) ↔
      (entries.has "flag_confidence" = true → entries.has "flag" = true)
        ∧ Slot.Admits ⟨"flag_confidence", false, IsShare⟩ entries := by
  unfold checkFlagConfidence Slot.Admits
  cases hgiven : entries.get? "flag_confidence" with
  | none => simp [Entries.has, hgiven]
  | some given =>
      have hhas : entries.has "flag_confidence" = true := by simp [Entries.has, hgiven]
      simp only [hhas, true_implies, Option.some.injEq, forall_eq', ← isShare_iff]
      cases entries.has "flag" with
      | false => simp [object_ne_ok]
      | true => cases isShare given <;> simp [object_ne_ok]

theorem checkMinWords_iff :
    (∃ checked, checkMinWords entries = .ok checked) ↔
      Slot.Admits ⟨"min_words", false, IsPositive⟩ entries := by
  unfold checkMinWords Slot.Admits
  cases entries.get? "min_words" with
  | none => simp
  | some given =>
      cases given with
      | int count => by_cases hcount : 1 ≤ count <;> simp [IsPositive, hcount, object_ne_ok]
      | _ => simp [IsPositive, object_ne_ok]

theorem checkFilters_iff {required : Bool} :
    (∃ checked, checkFilters entries key = .ok checked) ↔
      Slot.Admits ⟨key, required, IsFilters⟩ entries := by
  unfold checkFilters Slot.Admits
  cases entries.get? key with
  | none => simp
  | some given =>
      cases given with
      | map filters => cases filters <;> simp [IsFilters, object_ne_ok]
      | _ => simp [IsFilters, object_ne_ok]

theorem isWordList_iff : isWordList d = true ↔ IsWords d := by
  cases d with
  | list words =>
      simp [isWordList, IsWords, ← isWording_iff]
  | _ => simp [isWordList, IsWords]

theorem badShelf?_eq_none {table : Entries} :
    badShelf? table = none ↔ ∀ entry ∈ table, IsWords entry.2 := by
  simp [badShelf?, List.find?_eq_none, ← isWordList_iff]

theorem checkLexicon_iff {place : LexiconPlace} :
    (∃ checked, checkLexicon place d = .ok checked) ↔ IsLexicon d := by
  cases d with
  | map table =>
      cases table with
      | nil => simp [checkLexicon, IsLexicon, object_ne_ok]
      | cons entry rest =>
          have hchecked : (∃ checked, checkLexicon place (.map (entry :: rest)) = .ok checked) ↔
              (∀ key ∈ Entries.keys (entry :: rest),
                  ∃ name ∈ ["iast", "devanagari"], key = .text name)
                ∧ badShelf? (entry :: rest) = none := by
            refine exists_bind_iff onlyKeys_iff fun _ _ => ?_
            cases badShelf? (entry :: rest) <;> simp [object_ne_ok, pure, Except.pure]
          have hscripts : (∀ key ∈ Entries.keys (entry :: rest),
              ∃ name ∈ ["iast", "devanagari"], key = .text name) ↔ ∀ other ∈ entry :: rest,
                other.1 = .text "iast" ∨ other.1 = .text "devanagari" := by
            simp [Entries.keys]
          rw [hchecked, hscripts, badShelf?_eq_none, IsLexicon, ← forall₂_and]
          simp
  | _ => simp [checkLexicon, IsLexicon, object_ne_ok]

/-- Two entries of which one is retained and one is dropped are all there are of two. -/
theorem exists_perm_of_sides {sides : Entries} (hlength : sides.length = 2)
    (hretain : sides.has "retain" = true) (hdrop : sides.has "drop" = true) :
    ∃ retain drop, sides.Perm [(.text "retain", retain), (.text "drop", drop)] := by
  obtain ⟨retain, hretain⟩ := Option.isSome_iff_exists.mp hretain
  obtain ⟨drop, hdrop⟩ := Option.isSome_iff_exists.mp hdrop
  refine ⟨retain, drop, (List.Subperm.perm_of_length_le ?_ hlength.le).symm⟩
  apply List.Nodup.subperm
  · simp
  · intro side hside
    rcases List.mem_pair.mp hside with rfl | rfl
    · exact Entries.mem_of_get? hretain
    · exact Entries.mem_of_get? hdrop

theorem get?_of_sides {sides : Entries} {retain drop : Datum}
    (h : sides.Perm [(.text "retain", retain), (.text "drop", drop)]) :
    sides.get? "retain" = some retain ∧ sides.get? "drop" = some drop := by
  rcases List.perm_pair.mp h with rfl | rfl <;>
    simp [Entries.get?, Entries.find?, Datum.sameKey]

theorem checkPair_iff {number : Nat} :
    (∃ checked, checkPair number d = .ok checked) ↔ IsPairing d := by
  cases d with
  | map sides =>
      unfold checkPair IsPairing
      dsimp only
      constructor
      · intro ⟨checked, h⟩
        split at h
        · rename_i hsides
          simp only [Bool.and_eq_true, decide_eq_true_eq] at hsides
          obtain ⟨⟨hlength, hretain⟩, hdrop⟩ := hsides
          obtain ⟨retain, drop, hperm⟩ := exists_perm_of_sides hlength hretain hdrop
          obtain ⟨hretained, hdropped⟩ := get?_of_sides hperm
          rw [Entries.getD_of_get?_eq_some hretained, Entries.getD_of_get?_eq_some hdropped] at h
          exact ⟨retain, drop, hperm, (exists_bind_iff checkLexicon_iff
            fun _ _ => checkLexicon_iff).mp ⟨checked, h⟩⟩
        · exact absurd h (object_ne_ok _ _)
      · intro ⟨retain, drop, hperm, hlexicons⟩
        obtain ⟨hretained, hdropped⟩ := get?_of_sides hperm
        have hlength : sides.length = 2 := hperm.length_eq
        simp only [hlength, Entries.has, hretained, hdropped, Option.isSome_some, decide_true,
          Bool.and_self, if_true, Entries.getD_of_get?_eq_some hretained,
          Entries.getD_of_get?_eq_some hdropped]
        exact (exists_bind_iff checkLexicon_iff fun _ _ => checkLexicon_iff).mpr hlexicons
  | _ => simp [checkPair, IsPairing, object_ne_ok]

theorem checkPairsFrom_iff {number : Nat} {pairs : List Datum} :
    (∃ checked, checkPairsFrom number pairs = .ok checked) ↔ ∀ pair ∈ pairs, IsPairing pair := by
  induction pairs generalizing number with
  | nil => simp [checkPairsFrom]
  | cons pair rest ih =>
      rw [List.forall_mem_cons]
      exact exists_bind_iff checkPair_iff fun _ _ => ih

theorem checkPairs_iff {required : Bool} :
    (∃ checked, checkPairs entries = .ok checked) ↔
      Slot.Admits ⟨"pairs", required, IsPairs⟩ entries := by
  unfold checkPairs Slot.Admits
  cases entries.get? "pairs" with
  | none => simp
  | some given =>
      cases given with
      | list pairs =>
          cases pairs with
          | nil => simp [IsPairs, object_ne_ok]
          | cons pair rest =>
              simp only [Option.some.injEq, forall_eq', IsPairs, ne_eq, reduceCtorEq,
                not_false_eq_true, true_and]
              exact checkPairsFrom_iff
      | _ => simp [IsPairs, object_ne_ok]

theorem checkSeries_iff {strategy : Strategy} {required : Bool} :
    (∃ checked, checkSeries strategy entries = .ok checked) ↔
      Slot.Admits ⟨"series", required, IsLexicon⟩ entries
        ∧ (strategy = .seriesRetention →
          entries.has "series" = true ∨ entries.has "flag" = true) := by
  have hsome : (∃ checked, (if strategy = .seriesRetention && !entries.has "series"
      && !entries.has "flag" then object .seriesOrFlag else pure ()) =
        (.ok checked : Except Objection Unit)) ↔
      (strategy = .seriesRetention →
        entries.has "series" = true ∨ entries.has "flag" = true) := by
    by_cases hstrategy : strategy = .seriesRetention <;> cases entries.has "series" <;>
      cases entries.has "flag" <;> simp [hstrategy, object_ne_ok, pure, Except.pure]
  unfold checkSeries Slot.Admits
  cases entries.get? "series" with
  | none => simpa using hsome
  | some table =>
      simp only [Option.some.injEq, forall_eq']
      exact exists_bind_iff checkLexicon_iff fun _ _ => hsome

/-- The slots that are checked whatever the strategy is. -/
def everySlot : List Slot :=
  [⟨"flag_confidence", false, IsShare⟩, ⟨"min_words", false, IsPositive⟩,
    ⟨"flag", false, IsWording⟩, ⟨"case_check_flag", false, IsWording⟩,
    ⟨"retain", false, IsFilters⟩, ⟨"against", false, IsFilters⟩, ⟨"pairs", false, IsPairs⟩,
    ⟨"series", false, IsLexicon⟩]

theorem exists_everySlot (strategy : Strategy) :
    ∀ slot ∈ parameterSlots strategy,
      ∃ other ∈ everySlot, other.name = slot.name ∧ other.Holds = slot.Holds := by
  cases strategy <;> simp [parameterSlots, ownSlots, everySlot]

theorem holds_everySlot (strategy : Strategy) :
    ∀ slot ∈ everySlot, ∀ other ∈ matchSlots strategy, slot.name = other.name →
      other ∈ parameterSlots strategy ∧ other.Holds = slot.Holds := by
  cases strategy <;> simp [matchSlots, parameterSlots, ownSlots, everySlot]

/-- A slot that the strategy does not have is empty. -/
theorem admits_everySlot_iff {strategy : Strategy}
    (hknown : ∀ key ∈ entries.keys, ∃ slot ∈ matchSlots strategy, key = .text slot.name) :
    (∀ slot ∈ everySlot, slot.Admits entries) ↔
      ∀ slot ∈ parameterSlots strategy, slot.Admits entries := by
  constructor
  · intro h slot hslot value hvalue
    obtain ⟨other, hother, hname, hholds⟩ := exists_everySlot strategy slot hslot
    rw [← hname] at hvalue
    rw [← hholds]
    exact h other hother value hvalue
  · intro h slot hslot value hvalue
    -- The key is known, so the strategy itself has a slot of that name.
    have hkey : Datum.text slot.name ∈ entries.keys :=
      List.mem_map_of_mem (Entries.mem_of_get? hvalue)
    obtain ⟨other, hother, hname⟩ := hknown _ hkey
    have hname := Datum.text.inj hname
    obtain ⟨hown, hholds⟩ := holds_everySlot strategy slot hslot other hother hname
    rw [hname] at hvalue
    rw [← hholds]
    exact h other hown value hvalue

theorem checkParameters_iff {strategy : Strategy} :
    (∃ checked, checkParameters strategy entries = .ok checked) ↔
      (∀ key ∈ entries.keys, ∃ slot ∈ matchSlots strategy, key = .text slot.name)
        ∧ (∀ name ∈ requiredParameters strategy, entries.has name = true)
        ∧ (entries.has "flag_confidence" = true → entries.has "flag" = true)
        ∧ (∀ slot ∈ everySlot, slot.Admits entries)
        ∧ (strategy = .seriesRetention →
          entries.has "series" = true ∨ entries.has "flag" = true) := by
  have hnames : (parameterNames strategy).Perm ((matchSlots strategy).map Slot.name) := by
    cases strategy <;> decide
  refine exists_bind_iff (onlyKeys_iff_known hnames) fun _ _ =>
    exists_bind_iff withKeys_iff fun _ _ => ?_
  simp only [everySlot, List.forall_mem_cons, List.not_mem_nil, false_implies, implies_true,
    and_true, and_assoc]
  -- That a flag goes with its confidence is part of the check of the confidence.
  rw [← and_assoc]
  exact exists_bind_iff checkFlagConfidence_iff fun _ _ =>
    exists_bind_iff checkMinWords_iff fun _ _ =>
    exists_bind_iff optionalWording_iff fun _ _ =>
    exists_bind_iff optionalWording_iff fun _ _ =>
    exists_bind_iff checkFilters_iff fun _ _ =>
    exists_bind_iff checkFilters_iff fun _ _ =>
    exists_bind_iff checkPairs_iff fun _ _ => checkSeries_iff

theorem readStrategy_eq_ok {strategy : Strategy} :
    readStrategy d = .ok strategy ↔ d = .text strategy.name := by
  cases d with
  | text name =>
      have hfit : (Datum.text name).unfitKind? = none := rfl
      unfold readStrategy
      simp only [hfit, Datum.text.injEq, ← Strategy.ofName?_eq_some]
      cases Strategy.ofName? name <;> simp [object_ne_ok]
  | _ =>
      unfold readStrategy
      split <;> simp [object_ne_ok]

theorem matches_iff {strategy : Strategy} {named : Datum}
    (hnamed : entries.get? "strategy" = some named) :
    Matches strategy entries ↔
      named = .text strategy.name
        ∧ ∃ checked, checkParameters strategy entries = .ok checked := by
  have hrequired : ("strategy" :: requiredParameters strategy).Perm
      (((matchSlots strategy).filter Slot.required).map Slot.name) := by
    cases strategy <;> decide
  have hhas : entries.has "strategy" = true := by simp [Entries.has, hnamed]
  have hslots : (∀ slot ∈ matchSlots strategy, slot.Admits entries) ↔
      named = .text strategy.name ∧ ∀ slot ∈ parameterSlots strategy, slot.Admits entries := by
    rw [matchSlots, List.forall_mem_cons]
    simp [Slot.Admits, hnamed]
  rw [checkParameters_iff]
  constructor
  · intro ⟨hfollows, hseries, hflagged⟩
    obtain ⟨hknown, hgiven, hadmits⟩ := (follows_iff_of_required hrequired).mp hfollows
    obtain ⟨hstrategy, hparameters⟩ := hslots.mp hadmits
    exact ⟨hstrategy, hknown, (List.forall_mem_cons.mp hgiven).2, hflagged,
      (admits_everySlot_iff hknown).mpr hparameters, hseries⟩
  · intro ⟨hstrategy, hknown, hgiven, hflagged, hparameters, hseries⟩
    have hadmits := hslots.mpr ⟨hstrategy, (admits_everySlot_iff hknown).mp hparameters⟩
    exact ⟨(follows_iff_of_required hrequired).mpr
      ⟨hknown, List.forall_mem_cons.mpr ⟨hhas, hgiven⟩, hadmits⟩, hseries, hflagged⟩

theorem checkMatch_iff : (∃ checked, checkMatch d = .ok checked) ↔ IsMatch d := by
  cases d with
  | map entries =>
      unfold checkMatch IsMatch
      dsimp only
      cases hnamed : Entries.get? entries "strategy" with
      | none =>
          have hnone : ∀ strategy, ¬ Matches strategy entries := by
            intro strategy h
            have hhas := h.has_strategy
            simp [Entries.has, hnamed] at hhas
          simp [hnone, object_ne_ok]
      | some named =>
          simp only [matches_iff hnamed, ← readStrategy_eq_ok]
          exact exists_bind_eq_ok
  | _ => simp [checkMatch, IsMatch, object_ne_ok]

theorem checkOptionalContext_iff {required : Bool} :
    (∃ checked, checkOptionalContext entries = .ok checked) ↔
      Slot.Admits ⟨"context", required, IsRecord contextSlots⟩ entries := by
  unfold checkOptionalContext Slot.Admits
  cases entries.get? "context" with
  | none => simp
  | some given =>
      simp only [Option.some.injEq, forall_eq']
      exact checkContext_iff

/-- What stands under a key that is there fills its slot. -/
theorem admits_iff_of_has {check : Datum → Except Objection Unit} {Holds : Datum → Prop}
    (hcheck : ∀ {d}, (∃ checked, check d = .ok checked) ↔ Holds d)
    (hhas : entries.has key = true) :
    (∃ checked, check (entries.getD key .null) = .ok checked) ↔
      Slot.Admits ⟨key, true, Holds⟩ entries :=
  hcheck.trans (holds_getD_iff hhas Holds)

/-- Data are accepted exactly when they have the form of a rule. -/
theorem check_iff : (∃ checked, check d = .ok checked) ↔ IsRule d := by
  cases d with
  | map entries =>
      have hrequired : requiredKeys.Perm ((ruleSlots.filter Slot.required).map Slot.name) := by
        decide
      have hnames : ("context" :: requiredKeys).Perm (ruleSlots.map Slot.name) := by decide
      rw [IsRule, IsRecord, follows_iff_of_required hrequired]
      refine exists_bind_iff (onlyKeys_iff_known hnames) fun _ _ =>
        exists_bind_iff withKeys_iff fun _ hkeys => ?_
      simp only [ruleSlots, List.forall_mem_cons, List.not_mem_nil, false_implies, implies_true,
        and_true]
      have hgiven := withKeys_iff.mp ⟨(), hkeys⟩
      exact exists_bind_iff (admits_iff_of_has checkId_iff (hgiven _ (by decide))) fun _ _ =>
        exists_bind_iff (admits_iff_of_has checkVersion_iff (hgiven _ (by decide))) fun _ _ =>
        exists_bind_iff (admits_iff_of_has checkTier_iff (hgiven _ (by decide))) fun _ _ =>
        exists_bind_iff (admits_iff_of_has checkTags_iff (hgiven _ (by decide))) fun _ _ =>
        exists_bind_iff (admits_iff_of_has checkMetadata_iff (hgiven _ (by decide))) fun _ _ =>
        exists_bind_iff checkOptionalContext_iff fun _ _ =>
        exists_bind_iff (admits_iff_of_has checkMatch_iff (hgiven _ (by decide))) fun _ _ =>
        admits_iff_of_has checkAction_iff (hgiven _ (by decide))
  | _ => simp [check, IsRule, IsRecord, object_ne_ok]

theorem check_eq_ok : check d = .ok () ↔ IsRule d :=
  ⟨fun h => check_iff.mp ⟨(), h⟩, fun h => (check_iff.mpr h).choose_spec⟩

end Rule

end SutraArbiter
