import SutraArbiter.Proofs.Rule.Parameters
import SutraArbiter.Rule.Compilation

namespace SutraArbiter

/-! What the check accepts is compiled: the names are registered, and everything that the
rule is made of stands in its data. -/

namespace Rule

open Form

/-- What a rule is made of. -/
structure Parts where
  id : String
  tier : Tier
  tags : List String
  metadata : Entries
  confidence : Double
  context : Entries
  strategy : Strategy
  matching : Entries
  settings : Entries

namespace Parts

def gate (parts : Parts) (key : String) : Entries :=
  match parts.context.get? key with
  | some (.map flags) => flags
  | _ => []

def plan (parts : Parts) : Plan where
  strategy := parts.strategy
  params := parts.matching.without "strategy"
  confidence := parts.confidence
  require := parts.gate "require"
  forbid := parts.gate "forbid"

def rule (parts : Parts) (source : String) (definition : Entries) : Rule where
  id := parts.id
  tier := parts.tier
  tags := Tags.sorted (parts.tags.map Text.trimString)
  title := (parts.metadata.getD "title" .null).plain
  description := (parts.metadata.getD "description" .null).plain
  reason := (parts.metadata.getD "reason" (.text usualReason)).plain
  source
  definition
  predicate := .plan parts.plan
  action := .retainSelection (parts.settings.without "strategy")

end Parts

/-- Where the parts stand in the data of a rule. -/
structure Parts.AreIn (parts : Parts) (entries : Entries) : Prop where
  id : entries.get? "rule_id" = some (.text parts.id)
  tier : ∃ spelling, entries.get? "priority_class" = some (.text spelling)
    ∧ Text.snakeCase spelling = parts.tier.name
  tags : entries.get? "scope_tags" = some (Datum.ofStrings parts.tags)
  metadata : entries.get? "metadata" = some (.map parts.metadata)
  title : parts.metadata.has "title" = true
  description : parts.metadata.has "description" = true
  confidence : ∃ given, parts.metadata.get? "confidence" = some given
    ∧ given.toDouble? = .ok parts.confidence
  context : entries.getD "context" (.map []) = .map parts.context
  require : IsMap (parts.context.getD "require" (.map []))
  forbid : IsMap (parts.context.getD "forbid" (.map []))
  matching : entries.get? "match" = some (.map parts.matching)
  strategy : parts.matching.get? "strategy" = some (.text parts.strategy.name)
  settings : entries.get? "action" = some (.map parts.settings)
  action : parts.settings.get? "strategy" = some (.text "retain_selection")

/-- The parts of a rule that is in form. -/
structure IsMadeOf (entries : Entries) (parts : Parts) : Prop extends parts.AreIn entries where
  numeral : Numeral.isDotted parts.id.toList = true
  tagged : IsTags (Datum.ofStrings parts.tags)
  told : Follows metadataSlots parts.metadata
  share : parts.confidence.level.isShare = true
  gated : Follows contextSlots parts.context
  matched : Matches parts.strategy parts.matching
  set : Follows actionSlots parts.settings

end Rule

namespace Form

variable {d : Datum} {entries : Entries} {slots : List Slot} {slot : Slot}

theorem Follows.exists_value (h : Follows slots entries) (hslot : slot ∈ slots)
    (hrequired : slot.required = true) :
    ∃ value, entries.get? slot.name = some value ∧ slot.Holds value := by
  obtain ⟨hhas, hadmits⟩ := Slot.fits_iff.mp (h.fits slot hslot)
  obtain ⟨value, hvalue⟩ := Option.isSome_iff_exists.mp (hhas hrequired)
  exact ⟨value, hvalue, hadmits value hvalue⟩

theorem Follows.admits (h : Follows slots entries) (hslot : slot ∈ slots) :
    slot.Admits entries :=
  (Slot.fits_iff.mp (h.fits slot hslot)).2

theorem IsRecord.exists_map (h : IsRecord slots d) :
    ∃ entries, d = .map entries ∧ Follows slots entries := by
  cases d with
  | map entries => exact ⟨entries, rfl, h⟩
  | _ => exact h.elim

theorem IsMap.exists_map (h : IsMap d) : ∃ entries, d = .map entries := by
  cases d with
  | map entries => exact ⟨entries, rfl⟩
  | _ => exact h.elim

theorem IsMatch.exists_map (h : IsMatch d) :
    ∃ entries strategy, d = .map entries ∧ Matches strategy entries := by
  cases d with
  | map entries => exact ⟨entries, h.choose, rfl, h.choose_spec⟩
  | _ => exact h.elim

theorem IsNumeral.exists_text (h : IsNumeral d) :
    ∃ id, d = .text id ∧ Numeral.isDotted id.toList = true := by
  cases d with
  | text id => exact ⟨id, rfl, Numeral.isDotted_iff_exists.mpr h⟩
  | _ => exact h.elim

theorem IsTier.exists_text (h : IsTier d) :
    ∃ (spelling : String) (tier : Tier), d = .text spelling
      ∧ Text.snakeCase spelling = tier.name := by
  cases d with
  | text spelling => exact ⟨spelling, h.choose, rfl, h.choose_spec⟩
  | _ => exact h.elim

theorem IsTags.exists_texts (h : IsTags d) : ∃ tags : List String, d = Datum.ofStrings tags := by
  cases d with
  | list tags => exact IsWords.exists_texts (d := .list tags) h.2
  | _ => exact h.elim

/-- A rule in form has its parts. -/
theorem IsRule.exists_context (h : IsRule (.map entries)) : ∃ context : Entries,
    entries.getD "context" (.map []) = .map context ∧ Follows contextSlots context
      ∧ IsMap (context.getD "require" (.map [])) ∧ IsMap (context.getD "forbid" (.map [])) := by
  have hcontext : Slot.Admits ⟨"context", false, IsRecord contextSlots⟩ entries :=
    Follows.admits h (by simp [ruleSlots])
  obtain ⟨context, hgate, hgated⟩ : ∃ context,
      entries.getD "context" (.map []) = .map context ∧ Follows contextSlots context := by
    rcases hcontext.getD (.map []) with hnone | hsome
    · refine ⟨[], hnone, ?_, by simp [contextSlots, Slot.Fits, Entries.get?, Entries.find?]⟩
      intro key hkey
      cases hkey
    · exact hsome.exists_map
  have hflags : ∀ key, (⟨key, false, IsMap⟩ : Slot) ∈ contextSlots →
      IsMap (Entries.getD context key (.map [])) := by
    intro key hslot
    obtain hnone | hmap := (hgated.admits hslot).getD (.map [])
    · rw [show Entries.getD context key (.map []) = .map [] from hnone]
      trivial
    · exact hmap
  exact ⟨context, hgate, hgated, hflags "require" (by simp [contextSlots]),
    hflags "forbid" (by simp [contextSlots])⟩

theorem IsRule.exists_parts (h : IsRule (.map entries)) :
    ∃ parts, Rule.IsMadeOf entries parts := by
  have hvalue : ∀ slot ∈ ruleSlots, slot.required = true →
      ∃ value, entries.get? slot.name = some value ∧ slot.Holds value :=
    fun slot hslot hrequired => Follows.exists_value h hslot hrequired
  simp only [ruleSlots, List.forall_mem_cons, true_implies, Bool.false_eq_true, false_implies,
    true_and] at hvalue
  obtain ⟨⟨_, hid, hnumeral⟩, -, ⟨_, hpriority, htier⟩, ⟨_, hscope, htags⟩, ⟨_, htold, hmetadata⟩,
    ⟨_, hmatch, hmatched⟩, ⟨_, haction, hset⟩, -⟩ := hvalue
  obtain ⟨id, rfl, hdotted⟩ := hnumeral.exists_text
  obtain ⟨spelling, tier, rfl, hspelling⟩ := htier.exists_text
  obtain ⟨tags, rfl⟩ := htags.exists_texts
  obtain ⟨metadata, rfl, hmetadata⟩ := hmetadata.exists_map
  obtain ⟨matching, strategy, rfl, hmatches⟩ := hmatched.exists_map
  obtain ⟨settings, rfl, hset⟩ := hset.exists_map
  have htitle : Entries.has metadata "title" = true :=
    (Slot.fits_iff.mp (hmetadata.fits _ List.mem_cons_self)).1 rfl
  have hdescription : Entries.has metadata "description" = true :=
    (Slot.fits_iff.mp (hmetadata.fits _ (List.mem_cons_of_mem _ List.mem_cons_self))).1 rfl
  have hslot : ⟨"confidence", true, IsShare⟩ ∈ metadataSlots := by simp [metadataSlots]
  obtain ⟨given, hgiven, hshare⟩ := hmetadata.exists_value hslot rfl
  obtain ⟨confidence, hconfidence, hshare⟩ := IsShare.exists_toDouble? hshare
  obtain ⟨_, hstrategy, rfl⟩ := hmatches.slots.exists_value List.mem_cons_self rfl
  obtain ⟨_, haction', rfl⟩ := hset.exists_value List.mem_cons_self rfl
  obtain ⟨context, hgate, hgated, hrequire, hforbid⟩ := h.exists_context
  refine ⟨⟨id, tier, tags, metadata, confidence, context, strategy, matching, settings⟩, ?_⟩
  exact {
    id := hid, numeral := hdotted, tier := ⟨spelling, hpriority, hspelling⟩, tags := hscope
    tagged := htags, metadata := htold, title := htitle, description := hdescription
    told := hmetadata, confidence := ⟨given, hgiven, hconfidence⟩, share := hshare
    context := hgate, gated := hgated, require := hrequire, forbid := hforbid, matching := hmatch
    strategy := hstrategy, matched := hmatches, settings := haction, action := haction'
    set := hset }

end Form

namespace Rule

open Form

variable {d : Datum} {entries : Entries} {parts : Parts} {source key : String} {rule : Rule}

theorem require?_of_get? {value : Datum} (h : entries.get? key = some value) :
    (Datum.map entries).require? key = .ok value := by
  simp only [Datum.require?, h]

theorem settings?_of_get? {part : Entries} (h : entries.get? key = some (.map part)) :
    settings? (.map entries) key = .ok (part.without "strategy") := by
  rw [settings?, require?_of_get? h]
  rfl

theorem strategyName?_of_get? {part : Entries} {name : Datum}
    (h : entries.get? key = some (.map part)) (hname : part.get? "strategy" = some name) :
    strategyName? (.map entries) key = .ok name := by
  rw [strategyName?, require?_of_get? h]
  exact require?_of_get? hname

/-- Every strategy is registered under the name that the grammar knows it by. -/
theorem bound_strategy (source : String) (strategy : Strategy) :
    bound Strategy.registry source .predicate (.text strategy.name) = .ok strategy := by
  cases strategy <;> rfl

theorem bound_action (source : String) :
    bound Action.registry source .action (.text "retain_selection") =
      .ok Action.retainSelection := rfl

theorem gate?_eq (h : IsMap (parts.context.getD key (.map []))) :
    gate? (.map parts.context) key = .ok (parts.gate key) := by
  obtain ⟨flags, hflags⟩ := h.exists_map
  have hgate : gate? (.map parts.context) key = .ok flags := by
    rw [gate?, Datum.getD?]
    show (parts.context.getD key (.map [])).entriesFor? "keys" = _
    rw [hflags]
    rfl
  rw [hgate, Parts.gate]
  cases hkey : parts.context.get? key with
  | none =>
      rw [Entries.getD_of_get?_eq_none hkey, Datum.map.injEq] at hflags
      rw [hflags]
  | some value =>
      rw [Entries.getD_of_get?_eq_some hkey] at hflags
      rw [hflags]

theorem Parts.AreIn.plan?_eq (h : parts.AreIn entries) :
    plan? parts.strategy (parts.matching.without "strategy") (.map parts.metadata)
      (.map parts.context) = .ok parts.plan := by
  obtain ⟨given, hgiven, hconfidence⟩ := h.confidence
  rw [plan?, require?_of_get? hgiven, ok_bind, hconfidence, ok_bind, gate?_eq h.require, ok_bind,
    gate?_eq h.forbid, ok_bind]
  rfl

theorem tags?_ofStrings (tags : List String) :
    tags? (Datum.ofStrings tags) = .ok (Tags.sorted (tags.map Text.trimString)) := by
  have htags : (tags.map Datum.text).mapM tag? = .ok (tags.map Text.trimString) := by
    rw [List.mapM_map]
    exact mapM_eq_ok fun _ _ => rfl
  unfold tags? Datum.ofStrings
  rw [Datum.items?, ok_bind, htags]
  rfl

theorem tierRead_of_snakeCase {spelling : String} {tier : Tier}
    (h : Text.snakeCase spelling = tier.name) : Tier.read (.text spelling) = .ok tier := by
  simp only [Tier.read, h, Tier.ofName?_name]

/-- What has its parts is compiled of them. -/
theorem Parts.AreIn.compile_eq (h : parts.AreIn entries) (source : String) :
    compile source entries = .ok (parts.rule source entries) := by
  obtain ⟨spelling, hpriority, htier⟩ := h.tier
  obtain ⟨title, htitle⟩ := Option.isSome_iff_exists.mp h.title
  obtain ⟨description, hdescription⟩ := Option.isSome_iff_exists.mp h.description
  have hcontext : (Datum.map entries).getD? "context" (.map []) = .ok (.map parts.context) :=
    congrArg Except.ok h.context
  have hreason : (Datum.map parts.metadata).getD? "reason" (.text usualReason) =
      .ok (parts.metadata.getD "reason" (.text usualReason)) := rfl
  simp only [compile, lift, require?_of_get? h.id, settings?_of_get? h.matching,
    settings?_of_get? h.settings, strategyName?_of_get? h.matching h.strategy,
    strategyName?_of_get? h.settings h.action, bound_strategy, bound_action,
    require?_of_get? h.metadata, hcontext, h.plan?_eq, require?_of_get? hpriority,
    tierRead_of_snakeCase htier, require?_of_get? h.tags, tags?_ofStrings,
    require?_of_get? htitle, require?_of_get? hdescription, hreason, mapError_ok, ok_bind]
  simp only [Parts.rule, Entries.getD_of_get?_eq_some htitle,
    Entries.getD_of_get?_eq_some hdescription, Datum.plain_text]
  rfl

/-- Whatever the check accepts is compiled. -/
theorem exists_compile_of_check (h : checkEntries entries = .ok ()) (source : String) :
    ∃ rule, compile source entries = .ok rule := by
  obtain ⟨parts, hparts⟩ := (check_eq_ok (d := .map entries).mp h).exists_parts
  exact ⟨_, hparts.compile_eq source⟩

theorem read_of_compile (hchecked : check (.map entries) = .ok ())
    (hcompiled : compile source entries = .ok rule) :
    read source (.map entries) = .ok rule := by
  rw [read, hchecked, mapError_ok, ok_bind]
  exact hcompiled

theorem read_of_check (hchecked : checkEntries entries = .ok ()) (hparts : parts.AreIn entries)
    (source : String) :
    read source (.map entries) = .ok (parts.rule source entries) :=
  read_of_compile hchecked (hparts.compile_eq source)

/-- The checks of the parts make up the check of the whole. -/
theorem checkEntries_of_parts
    (honly : onlyKeys ("context" :: requiredKeys) (.unknownKeys .top) entries = .ok ())
    (hwith : withKeys requiredKeys .missingKey entries = .ok ())
    (hid : checkId (entries.getD "rule_id" .null) = .ok ())
    (hversion : checkVersion (entries.getD "version" .null) = .ok ())
    (htier : checkTier (entries.getD "priority_class" .null) = .ok ())
    (htags : checkTags (entries.getD "scope_tags" .null) = .ok ())
    (hmetadata : checkMetadata (entries.getD "metadata" .null) = .ok ())
    (hcontext : checkOptionalContext entries = .ok ())
    (hmatch : checkMatch (entries.getD "match" .null) = .ok ())
    (haction : checkAction (entries.getD "action" .null) = .ok ()) :
    checkEntries entries = .ok () := by
  simp only [checkEntries, honly, hwith, hid, hversion, htier, htags, hmetadata, hcontext, hmatch,
    haction, ok_bind]

theorem read_eq_ok :
    read source d = .ok rule ↔ ∃ entries parts, d = .map entries ∧ IsRule (.map entries)
      ∧ IsMadeOf entries parts ∧ rule = parts.rule source entries := by
  unfold Rule.read
  rw [bind_eq_ok]
  constructor
  · rintro ⟨⟨⟩, hchecked, h⟩
    have hrule := check_eq_ok.mp (mapError_eq_ok.mp hchecked)
    obtain ⟨entries, rfl, hfollows⟩ := IsRecord.exists_map hrule
    obtain ⟨parts, hparts⟩ := hrule.exists_parts
    rw [Datum.entriesFor?, lift, mapError_ok, ok_bind, hparts.compile_eq] at h
    exact ⟨entries, parts, rfl, hrule, hparts, (Except.ok.inj h).symm⟩
  · rintro ⟨entries, parts, rfl, hrule, hparts, rfl⟩
    refine ⟨(), mapError_eq_ok.mpr (check_eq_ok.mpr hrule), ?_⟩
    rw [Datum.entriesFor?, lift, mapError_ok, ok_bind, hparts.compile_eq]

theorem exists_read (h : IsRule d) (source : String) : ∃ rule, read source d = .ok rule := by
  obtain ⟨entries, rfl, -⟩ := IsRecord.exists_map h
  obtain ⟨parts, hparts⟩ := h.exists_parts
  exact ⟨_, read_eq_ok.mpr ⟨entries, parts, rfl, h, hparts, rfl⟩⟩

theorem check_of_read (h : read source d = .ok rule) : check d = .ok () := by
  obtain ⟨entries, parts, rfl, hrule, -⟩ := read_eq_ok.mp h
  exact check_eq_ok.mpr hrule

theorem definition_of_read (h : read source d = .ok rule) : d = .map rule.definition := by
  obtain ⟨entries, parts, rfl, -, -, rfl⟩ := read_eq_ok.mp h
  rfl

theorem get?_id_of_read (h : read source (.map entries) = .ok rule) :
    entries.get? "rule_id" = some (.text rule.id) := by
  obtain ⟨_, parts, ⟨⟩, -, hparts, rfl⟩ := read_eq_ok.mp h
  exact hparts.id

theorem getD_id_of_read (h : read source (.map entries) = .ok rule) :
    entries.getD "rule_id" .null = .text rule.id :=
  Entries.getD_of_get?_eq_some (get?_id_of_read h)

theorem isDotted_of_read (h : read source d = .ok rule) :
    Numeral.isDotted rule.id.toList = true := by
  obtain ⟨entries, parts, -, -, hparts, rfl⟩ := read_eq_ok.mp h
  exact hparts.numeral

/-- Nothing but the check refuses a rule. -/
theorem read_eq_error {failure : Failure} :
    read source d = .error failure ↔
      ∃ objection, check d = .error objection ∧ failure = .ofObjection source objection := by
  unfold Rule.read
  rw [bind_eq_error]
  constructor
  · rintro (h | ⟨⟨⟩, hchecked, h⟩)
    · cases hcheck : check d with
      | error objection =>
          rw [hcheck] at h
          exact ⟨objection, rfl, (Except.error.inj h).symm⟩
      | ok _ =>
          rw [hcheck] at h
          cases h
    · have hrule := check_eq_ok.mp (mapError_eq_ok.mp hchecked)
      obtain ⟨entries, rfl, -⟩ := IsRecord.exists_map hrule
      obtain ⟨parts, hparts⟩ := hrule.exists_parts
      rw [Datum.entriesFor?, lift, mapError_ok, ok_bind, hparts.compile_eq] at h
      cases h
  · rintro ⟨objection, hchecked, rfl⟩
    rw [hchecked]
    exact .inl rfl

/-- A rule is accepted exactly when it has the form of a rule, and is read then. -/
theorem exists_read_iff_isRule (source : String) (d : Datum) :
    (check d = .ok () ↔ IsRule d) ∧ ((∃ rule, Rule.read source d = .ok rule) ↔ IsRule d) := by
  refine ⟨check_eq_ok, ?_⟩
  constructor
  · rintro ⟨rule, hread⟩
    obtain ⟨entries, parts, rfl, hrule, -⟩ := read_eq_ok.mp hread
    exact hrule
  · exact fun hrule => exists_read hrule source

end Rule

end SutraArbiter
