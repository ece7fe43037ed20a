import SutraArbiter.Proofs.Registry.History
import SutraArbiter.Proofs.Rule.Acceptance

namespace SutraArbiter

/-! What registration makes of a submission, whatever its parts are: it enters the rule
that the submission stands for, or tells the first thing that is wrong with it, or breaks
off where this cannot be told or the tags cannot be gone through. -/

/-- How a malformed rule is refused; an integer without a text cannot be quoted. -/
def MalformedRule.failure (fault : MalformedRule) : Failure :=
  if Datum.anyOverlong fault.evidence then .fault .overlongInteger else .malformed fault

namespace Draft

def IsNamed (draft : Draft) (id : String) : Prop :=
  draft.id = .text id ∧ Form.IsNumeral (.text id)

def IsTiered (draft : Draft) (tier : Tier) : Prop :=
  ∃ spelling, draft.tier = .text spelling ∧ Text.snakeCase spelling = tier.name

/-- The tags are a collection of texts, at least one and none of them blank. -/
structure IsScoped (draft : Draft) (items : List Datum) : Prop where
  collection : draft.tags.isText = false
  listed : draft.tags.items? = .ok items
  some_item : items ≠ []
  named : ∀ item ∈ items, Form.IsWording item

structure IsInForm (draft : Draft) (id : String) : Prop where
  id : draft.IsNamed id
  tier : ∃ tier, draft.IsTiered tier
  scope : ∃ items, draft.IsScoped items
  predicate : ∃ part, draft.predicate = .callable part
  action : ∃ part, draft.action = .callable part

/-- The rule has the parts of the submission: the tier under its name, and the trimmed
tags once each and in order. -/
structure StandsFor (draft : Draft) (rule : Rule) : Prop where
  id : draft.IsNamed rule.id
  tier : draft.IsTiered rule.tier
  tags : ∃ items, draft.IsScoped items
    ∧ ∀ tag, tag ∈ rule.tags ↔ ∃ text, .text text ∈ items ∧ Text.trimString text = tag
  ordered : rule.tags.Pairwise fun s t => s < t
  predicate : draft.predicate = .callable rule.predicate
  action : draft.action = .callable rule.action
  told : rule.title = draft.title ∧ rule.description = draft.description
    ∧ rule.reason = draft.reason ∧ rule.source = draft.source
    ∧ rule.definition = draft.definition

/-- The first thing that is wrong with a submission, in the order id, tier, tags,
predicate, action. -/
inductive Errs (draft : Draft) : MalformedRule → Prop
  | id (unnamed : ∀ id, ¬ draft.IsNamed id) : Errs draft (.id draft.id)
  | tier {id : String} (named : draft.IsNamed id) (untiered : ∀ tier, ¬ draft.IsTiered tier) :
      Errs draft (.tier id draft.tier)
  | wholeText {id : String} (named : draft.IsNamed id) (tiered : ∃ tier, draft.IsTiered tier)
      (text : draft.tags.isText = true) : Errs draft (.tags id)
  | unnamedTag {id : String} {items : List Datum} (named : draft.IsNamed id)
      (tiered : ∃ tier, draft.IsTiered tier) (collection : draft.tags.isText = false)
      (listed : draft.tags.items? = .ok items) (unnamed : ∃ item ∈ items, ¬ Form.IsWording item) :
      Errs draft (.tags id)
  | noTags {id : String} (named : draft.IsNamed id) (tiered : ∃ tier, draft.IsTiered tier)
      (collection : draft.tags.isText = false) (empty : draft.tags.items? = .ok []) :
      Errs draft (.noTags id)
  | predicate {id : String} (named : draft.IsNamed id) (tiered : ∃ tier, draft.IsTiered tier)
      (tagged : ∃ items, draft.IsScoped items)
      (datum : ∀ part, draft.predicate ≠ .callable part) : Errs draft (.predicate id)
  | action {id : String} (named : draft.IsNamed id) (tiered : ∃ tier, draft.IsTiered tier)
      (tagged : ∃ items, draft.IsScoped items) (callable : ∃ part, draft.predicate = .callable part)
      (datum : ∀ part, draft.action ≠ .callable part) : Errs draft (.action id)

/-- What is wrong with the submission is not told: it holds an integer without a text, or
the tags cannot be gone through. -/
inductive BreaksOff (draft : Draft) : Fault → Prop
  | untold {fault : MalformedRule} (errs : draft.Errs fault)
      (long : Datum.anyOverlong fault.evidence = true) : BreaksOff draft .overlongInteger
  | tags {id : String} (named : draft.IsNamed id) (tiered : ∃ tier, draft.IsTiered tier)
      (unlisted : ∀ items, draft.tags.items? ≠ .ok items) :
      BreaksOff draft (.notIterable draft.tags.kind)

variable {draft : Draft} {id : String} {tier : Tier} {tags : List String} {items : List Datum}
  {item : Datum} {rule : Rule} {failure : Failure}

theorem malformed_eq {α : Type} (fault : MalformedRule) :
    (malformed fault : Except Failure α) = .error fault.failure := by
  unfold malformed MalformedRule.failure
  split <;> rfl

theorem isNumeral_text : Form.IsNumeral (.text id) ↔ Numeral.isDotted id.toList = true :=
  Numeral.isDotted_iff_exists.symm

theorem readId_eq_ok_iff : draft.readId = .ok id ↔ draft.IsNamed id := by
  rw [IsNamed, isNumeral_text]
  constructor
  · exact readId_eq_ok
  · rintro ⟨hid, hdotted⟩
    simp [readId, hid, hdotted]

theorem readId_eq_error :
    draft.readId = .error failure ↔
      (∀ id, ¬ draft.IsNamed id) ∧ failure = (MalformedRule.id draft.id).failure := by
  simp only [← readId_eq_ok_iff]
  unfold readId
  split
  · rename_i given hid
    by_cases hdotted : Numeral.isDotted given.toList = true
    · simp [hdotted]
    · simp [hdotted, malformed_eq, hid, eq_comm]
  · simp [malformed_eq, eq_comm]

theorem readTier_eq_ok_iff : draft.readTier id = .ok tier ↔ draft.IsTiered tier := by
  unfold readTier IsTiered
  cases draft.tier with
  | text spelling =>
      simp only [Tier.read, ← Tier.ofName?_eq_some]
      cases hfound : Tier.ofName? (Text.snakeCase spelling) <;> simp [malformed_eq, hfound]
  | _ => simp [Tier.read, malformed_eq]

theorem readTier_eq_error :
    draft.readTier id = .error failure ↔
      (∀ tier, ¬ draft.IsTiered tier) ∧ failure = (MalformedRule.tier id draft.tier).failure := by
  simp only [← @readTier_eq_ok_iff draft id]
  unfold readTier
  cases Tier.read draft.tier <;> simp [malformed_eq, eq_comm]

theorem tag?_text_eq_some {text tag : String} :
    tag? (.text text) = some tag ↔ Form.IsWording (.text text) ∧ Text.trimString text = tag := by
  rw [← Rule.isWording_iff]
  by_cases hblank : Text.isBlankString text = true <;> simp [tag?, Rule.isWording, hblank]

theorem isSome_tag? : (tag? item).isSome = true ↔ Form.IsWording item := by
  rw [Option.isSome_iff_exists]
  cases item with
  | text s => simp [tag?_text_eq_some]
  | _ => simp [tag?, Form.IsWording]

theorem readTags_of_text (h : draft.tags.isText = true) :
    draft.readTags id = .error (MalformedRule.tags id).failure := by
  obtain ⟨text, htext⟩ := Datum.isText_iff.mp h
  simp only [readTags, htext, malformed_eq]

theorem readTags_of_collection (h : draft.tags.isText = false) :
    draft.readTags id = draft.tags.items?.mapError Failure.fault >>= fun items =>
      if items.any fun item => (tag? item).isNone then .error (MalformedRule.tags id).failure
      else if items.isEmpty then .error (MalformedRule.noTags id).failure
      else .ok (Tags.sorted (items.filterMap tag?)) := by
  unfold readTags
  split
  · rename_i htext
    simp [htext, Datum.isText] at h
  · simp only [malformed_eq]
    rfl

theorem readTags_eq_ok_iff :
    draft.readTags id = .ok tags ↔
      ∃ items, draft.IsScoped items ∧ tags = Tags.sorted (items.filterMap tag?) := by
  constructor
  · intro h
    have hcollection : draft.tags.isText = false := by
      by_contra htext
      simp [readTags_of_text (by simpa using htext)] at h
    obtain ⟨items, hlisted, hsome, hnamed, rfl⟩ := readTags_eq_ok h
    have hwords : ∀ item ∈ items, Form.IsWording item :=
      fun item hitem => isSome_tag?.mp (hnamed item hitem)
    exact ⟨items, ⟨hcollection, hlisted, hsome, hwords⟩, rfl⟩
  · rintro ⟨items, hscoped, rfl⟩
    have hnamed : ∀ item ∈ items, (tag? item).isSome = true :=
      fun item hitem => isSome_tag?.mpr (hscoped.named item hitem)
    rw [readTags_of_collection hscoped.collection, hscoped.listed, mapError_ok, ok_bind, if_neg,
      if_neg]
    · simpa using hscoped.some_item
    · simpa [Option.isSome_iff_ne_none] using hnamed

/-- The ways in which the tags are refused. -/
theorem readTags_eq_error :
    draft.readTags id = .error failure ↔
      draft.tags.isText = true ∧ failure = (MalformedRule.tags id).failure
        ∨ draft.tags.isText = false
          ∧ ((∃ items, draft.tags.items? = .ok items ∧ (∃ item ∈ items, ¬ Form.IsWording item)
              ∧ failure = (MalformedRule.tags id).failure)
            ∨ draft.tags.items? = .ok [] ∧ failure = (MalformedRule.noTags id).failure
            ∨ ∃ fault, draft.tags.items? = .error fault ∧ failure = .fault fault) := by
  by_cases htext : draft.tags.isText = true
  · simp [readTags_of_text htext, htext, eq_comm]
  · rw [Bool.not_eq_true] at htext
    rw [readTags_of_collection htext]
    cases hitems : draft.tags.items? with
    | error fault =>
        rw [mapError_error, error_bind]
        simp [htext, eq_comm (a := failure)]
    | ok items =>
        have hunnamed : (items.any fun item => (tag? item).isNone) = true ↔
            ∃ item ∈ items, ¬ Form.IsWording item := by
          simp [← isSome_tag?]
        rw [mapError_ok, ok_bind]
        split
        · rename_i hany
          have hsome : items ≠ [] := by
            rintro rfl
            simp at hany
          simp [htext, hunnamed.mp hany, hsome, eq_comm (a := failure)]
        · rename_i hany
          rw [hunnamed] at hany
          split
          · rename_i hnone
            rw [List.isEmpty_iff] at hnone
            simp [htext, hnone, eq_comm (a := failure)]
          · rename_i hsome
            rw [List.isEmpty_iff] at hsome
            simp [htext, hany, hsome]

theorem readCallback_eq_ok_iff {α : Type} {fault : MalformedRule} {callback : Callback α}
    {part : α} : readCallback fault callback = .ok part ↔ callback = .callable part := by
  refine ⟨readCallback_eq_ok, ?_⟩
  rintro rfl
  rfl

theorem readCallback_eq_error {α : Type} {fault : MalformedRule} {callback : Callback α} :
    readCallback fault callback = .error failure ↔
      (∀ part, callback ≠ .callable part) ∧ failure = fault.failure := by
  cases callback with
  | callable given => simp [readCallback]
  | datum given => simp [readCallback, malformed_eq, eq_comm]

theorem mem_sorted_filterMap {tag : String} (hscoped : draft.IsScoped items) :
    tag ∈ Tags.sorted (items.filterMap tag?) ↔
      ∃ text, .text text ∈ items ∧ Text.trimString text = tag := by
  rw [Tags.mem_sorted, List.mem_filterMap]
  constructor
  · rintro ⟨item, hitem, htag⟩
    cases item with
    | text text => exact ⟨text, hitem, (tag?_text_eq_some.mp htag).2⟩
    | _ => simp [tag?] at htag
  · rintro ⟨text, htext, htrim⟩
    exact ⟨_, htext, tag?_text_eq_some.mpr ⟨hscoped.named _ htext, htrim⟩⟩

/-- The tags of a rule are fixed by which they are and their order. -/
theorem readTags_eq_ok_iff_mem :
    draft.readTags id = .ok tags ↔
      (∃ items, draft.IsScoped items
        ∧ ∀ tag, tag ∈ tags ↔ ∃ text, .text text ∈ items ∧ Text.trimString text = tag)
      ∧ tags.Pairwise fun s t => s < t := by
  rw [readTags_eq_ok_iff]
  constructor
  · rintro ⟨items, hscoped, rfl⟩
    exact ⟨⟨items, hscoped, fun tag => mem_sorted_filterMap hscoped⟩, Tags.pairwise_sorted _⟩
  · rintro ⟨⟨items, hscoped, hmem⟩, hordered⟩
    have hdistinct : tags.Nodup := hordered.imp fun {s t} hst => String.ne_of_lt hst
    refine ⟨items, hscoped, ?_⟩
    have hperm : tags.Perm (Tags.sorted (items.filterMap tag?)) :=
      (List.perm_ext_iff_of_nodup hdistinct (Tags.nodup_sorted _)).mpr fun tag => by
        rw [hmem, mem_sorted_filterMap hscoped]
    exact List.Perm.eq_of_pairwise (fun s t _ _ hst hts => absurd hts (String.lt_asymm hst))
      hordered (Tags.pairwise_sorted _) hperm

theorem toRule_eq_ok_iff : draft.toRule = .ok rule ↔ draft.StandsFor rule := by
  simp only [toRule, bind_eq_ok, readId_eq_ok_iff, readTier_eq_ok_iff, readTags_eq_ok_iff_mem,
    readCallback_eq_ok_iff]
  constructor
  · rintro ⟨id, hid, tier, htier, tags, ⟨htags, hordered⟩, predicate, hpredicate, action,
      haction, h⟩
    cases h
    exact ⟨hid, htier, htags, hordered, hpredicate, haction, rfl, rfl, rfl, rfl, rfl⟩
  · rintro ⟨hid, htier, htags, hordered, hpredicate, haction, h⟩
    refine ⟨_, hid, _, htier, _, ⟨htags, hordered⟩, _, hpredicate, _, haction, ?_⟩
    cases rule
    simp_all [pure, Except.pure]

theorem exists_toRule_iff :
    (∃ rule, draft.toRule = .ok rule ∧ rule.id = id) ↔ draft.IsInForm id := by
  constructor
  · rintro ⟨rule, hrule, rfl⟩
    obtain ⟨hid, htier, ⟨items, hscoped, -⟩, -, hpredicate, haction, -⟩ := toRule_eq_ok_iff.mp hrule
    exact ⟨hid, ⟨_, htier⟩, ⟨items, hscoped⟩, ⟨_, hpredicate⟩, ⟨_, haction⟩⟩
  · rintro ⟨hid, ⟨tier, htier⟩, ⟨items, hscoped⟩, ⟨predicate, hpredicate⟩, ⟨action, haction⟩⟩
    have htags := (@readTags_eq_ok_iff draft id _).mpr ⟨items, hscoped, rfl⟩
    simp only [toRule, readId_eq_ok_iff.mpr hid, readTier_eq_ok_iff.mpr htier, htags,
      readCallback_eq_ok_iff.mpr hpredicate, readCallback_eq_ok_iff.mpr haction, ok_bind]
    exact ⟨_, rfl, rfl⟩

theorem isText_of_items?_eq_error {d : Datum} {fault : Fault} (h : d.items? = .error fault) :
    d.isText = false ∧ fault = .notIterable d.kind := by
  cases d <;> simp_all [Datum.items?, Datum.isText]

/-- A submission is refused for the first thing that is wrong with it. -/
theorem toRule_eq_error :
    draft.toRule = .error failure ↔
      (∃ fault, draft.Errs fault ∧ failure = fault.failure)
        ∨ (∃ id, draft.IsNamed id) ∧ (∃ tier, draft.IsTiered tier)
          ∧ ∃ fault, draft.tags.items? = .error fault ∧ failure = .fault fault := by
  simp only [toRule, bind_eq_error, readId_eq_error, readId_eq_ok_iff, readTier_eq_error,
    readTier_eq_ok_iff, readTags_eq_error, readTags_eq_ok_iff, readCallback_eq_error,
    readCallback_eq_ok_iff]
  constructor
  · rintro (⟨hunnamed, rfl⟩ | ⟨id, hid, ⟨huntiered, rfl⟩ | ⟨tier, htier, htags | hcallbacks⟩⟩)
    · exact .inl ⟨_, .id hunnamed, rfl⟩
    · exact .inl ⟨_, .tier hid huntiered, rfl⟩
    · rcases htags with ⟨htext, rfl⟩ | ⟨hcollection, ⟨items, hlisted, hunnamed, rfl⟩ |
        ⟨hnone, rfl⟩ | hunlisted⟩
      · exact .inl ⟨_, .wholeText hid ⟨tier, htier⟩ htext, rfl⟩
      · exact .inl ⟨_, .unnamedTag hid ⟨tier, htier⟩ hcollection hlisted hunnamed, rfl⟩
      · exact .inl ⟨_, .noTags hid ⟨tier, htier⟩ hcollection hnone, rfl⟩
      · exact .inr ⟨⟨id, hid⟩, ⟨tier, htier⟩, hunlisted⟩
    · obtain ⟨tags, ⟨items, hscoped, -⟩, ⟨hdatum, rfl⟩ | ⟨predicate, hpredicate, hrest⟩⟩ :=
        hcallbacks
      · exact .inl ⟨_, .predicate hid ⟨tier, htier⟩ ⟨items, hscoped⟩ hdatum, rfl⟩
      · obtain ⟨hdatum, rfl⟩ | ⟨action, haction, hmade⟩ := hrest
        · exact .inl ⟨_, .action hid ⟨tier, htier⟩ ⟨items, hscoped⟩ ⟨_, hpredicate⟩ hdatum, rfl⟩
        · cases hmade
  · rintro (⟨fault, herrs, rfl⟩ | ⟨⟨id, hid⟩, ⟨tier, htier⟩, fault, hunlisted, rfl⟩)
    · cases herrs with
      | id hunnamed => exact .inl ⟨hunnamed, rfl⟩
      | tier hid huntiered => exact .inr ⟨_, hid, .inl ⟨huntiered, rfl⟩⟩
      | wholeText hid htier htext =>
          obtain ⟨tier, htier⟩ := htier
          exact .inr ⟨_, hid, .inr ⟨tier, htier, .inl (.inl ⟨htext, rfl⟩)⟩⟩
      | unnamedTag hid htier hcollection hlisted hunnamed =>
          obtain ⟨tier, htier⟩ := htier
          exact .inr ⟨_, hid, .inr ⟨tier, htier,
            .inl (.inr ⟨hcollection, .inl ⟨_, hlisted, hunnamed, rfl⟩⟩)⟩⟩
      | noTags hid htier hcollection hnone =>
          obtain ⟨tier, htier⟩ := htier
          exact .inr ⟨_, hid, .inr ⟨tier, htier,
            .inl (.inr ⟨hcollection, .inr (.inl ⟨hnone, rfl⟩)⟩)⟩⟩
      | predicate hid htier hscoped hdatum =>
          obtain ⟨tier, htier⟩ := htier
          obtain ⟨items, hscoped⟩ := hscoped
          exact .inr ⟨_, hid, .inr ⟨tier, htier,
            .inr ⟨_, ⟨items, hscoped, rfl⟩, .inl ⟨hdatum, rfl⟩⟩⟩⟩
      | action hid htier hscoped hpredicate hdatum =>
          obtain ⟨tier, htier⟩ := htier
          obtain ⟨items, hscoped⟩ := hscoped
          obtain ⟨predicate, hpredicate⟩ := hpredicate
          exact .inr ⟨_, hid, .inr ⟨tier, htier,
            .inr ⟨_, ⟨items, hscoped, rfl⟩, .inr ⟨predicate, hpredicate, .inl ⟨hdatum, rfl⟩⟩⟩⟩⟩
    · have hcollection := (isText_of_items?_eq_error hunlisted).1
      exact .inr ⟨id, hid, .inr ⟨tier, htier,
        .inl (.inr ⟨hcollection, .inr (.inr ⟨fault, hunlisted, rfl⟩)⟩)⟩⟩

theorem failure_eq_malformed {fault given : MalformedRule} :
    .malformed given = fault.failure ↔
      given = fault ∧ Datum.anyOverlong fault.evidence = false := by
  unfold MalformedRule.failure
  cases Datum.anyOverlong fault.evidence <;> simp

theorem failure_eq_fault {given : Fault} {fault : MalformedRule} :
    .fault given = fault.failure ↔
      given = .overlongInteger ∧ Datum.anyOverlong fault.evidence = true := by
  unfold MalformedRule.failure
  cases Datum.anyOverlong fault.evidence <;> simp

theorem toRule_eq_malformed {fault : MalformedRule} :
    draft.toRule = .error (.malformed fault) ↔
      draft.Errs fault ∧ Datum.anyOverlong fault.evidence = false := by
  simp only [toRule_eq_error, failure_eq_malformed, reduceCtorEq, and_false, exists_false, or_false]
  constructor
  · rintro ⟨fault, herrs, rfl, hshort⟩
    exact ⟨herrs, hshort⟩
  · rintro ⟨herrs, hshort⟩
    exact ⟨fault, herrs, rfl, hshort⟩

theorem toRule_eq_fault {fault : Fault} :
    draft.toRule = .error (.fault fault) ↔ draft.BreaksOff fault := by
  simp only [toRule_eq_error, failure_eq_fault, Failure.fault.injEq]
  constructor
  · rintro (⟨errs, herrs, rfl, hlong⟩ | ⟨⟨id, hid⟩, htier, other, hunlisted, rfl⟩)
    · exact .untold herrs hlong
    · obtain rfl := (isText_of_items?_eq_error hunlisted).2
      exact .tags hid htier fun items hitems => by simp [hitems] at hunlisted
  · rintro (⟨herrs, hlong⟩ | ⟨hid, htier, hunlisted⟩)
    · exact .inl ⟨_, herrs, rfl, hlong⟩
    · cases hitems : draft.tags.items? with
      | ok items => exact absurd hitems (hunlisted items)
      | error fault =>
          obtain rfl := (isText_of_items?_eq_error hitems).2
          exact .inr ⟨⟨_, hid⟩, htier, _, rfl, rfl⟩

theorem toRule_eq_error_cases (h : draft.toRule = .error failure) :
    (∃ fault, failure = .malformed fault) ∨ ∃ fault, failure = .fault fault := by
  rcases toRule_eq_error.mp h with ⟨fault, -, rfl⟩ | ⟨-, -, fault, -, rfl⟩
  · unfold MalformedRule.failure
    split
    · exact .inr ⟨_, rfl⟩
    · exact .inl ⟨_, rfl⟩
  · exact .inr ⟨_, rfl⟩

theorem toRule_ne_frozen : draft.toRule ≠ .error (.frozen id) := by
  intro h
  rcases toRule_eq_error_cases h with ⟨fault, hfault⟩ | ⟨fault, hfault⟩ <;> cases hfault

theorem toRule_ne_duplicateId : draft.toRule ≠ .error (.duplicateId id) := by
  intro h
  rcases toRule_eq_error_cases h with ⟨fault, hfault⟩ | ⟨fault, hfault⟩ <;> cases hfault

theorem BreaksOff.label {fault : Fault} (h : draft.BreaksOff fault) :
    fault.label = "TypeError" ∨ fault.label = "ValueError" := by
  cases h with
  | untold => exact .inr rfl
  | tags => exact .inl rfl

/-- A submission that is not in form is told so, unless its reading breaks off. -/
theorem exists_toRule_eq_malformed_iff :
    (∃ fault, draft.toRule = .error (.malformed fault)) ↔
      (¬ ∃ id, draft.IsInForm id) ∧ ∀ fault, ¬ draft.BreaksOff fault := by
  simp only [← exists_toRule_iff, ← toRule_eq_fault]
  cases hread : draft.toRule with
  | ok rule => simp
  | error failure =>
      rcases toRule_eq_error_cases hread with ⟨fault, rfl⟩ | ⟨fault, rfl⟩ <;> simp

end Draft

namespace Registry

open Draft

variable {registry : Registry} {submission : Submission} {failure : Failure} {id : String}

theorem isSome_find? : (registry.find? id).isSome = true ↔ id ∈ registry.ids := by
  rw [find?, List.find?_isSome, ids, List.mem_map]
  simp

theorem find?_eq_none_iff : registry.find? id = none ↔ id ∉ registry.ids := by
  rw [← isSome_find?, Option.isSome_iff_ne_none, not_not]

theorem register_eq_error :
    registry.register submission = .error failure ↔
      registry.frozen = true
          ∧ ((∃ id, submission.shownId? = .ok id ∧ failure = .frozen id)
            ∨ ∃ fault, submission.shownId? = .error fault ∧ failure = .fault fault)
        ∨ registry.frozen = false
          ∧ (submission.toRule = .error failure
            ∨ ∃ rule, submission.toRule = .ok rule ∧ rule.id ∈ registry.ids
              ∧ failure = .duplicateId rule.id) := by
  unfold register
  cases registry.frozen with
  | true =>
      cases submission.shownId? <;> simp [eq_comm (a := failure)]
  | false =>
      cases submission.toRule with
      | error cause => simp
      | ok rule =>
          by_cases hfound : (registry.find? rule.id).isSome = true
          · simp [hfound, isSome_find?.mp hfound, eq_comm (a := failure)]
          · have hfresh := mt isSome_find?.mpr hfound
            simp [hfound, hfresh, pure, Except.pure]

variable {draft : Draft} {fault : Fault}

theorem register_eq_frozen :
    registry.register (.draft draft) = .error (.frozen id) ↔
      registry.frozen = true ∧ draft.id.plain? = .ok id := by
  simp [register_eq_error, Submission.shownId?, Submission.toRule, toRule_ne_frozen]

theorem register_eq_duplicateId :
    registry.register (.draft draft) = .error (.duplicateId id) ↔
      registry.frozen = false ∧ (∃ rule, draft.toRule = .ok rule ∧ rule.id = id)
        ∧ id ∈ registry.ids := by
  rw [register_eq_error]
  constructor
  · rintro (⟨-, ⟨shown, -, h⟩ | ⟨fault, -, h⟩⟩ | ⟨hopen, hread | ⟨rule, hrule, htaken, h⟩⟩)
    · cases h
    · cases h
    · exact absurd hread toRule_ne_duplicateId
    · cases h
      exact ⟨hopen, ⟨rule, hrule, rfl⟩, htaken⟩
  · rintro ⟨hopen, ⟨rule, hrule, rfl⟩, htaken⟩
    exact .inr ⟨hopen, .inr ⟨rule, hrule, htaken, rfl⟩⟩

theorem register_eq_malformed {fault : MalformedRule} :
    registry.register (.draft draft) = .error (.malformed fault) ↔
      registry.frozen = false ∧ draft.toRule = .error (.malformed fault) := by
  simp [register_eq_error, Submission.toRule]

theorem register_eq_fault :
    registry.register (.draft draft) = .error (.fault fault) ↔
      registry.frozen = true ∧ draft.id.plain? = .error fault
        ∨ registry.frozen = false ∧ draft.toRule = .error (.fault fault) := by
  simp [register_eq_error, Submission.shownId?, Submission.toRule]

/-- A submission is entered, or told that it comes too late, or that its id is taken, or
what is wrong with it; nothing else escapes but where it breaks off. -/
theorem register_classifies (registry : Registry) (draft : Draft) :
    (∀ next entry, registry.register (.draft draft) = .ok (next, entry) ↔
        registry.frozen = false ∧ draft.StandsFor entry.toRule ∧ entry.id ∉ registry.ids
          ∧ entry.index = registry.entries.length ∧ next = (registry.enter entry.toRule).1)
      ∧ ((∃ entered, registry.register (.draft draft) = .ok entered) ↔
        registry.frozen = false ∧ ∃ id, draft.IsInForm id ∧ id ∉ registry.ids)
      ∧ (∀ id, registry.register (.draft draft) = .error (.frozen id) ↔
        registry.frozen = true ∧ draft.id.plain? = .ok id)
      ∧ (∀ id, registry.register (.draft draft) = .error (.duplicateId id) ↔
        registry.frozen = false ∧ draft.IsInForm id ∧ id ∈ registry.ids)
      ∧ (∀ fault, registry.register (.draft draft) = .error (.malformed fault) ↔
        registry.frozen = false ∧ draft.Errs fault ∧ Datum.anyOverlong fault.evidence = false)
      ∧ ((∃ fault, registry.register (.draft draft) = .error (.malformed fault)) ↔
        registry.frozen = false ∧ (¬ ∃ id, draft.IsInForm id)
          ∧ ∀ fault, ¬ draft.BreaksOff fault)
      ∧ (∀ fault, registry.register (.draft draft) = .error (.fault fault) ↔
        registry.frozen = true ∧ draft.id.isOverlong = true ∧ fault = .overlongInteger
          ∨ registry.frozen = false ∧ draft.BreaksOff fault)
      ∧ ∀ failure, registry.register (.draft draft) = .error failure →
        (∃ id, failure = .frozen id) ∨ (∃ id, failure = .duplicateId id)
          ∨ (∃ fault, failure = .malformed fault)
          ∨ ∃ fault, failure = .fault fault
            ∧ (fault.label = "TypeError" ∨ fault.label = "ValueError") := by
  refine ⟨fun next entry => ?_, ?_, fun id => ?_, fun id => ?_, fun fault => ?_, ?_,
    fun fault => ?_, fun failure h => ?_⟩
  · rw [register_eq_ok]
    constructor
    · rintro ⟨hopen, rule, hrule, hfresh, henter⟩
      cases henter
      exact ⟨hopen, toRule_eq_ok_iff.mp hrule, find?_eq_none_iff.mp hfresh, rfl, rfl⟩
    · rintro ⟨hopen, hstands, hfresh, hindex, rfl⟩
      refine ⟨hopen, _, toRule_eq_ok_iff.mpr hstands, find?_eq_none_iff.mpr hfresh, ?_⟩
      cases entry
      cases hindex
      rfl
  · simp only [← exists_toRule_iff, Prod.exists, register_eq_ok, ← find?_eq_none_iff]
    constructor
    · rintro ⟨next, entry, hopen, rule, hrule, hfresh, -⟩
      exact ⟨hopen, _, ⟨rule, hrule, rfl⟩, hfresh⟩
    · rintro ⟨hopen, id, ⟨rule, hrule, rfl⟩, hfresh⟩
      exact ⟨_, _, hopen, rule, hrule, hfresh, rfl⟩
  · rw [register_eq_frozen]
  · rw [register_eq_duplicateId, exists_toRule_iff]
  · rw [register_eq_malformed, toRule_eq_malformed]
  · simp only [register_eq_malformed, exists_and_left, exists_toRule_eq_malformed_iff]
  · rw [register_eq_fault, toRule_eq_fault, Datum.plain?_eq_error, and_comm (a := fault = _)]
  · rcases register_eq_error.mp h with
      ⟨-, ⟨id, -, rfl⟩ | ⟨fault, hid, rfl⟩⟩ | ⟨-, hread | ⟨rule, -, -, rfl⟩⟩
    · exact .inl ⟨id, rfl⟩
    · obtain ⟨rfl, -⟩ := Datum.plain?_eq_error.mp hid
      exact .inr (.inr (.inr ⟨_, rfl, .inr rfl⟩))
    · rcases toRule_eq_error_cases hread with ⟨fault, rfl⟩ | ⟨fault, rfl⟩
      · exact .inr (.inr (.inl ⟨fault, rfl⟩))
      · exact .inr (.inr (.inr ⟨fault, rfl, (toRule_eq_fault.mp hread).label⟩))
    · exact .inr (.inl ⟨_, rfl⟩)

/-- Tags that cannot be gone through are no fault that registration tells. -/
theorem register_unlisted :
    let draft := { (Rule.steady "1.1.1" .one).draft with tags := .int 5 }
    (∀ items, ¬ draft.IsScoped items)
      ∧ empty.register (.draft draft) = .error (.fault (.notIterable .int))
      ∧ ∀ fault, empty.register (.draft draft) ≠ .error (.malformed fault) := by
  intro draft
  have hid : draft.IsNamed "1.1.1" := ⟨rfl, isNumeral_text.mpr (by decide)⟩
  have htier : draft.IsTiered .general := ⟨_, rfl, by decide⟩
  have hregister : empty.register (.draft draft) = .error (.fault (.notIterable .int)) :=
    register_eq_fault.mpr (.inr ⟨rfl, toRule_eq_fault.mpr
      (.tags hid ⟨_, htier⟩ fun items hitems => by cases hitems)⟩)
  refine ⟨fun items hscoped => ?_, hregister, fun fault => ?_⟩
  · cases hscoped.listed
  · simp [hregister]

end Registry

end SutraArbiter
