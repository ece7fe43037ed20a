import SutraArbiter.Proofs.Pack.Answer

namespace SutraArbiter

/-! A pack of one rule, which retains the last of identical forms under any id and for
any reason. -/

namespace Pack

def solitaryParts (id reason : String) : Entries :=
  [(.text "rule_id", .text id), (.text "version", .int 1),
    (.text "priority_class", .text "general"), (.text "scope_tags", texts [Tags.family]),
    (.text "metadata", metadata "one form" "one form" "The last of identical forms remains"
      reason (.int 1)),
    (.text "match", named [("strategy", .text "identical_forms")]),
    (.text "action", retention [])]

def solitaryPlan : Plan := ⟨.identicalForms, [], .one, [], []⟩

def solitaryFiles (id reason : String) : Files :=
  ⟨"", [(["solitary.yaml"], .data (.map (solitaryParts id reason)))]⟩

def solitarySource : Source := ⟨none, some [⟨.root, ["solitary.yaml"]⟩]⟩

end Pack

namespace Rule

def solitary (id reason : String) : Rule where
  id
  tier := .general
  tags := [Tags.family]
  title := "one form"
  description := "The last of identical forms remains"
  reason
  source := "/solitary.yaml"
  definition := Pack.solitaryParts id reason
  predicate := .plan Pack.solitaryPlan
  action := .retainSelection []

variable {id reason : String}

def solitaryMaking (id reason : String) : Parts where
  id
  tier := .general
  tags := [Tags.family]
  metadata := [(.text "title", .text "one form"), (.text "text", .text "one form"),
    (.text "description", .text "The last of identical forms remains"),
    (.text "confidence", .int 1), (.text "reason", .text reason)]
  confidence := .one
  context := []
  strategy := .identicalForms
  matching := [(.text "strategy", .text "identical_forms")]
  settings := [(.text "strategy", .text "retain_selection")]

theorem toDouble?_one : (Datum.int 1).toDouble? = .ok .one := by
  have hone : Double.ofInt? 1 = some .one := by decide +kernel
  rw [Datum.toDouble?, hone, Datum.inRange?]

theorem areIn_solitaryMaking (id reason : String) :
    (solitaryMaking id reason).AreIn (Pack.solitaryParts id reason) where
  id := rfl
  tier := ⟨_, rfl, rfl⟩
  tags := rfl
  metadata := rfl
  title := rfl
  description := rfl
  confidence := ⟨_, rfl, toDouble?_one⟩
  context := rfl
  require := trivial
  forbid := trivial
  matching := rfl
  strategy := rfl
  settings := rfl
  action := rfl

theorem read_solitary (hid : Numeral.isDotted id.toList = true)
    (hreason : Text.isBlankString reason = false) :
    read "/solitary.yaml" (.map (Pack.solitaryParts id reason)) = .ok (solitary id reason) := by
  have hwordings : ∀ wording ∈ ["one form", "one form", "The last of identical forms remains",
      reason], Text.isBlankString wording = false := by
    simp only [List.forall_mem_cons, hreason]
    decide
  have hchecked : checkEntries (Pack.solitaryParts id reason) = .ok () :=
    checkEntries_of_parts rfl rfl (checkId_text hid) rfl rfl rfl
      (checkMetadata_of_isShare hwordings rfl) rfl rfl rfl
  have hsorted : Tags.sorted ([Tags.family].map Text.trimString) = [Tags.family] :=
    Tags.sorted_eq (by decide)
  rw [read_of_check hchecked (areIn_solitaryMaking id reason), Parts.rule, solitaryMaking, hsorted]
  rfl

end Rule

namespace Pack

variable {id reason : String}

theorem load_of_read {parts : Entries} {rule : Rule}
    (h : Rule.read "/solitary.yaml" (.map parts) = .ok rule) :
    ∃ registry, (load ⟨"", [(["solitary.yaml"], .data (.map parts))]⟩ solitarySource
        .everything).result = .ok registry ∧ registry.entries = [⟨rule, 0⟩] := by
  have hcollected : solitarySource.collect ⟨"", [(["solitary.yaml"], .data (.map parts))]⟩ =
      .ok [⟨"/solitary.yaml", "solitary.yaml", .data (.map parts)⟩] := rfl
  have hyields : Yields [] [⟨"/solitary.yaml", "solitary.yaml", .data (.map parts)⟩] [rule] := by
    refine ⟨.cons ⟨_, rfl, h⟩ .nil, ?_, List.disjoint_nil_left _⟩
    exact List.nodup_singleton _
  have horder : inOrder [rule] = [rule] := List.mergeSort_singleton _
  obtain ⟨registry, hregistry, hentries⟩ := hyields.exists_registry
  rw [horder] at hentries
  exact ⟨registry, load_eq_ok.mpr ⟨_, _, hcollected, hyields, hregistry⟩, hentries⟩

theorem load_solitary (hid : Numeral.isDotted id.toList = true)
    (hreason : Text.isBlankString reason = false) :
    ∃ registry, (load (solitaryFiles id reason) solitarySource .everything).result =
        .ok registry ∧ registry.entries = [⟨.solitary id reason, 0⟩] :=
  load_of_read (Rule.read_solitary hid hreason)

theorem verdict_solitary (id reason : String) :
    ∃ reply, (Rule.solitary id reason).verdict Engine.twinGroup.words .empty = .ok reply
      ∧ reply.matched = true := by
  have hjudged : solitaryPlan.judge Engine.twinGroup.words .empty =
      .ok (.selected ⟨[1], [0]⟩ ((Double.one.mul .one).roundPlaces 6)) := rfl
  have hshare : (Finding.problem? ((Double.one.mul .one).roundPlaces 6)).isNone = true := by
    decide +kernel
  have hplan : (Rule.solitary id reason).predicate = .plan solitaryPlan := rfl
  rw [Rule.verdict_of_judge hplan hjudged, Finding.verdict, Option.isNone_iff_eq_none.mp hshare]
  exact ⟨_, rfl, rfl⟩

/-- A pack of one rule is loaded, and answers two words of one form by its rule. -/
theorem exists_solitary (hid : Numeral.isDotted id.toList = true)
    (hreason : Text.isBlankString reason = false) :
    ∃ registry envelope,
      (load (solitaryFiles id reason) solitarySource .everything).result = .ok registry
        ∧ registry.entries = [⟨.solitary id reason, 0⟩]
        ∧ Engine.ofSettings registry (.int 64) (.text "confidence-first") [Tags.family] =
          .ok (usualEngine registry.freeze)
        ∧ ((usualEngine registry.freeze).resolve Engine.twins .null .null).result = .ok envelope
        ∧ envelope.sutra = some id := by
  obtain ⟨registry, hload, hentries⟩ := load_solitary hid hreason
  have hsound : (usualEngine registry.freeze).registry.Sound := (sound_of_load hload).freeze
  have hcall : (usualEngine registry.freeze).Hears Engine.twins .null .null Engine.twinGroup
      .empty [Tags.family] := ⟨rfl, rfl, rfl⟩
  have hsharing : (usualEngine registry.freeze).registry.sharing [Tags.family] =
      [⟨.solitary id reason, 0⟩] := by
    have hfrozen : (usualEngine registry.freeze).registry.entries = registry.entries := rfl
    unfold Registry.sharing
    rw [hfrozen, hentries]
    rfl
  obtain ⟨reply, hverdict, hmatched⟩ := verdict_solitary id reason
  have hreadable : ∀ entry ∈ (usualEngine registry.freeze).registry.sharing [Tags.family],
      entry.toRule.IsReadable Engine.twinGroup.words .empty := by
    intro entry hentry
    rw [hsharing] at hentry
    obtain rfl := List.mem_singleton.mp hentry
    exact Rule.isReadable_plan rfl
  have hfew : ((usualEngine registry.freeze).registry.sharing [Tags.family]).length ≤
      (usualEngine registry.freeze).limit := by
    rw [hsharing]
    show 1 ≤ 64
    decide
  obtain ⟨standing, hstanding⟩ : ∃ standing,
      Entry.standing? Engine.twinGroup.words .empty ⟨.solitary id reason, 0⟩ = some standing := by
    simp [Entry.standing?, hverdict, hmatched]
  have hentry := Entry.entry_of_standing? hstanding
  have hmatching : (usualEngine registry.freeze).registry.matching [Tags.family]
      Engine.twinGroup.words .empty = [standing] := by
    unfold Registry.matching
    rw [hsharing]
    simp [hstanding]
  have hresult := Engine.arbitrate_result_of_singleton hsound
    (Engine.evaluates_gathered hsound hfew hreadable) hmatching
  have hplan : standing.entry.predicate = .plan solitaryPlan := by rw [hentry]; rfl
  have haction : standing.entry.action = .retainSelection [] := by rw [hentry]; rfl
  obtain ⟨selection, told, -, -, happlied⟩ := Engine.applied?_of_standing hplan haction
    (WordGroup.placed_of_read hcall.words) (hentry ▸ hstanding) _ _
  rw [happlied] at hresult
  refine ⟨registry, _, hload, hentries, rfl, hcall.resolve_result.trans hresult, ?_⟩
  rw [Envelope.ofPayload, hentry]
  rfl

end Pack

end SutraArbiter
