import SutraArbiter.Config
import SutraArbiter.Proofs.Pack.Loading

namespace SutraArbiter

/-- Where a rule stands, what it looks for and what it tells. -/
structure Profile where
  id : String
  tier : Tier
  tags : List String
  definition : Entries
  plan : Plan
  settings : Entries

structure Rule.Fits (rule : Rule) (profile : Profile) : Prop where
  id : rule.id = profile.id
  tier : rule.tier = profile.tier
  tags : rule.tags = profile.tags
  definition : rule.definition = profile.definition
  predicate : rule.predicate = .plan profile.plan
  action : rule.action = .retainSelection profile.settings

/-- An entry that was read by a profile and entered at a place. -/
def Entry.Takes (entry : Entry) (place : Profile × Nat) : Prop :=
  entry.toRule.Fits place.1 ∧ entry.index = place.2

namespace Rule

theorem optionalWording_of_get? {violation : String → Violation} {entries : Entries}
    {key wording : String} (hfound : entries.get? key = some (.text wording))
    (hwording : Text.isBlankString wording = false) :
    optionalWording violation entries key = .ok () := by
  simp [optionalWording, hfound, isWording, hwording]

theorem checkMetadata_of_isShare {title text description reason : String} {confidence : Datum}
    (hwordings : ∀ wording ∈ [title, text, description, reason],
      Text.isBlankString wording = false)
    (hshare : isShare confidence = true) :
    checkMetadata (Pack.metadata title text description reason confidence) = .ok () := by
  have honly : onlyKeys metadataKeys (.unknownKeys .metadata)
      [(.text "title", .text title), (.text "text", .text text),
        (.text "description", .text description), (.text "confidence", confidence),
        (.text "reason", .text reason)] = .ok () := rfl
  have hwith : withKeys ["confidence", "description", "title"] Violation.missingMetadata
      [(.text "title", .text title), (.text "text", .text text),
        (.text "description", .text description), (.text "confidence", confidence),
        (.text "reason", .text reason)] = .ok () := rfl
  have hconfidence : Entries.getD
      [(.text "title", .text title), (.text "text", .text text),
        (.text "description", .text description), (.text "confidence", confidence),
        (.text "reason", .text reason)] "confidence" .null = confidence := rfl
  unfold checkMetadata Pack.metadata Pack.named
  simp only [List.map_cons, List.map_nil, honly, hwith, ok_bind]
  rw [optionalWording_of_get? rfl (hwordings title (by simp)),
    optionalWording_of_get? rfl (hwordings description (by simp)),
    optionalWording_of_get? rfl (hwordings text (by simp)),
    optionalWording_of_get? rfl (hwordings reason (by simp))]
  simp only [ok_bind, hconfidence, hshare]
  rfl

theorem checkId_text {id : String} (h : Numeral.isDotted id.toList = true) :
    checkId (.text id) = .ok () :=
  if_pos h

/-- A rule of this profile is read from the data. -/
def Reads (source : String) (d : Datum) (profile : Profile) : Prop :=
  ∃ rule, read source d = .ok rule ∧ rule.Fits profile

end Rule

theorem Registry.takes_numbered {rules : List Rule} {profiles : List Profile}
    (hfits : List.Forall₂ Rule.Fits rules profiles) (start : Nat) :
    List.Forall₂ Entry.Takes (numbered start rules) (profiles.zipIdx start) := by
  induction hfits generalizing start with
  | nil => exact .nil
  | cons hrule _ ih => exact .cons ⟨hrule, rfl⟩ (ih (start + 1))

namespace Pack

theorem map_id_of_fits {rules : List Rule} {profiles : List Profile}
    (hfits : List.Forall₂ Rule.Fits rules profiles) :
    rules.map Rule.id = profiles.map Profile.id := by
  induction hfits with
  | nil => rfl
  | cons hrule _ ih => rw [List.map_cons, List.map_cons, hrule.id, ih]

theorem exists_rules_of_reads {files : List (String × Datum)} {profiles : List Profile}
    (hreads : List.Forall₂ (fun file profile => Rule.Reads file.1 file.2 profile)
      files profiles) :
    ∃ rules, List.Forall₂ RuleFile.Bears
        (files.map fun file => ⟨file.1, file.1, .data file.2⟩) rules
      ∧ List.Forall₂ Rule.Fits rules profiles := by
  induction hreads with
  | nil => exact ⟨[], .nil, .nil⟩
  | @cons file profile files profiles hreads _ ih =>
      obtain ⟨path, document⟩ := file
      obtain ⟨rule, hread, hfits⟩ := hreads
      obtain rfl := Rule.definition_of_read hread
      obtain ⟨rules, hrules, hall⟩ := ih
      exact ⟨rule :: rules, .cons ⟨_, rfl, hread⟩ hrules, .cons hfits hall⟩

theorem inOrder_of_fits {rules : List Rule} {profiles : List Profile}
    (hfits : List.Forall₂ Rule.Fits rules profiles)
    (horder : (profiles.map Profile.id).Pairwise fun s t => Numeral.le s t = true) :
    inOrder rules = rules := by
  refine List.mergeSort_of_pairwise ?_
  rw [← map_id_of_fits hfits, List.pairwise_map] at horder
  exact horder

end Pack

end SutraArbiter
