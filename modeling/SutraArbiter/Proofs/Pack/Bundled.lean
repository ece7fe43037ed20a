import SutraArbiter.Proofs.Pack.Profile

namespace SutraArbiter

namespace Profile

def entriesOf : Datum → Entries
  | .map entries => entries
  | _ => []

def namesOf : Datum → List String
  | .list items => items.map Datum.plain
  | _ => []

def part (key : String) (entries : Entries) : Entries :=
  entriesOf (entries.getD key .null)

/-- The profile of a rule whose parameters and settings are those of its document. -/
def ofDocument (document : Datum) (id : String) (tier : Tier) (tags : List String)
    (strategy : Strategy) (percent : Nat) : Profile where
  id
  tier
  tags
  definition := entriesOf document
  plan := {
    strategy
    params := (part "match" (entriesOf document)).without "strategy"
    confidence := Double.ofRatio false percent 100
    require := part "require" (part "context" (entriesOf document))
    forbid := part "forbid" (part "context" (entriesOf document)) }
  settings := (part "action" (entriesOf document)).without "strategy"

def sameForms : Profile :=
  ofDocument Pack.sameForms "1.2.64" .general ["case", "ekasesha"] .identicalForms 90

def elderOverYounger : Profile :=
  ofDocument Pack.elderOverYounger "1.2.65" .specific ["ekasesha", "gotra"]
    .attributePairing 95

def feminineElder : Profile :=
  ofDocument Pack.feminineElder "1.2.66" .specific ["ekasesha", "gender", "gotra"]
    .attributePairing 95

def masculineOverFeminine : Profile :=
  ofDocument Pack.masculineOverFeminine "1.2.67" .specific ["ekasesha", "gender"]
    .attributePairing 95

def brotherAndSon : Profile :=
  ofDocument Pack.brotherAndSon "1.2.68" .specific ["ekasesha", "kinship"]
    .lexicalRetention 95

def neuterOverOthers : Profile :=
  ofDocument Pack.neuterOverOthers "1.2.69" .general ["ekasesha", "gender"]
    .attributePairing 85

def fatherOverMother : Profile :=
  ofDocument Pack.fatherOverMother "1.2.70" .general ["ekasesha", "kinship"]
    .lexicalRetention 85

def fatherInLaw : Profile :=
  ofDocument Pack.fatherInLaw "1.2.71" .general ["ekasesha", "kinship"]
    .lexicalRetention 85

def pronouns : Profile :=
  ofDocument Pack.pronouns "1.2.72" .mandatory ["ekasesha", "pronoun"]
    .seriesRetention 100

def domesticAnimals : Profile :=
  ofDocument Pack.domesticAnimals "1.2.73" .domainConditional
    ["collection", "domain", "ekasesha", "gender"] .attributeSelection 90

/-- In the order in which the rules are entered. -/
def bundled : List Profile :=
  [sameForms, elderOverYounger, feminineElder, masculineOverFeminine, brotherAndSon,
    neuterOverOthers, fatherOverMother, fatherInLaw, pronouns, domesticAnimals]

end Profile

namespace Pack

open Rule Text

variable {document : Datum} {id : String} {tier : Tier} {tags : List String}
variable {strategy : Strategy} {percent : Nat}

/-- The parts of a rule whose document is that of the profile. -/
def partsOf (profile : Profile) : Parts where
  id := profile.id
  tier := profile.tier
  tags := Profile.namesOf (profile.definition.getD "scope_tags" .null)
  metadata := Profile.part "metadata" profile.definition
  confidence := profile.plan.confidence
  context := Profile.part "context" profile.definition
  strategy := profile.plan.strategy
  matching := Profile.part "match" profile.definition
  settings := Profile.part "action" profile.definition

theorem gate_eq (parts : Parts) (key : String) :
    parts.gate key = Profile.part key parts.context := by
  unfold Parts.gate Profile.part Entries.getD
  cases parts.context.get? key with
  | none => rfl
  | some flags => cases flags <;> rfl

theorem plan_partsOf :
    (partsOf (.ofDocument document id tier tags strategy percent)).plan =
      (Profile.ofDocument document id tier tags strategy percent).plan := by
  unfold Parts.plan
  rw [gate_eq, gate_eq]
  unfold Profile.ofDocument
  generalize Double.ofRatio false percent 100 = confidence
  rfl

theorem toDouble?_percent :
    (Pack.percent percent).toDouble? =
      .ok (partsOf (.ofDocument document id tier tags strategy percent)).confidence := by
  unfold Pack.percent Profile.ofDocument
  generalize Double.ofRatio false percent 100 = confidence
  rfl

theorem reads_of_check {source : String} {entries : Entries}
    (hchecked : checkEntries entries = .ok ())
    (hparts : (partsOf (.ofDocument document id tier tags strategy percent)).AreIn entries)
    (hdefinition : entries = Profile.entriesOf document)
    (htags : Tags.sorted ((Profile.namesOf ((Profile.entriesOf document).getD "scope_tags"
      .null)).map trimString) = tags) :
    Reads source (.map entries) (.ofDocument document id tier tags strategy percent) :=
  ⟨_, read_of_check hchecked hparts source, rfl, rfl, htags, hdefinition,
    congrArg Predicate.plan plan_partsOf, rfl⟩

theorem reads_bundled :
    List.Forall₂ (fun file profile => Reads file.1 file.2 profile) bundled Profile.bundled := by
  refine .cons ?_ <| .cons ?_ <| .cons ?_ <| .cons ?_ <| .cons ?_ <| .cons ?_ <| .cons ?_ <|
    .cons ?_ <| .cons ?_ <| .cons ?_ .nil
  all_goals
    refine reads_of_check ?_ ?_ rfl ?_
    · refine checkEntries_of_parts rfl rfl (checkId_text (by decide)) rfl rfl rfl
        (checkMetadata_of_isShare ?_ (by decide +kernel)) rfl rfl rfl
      simp only [List.forall_mem_cons]
      exact ⟨isBlankString_ofList_cons (by decide), isBlankString_ofList_cons (by decide),
        isBlankString_ofList_cons (by decide), isBlankString_ofList_cons (by decide),
        List.forall_mem_nil _⟩
    · exact ⟨rfl, ⟨_, rfl, rfl⟩, rfl, rfl, rfl, rfl, ⟨_, rfl, toDouble?_percent⟩, rfl, trivial,
        trivial, rfl, rfl, rfl, rfl⟩
    · exact Tags.sorted_eq (by decide)

theorem reads_pronouns : Reads "1.2.72.yaml" pronouns Profile.pronouns :=
  reads_bundled.get (i := 8) (by decide) (by decide)

end Pack

namespace Profile

def places : List (Profile × Nat) := bundled.zipIdx

theorem proper_bundled : ∀ profile ∈ bundled, (Datum.map profile.definition).IsProper := by
  have hclear : ∀ profile ∈ bundled, (Datum.map profile.definition).isOverlong = false := by
    decide +kernel
  have hkeys : ∀ profile ∈ bundled, (Datum.map profile.definition).keysFit = true := by
    decide
  exact fun profile h => ⟨hclear profile h, hkeys profile h⟩

end Profile

/-- The bundled rules are entered, each in its place, and nothing else is. -/
structure Registry.IsBundled (registry : Registry) : Prop where
  sound : registry.Sound
  compiled : ∀ entry ∈ registry.entries, entry.toRule.IsCompiled
  placed : ∀ entry ∈ registry.entries, ∃ place ∈ Profile.places, entry.Takes place
  filled : ∀ place ∈ Profile.places, ∃ entry ∈ registry.entries, entry.Takes place

theorem Registry.IsBundled.freeze {registry : Registry} (h : registry.IsBundled) :
    registry.freeze.IsBundled :=
  ⟨h.sound.freeze, h.compiled, h.placed, h.filled⟩

theorem Registry.IsBundled.proper {registry : Registry} (h : registry.IsBundled) :
    ∀ entry ∈ registry.entries, (Datum.map entry.definition).IsProper := by
  intro entry hentry
  obtain ⟨place, hplace, hfits, -⟩ := h.placed entry hentry
  rw [hfits.definition]
  exact Profile.proper_bundled _ (List.mem_of_getElem? (List.mem_zipIdx_iff_getElem?.mp hplace))

/-- An entry of the bundled pack judges by the plan of its profile, which is proper. -/
theorem Registry.IsBundled.isProper {registry : Registry} (h : registry.IsBundled)
    {entry : Entry} (hentry : entry ∈ registry.entries) {place : Profile × Nat}
    (htakes : entry.Takes place) : place.1.plan.IsProper := by
  obtain ⟨plan, settings, hplan, -, hproper⟩ :=
    (h.compiled entry hentry).exists_plan (h.proper entry hentry)
  have hsame : Predicate.plan place.1.plan = .plan plan :=
    htakes.1.predicate.symm.trans hplan
  rwa [Predicate.plan.inj hsame]

namespace Pack

theorem load_bundled (files : Files) :
    ∃ registry, (load files .bundled .everything).result = .ok registry
      ∧ registry.IsBundled := by
  have hids : (Profile.bundled.map Profile.id).Nodup := by decide
  have horder : (Profile.bundled.map Profile.id).Pairwise fun s t => Numeral.le s t = true := by
    decide
  obtain ⟨rules, hbears, hfits⟩ := exists_rules_of_reads reads_bundled
  have hyields : Yields [] Source.bundledFiles rules := by
    refine ⟨hbears, ?_, List.disjoint_nil_left _⟩
    rw [map_id_of_fits hfits]
    exact hids
  obtain ⟨registry, hregistry, hentries⟩ := hyields.exists_registry
  rw [inOrder_of_fits hfits horder] at hentries
  have hload : (load files .bundled .everything).result = .ok registry :=
    load_eq_ok.mpr ⟨_, rules, rfl, hyields, hregistry⟩
  have htakes := Registry.takes_numbered hfits 0
  refine ⟨registry, hload, sound_of_load hload, isCompiled_of_load hload, ?_, ?_⟩
  · rw [hentries]
    exact exists_of_forall₂ htakes
  · rw [hentries]
    intro place hplace
    obtain ⟨entry, hentry, h⟩ := exists_of_forall₂ htakes.flip place hplace
    exact ⟨entry, hentry, h⟩

end Pack

end SutraArbiter
