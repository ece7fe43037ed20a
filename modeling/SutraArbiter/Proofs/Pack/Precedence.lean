import SutraArbiter.Proofs.Arbitration
import SutraArbiter.Proofs.Pack.Bundled
import SutraArbiter.Proofs.Strategy.Selected
import Mathlib.Data.List.MinMax

namespace SutraArbiter

/-! Which of the bundled rules governs.  The order is written down nowhere: it comes
of the tiers, of the tags that a match is sure to satisfy, of the confidences and of
the places. -/

namespace Profile

/-- Whether every word that meets the criterion has an attribute of the tag. -/
def namesTag (tag : String) (criterion : Datum × Datum) : Bool :=
  match criterion with
  | (.text key, .text _) => (Tags.names tag).contains key && (Field.ofName? key).isSome
  | _ => false

/-- Whether the tag is active whenever the plan selects. -/
def assures (profile : Profile) (tag : String) : Bool :=
  profile.plan.strategy = .attributePairing &&
    if tag = Tags.family then (profile.plan.params.get? "min_words").isNone
    else (Strategy.criteria profile.plan.params "retain").any (namesTag tag)

/-- How many tags are active at the least when the plan selects. -/
def assured (profile : Profile) : Nat :=
  (profile.tags.filter profile.assures).length

variable {profile : Profile} {words : List Word} {context : Context} {selection : Selection}
  {confidence : Double} {tag : String}

theorem has_of_namesTag {criteria : Entries} {word : Word} (hmeets : word.meets criteria = true)
    {criterion : Datum × Datum} (hcriterion : criterion ∈ criteria)
    (hnames : namesTag tag criterion = true) : (Tags.names tag).any word.has = true := by
  unfold namesTag at hnames
  split at hnames
  · rename_i key literal
    obtain ⟨hkey, hfield⟩ := Bool.and_eq_true_iff.mp hnames
    exact List.any_eq_true.mpr ⟨key, List.contains_iff_mem.mp hkey,
      Word.has_of_meets hmeets hcriterion hfield⟩
  · cases hnames

theorem isActive_of_assures (hplaced : Placed words)
    (hselected : profile.plan.finding words context = .selected selection confidence)
    (h : profile.assures tag = true) : Tags.isActive words context tag = true := by
  obtain ⟨hstrategy, htag⟩ := Bool.and_eq_true_iff.mp h
  obtain ⟨found, hfound, -⟩ := Plan.strategy_of_selected hselected
  rw [of_decide_eq_true hstrategy] at hfound
  obtain ⟨henough, word, hword, hmeets⟩ := Strategy.exists_of_pairing hplaced hfound
  unfold Tags.isActive
  split at htag
  · rename_i hfamily
    rw [if_pos hfamily]
    exact decide_eq_true (Strategy.length_of_enough (Option.isNone_iff_eq_none.mp htag) henough)
  · rename_i hfamily
    obtain ⟨criterion, hcriterion, hnames⟩ := List.any_eq_true.mp htag
    rw [if_neg hfamily, Bool.or_eq_true]
    exact .inr (List.any_eq_true.mpr ⟨word, hword, has_of_namesTag hmeets hcriterion hnames⟩)

end Profile

/-- What a match of a bundled rule is sure to stand by. -/
structure Standing.Holds (standing : Standing) (place : Profile × Nat) : Prop where
  takes : standing.entry.Takes place
  least : place.1.assured ≤ standing.specificity
  most : standing.specificity ≤ place.1.tags.length
  confidence : standing.reply.confidence = place.1.plan.share

theorem Profile.flagConfidence_bundled :
    ∀ place ∈ places, place.1.plan.params.get? "flag_confidence" = none := by
  have hnone : ∀ place ∈ places,
      (place.1.plan.params.get? "flag_confidence").isNone = true := by decide
  exact fun place hplace => Option.isNone_iff_eq_none.mp (hnone place hplace)

theorem Registry.IsBundled.holds {registry : Registry} (h : registry.IsBundled)
    {words : List Word} {context : Context} (hplaced : Placed words)
    (hclear : ∀ word ∈ words, word.IsClear) (hcontext : context.IsClear)
    {standing : Standing} (hentry : standing.entry ∈ registry.entries)
    (hstanding : standing.entry.standing? words context = some standing) :
    ∃ place ∈ Profile.places, standing.Holds place := by
  obtain ⟨place, hplace, htakes⟩ := h.placed _ hentry
  obtain ⟨hverdict, hmatched, hsatisfied⟩ := Entry.standing?_eq_some.mp hstanding
  have hproper := h.isProper hentry htakes
  rw [Rule.verdict_plan htakes.1.predicate hproper hclear hcontext] at hverdict
  obtain ⟨selection, hfinding, -⟩ := Finding.verdict_matched hverdict hmatched
  have hspecificity : standing.specificity =
      (place.1.tags.filter (Tags.isActive words context)).length := by
    rw [hsatisfied, ← htakes.1.tags]
    rfl
  refine ⟨place, hplace, htakes, ?_, ?_, ?_⟩
  · rw [hspecificity, Profile.assured, ← List.countP_eq_length_filter,
      ← List.countP_eq_length_filter]
    exact List.countP_mono_left fun tag _ => Profile.isActive_of_assures hplaced hfinding
  · rw [hspecificity]
    exact List.length_filter_le _ _
  · exact Plan.confidence_of_selected (Profile.flagConfidence_bundled place hplace) hfinding

/-- The first profile outranks the second one whenever both match. -/
def Profile.Above (first second : Profile × Nat) : Prop :=
  second.1.tier.rank < first.1.tier.rank
    ∨ first.1.tier.rank = second.1.tier.rank
      ∧ (second.1.tags.length < first.1.assured
        ∨ second.1.tags.length = first.1.assured
          ∧ first.1.plan.share = second.1.plan.share ∧ first.2 < second.2)

instance (first second : Profile × Nat) : Decidable (Profile.Above first second) :=
  inferInstanceAs (Decidable (_ ∨ _))

theorem Standing.Holds.outranks {standing other : Standing} {first second : Profile × Nat}
    (h : standing.Holds first) (hother : other.Holds second)
    (habove : Profile.Above first second) : Outranks .confidenceFirst standing other := by
  have htier : standing.entry.tier = first.1.tier := h.takes.1.tier
  have htier' : other.entry.tier = second.1.tier := hother.takes.1.tier
  have hleast := h.least
  have hmost := hother.most
  unfold Outranks
  rw [htier, htier']
  rcases habove with hrank | ⟨hrank, hmore | ⟨hequal, hshare, hplace⟩⟩
  · exact .inl hrank
  · exact .inr ⟨hrank, .inl (by omega)⟩
  · refine .inr ⟨hrank, ?_⟩
    by_cases hspecificity : other.specificity < standing.specificity
    · exact .inl hspecificity
    · refine .inr ⟨by omega, .inr ⟨?_, ?_⟩⟩
      · rw [level, level, h.confidence, hother.confidence, hshare]
      · rwa [h.takes.2, hother.takes.2]

/-- Between contenders the tags that are satisfied decide, and then the places. -/
theorem Standing.Holds.outranks_of_specificity {standing other : Standing}
    {first second : Profile × Nat} (h : standing.Holds first) (hother : other.Holds second)
    (htier : first.1.tier = second.1.tier)
    (hspecificity : other.specificity < standing.specificity
      ∨ standing.specificity = other.specificity ∧ first.2 < second.2
        ∧ (second.1.plan.share.level.lt first.1.plan.share.level = true
          ∨ first.1.plan.share.level = second.1.plan.share.level)) :
    Outranks .confidenceFirst standing other := by
  have hrank : standing.entry.tier.rank = other.entry.tier.rank :=
    congrArg Tier.rank ((h.takes.1.tier.trans htier).trans hother.takes.1.tier.symm)
  refine .inr ⟨hrank, ?_⟩
  rcases hspecificity with hmore | ⟨hequal, hplace, hlevel⟩
  · exact .inl hmore
  · refine .inr ⟨hequal, ?_⟩
    unfold Prevails level
    rw [h.confidence, hother.confidence, h.takes.2, hother.takes.2]
    exact hlevel.imp id fun hsame => ⟨hsame, hplace⟩

namespace Pack

/-- The rules of which the first that matches governs, before all others. -/
def precedence : List String :=
  ["1.2.72", "1.2.66", "1.2.65", "1.2.67", "1.2.68", "1.2.73"]

/-- The rules among which the tags that are satisfied decide. -/
def contenders : List String :=
  ["1.2.64", "1.2.69", "1.2.70", "1.2.71"]

theorem above_of_precedence : ∀ first ∈ Profile.places, ∀ second ∈ Profile.places,
    precedence.idxOf first.1.id < precedence.idxOf second.1.id →
      Profile.Above first second := by
  decide +kernel

theorem tier_of_contenders : ∀ place ∈ Profile.places,
    place.1.id ∈ contenders → place.1.tier = .general := by
  decide

theorem level_of_contenders : ∀ first ∈ Profile.places, ∀ second ∈ Profile.places,
    first.1.id ∈ contenders → second.1.id ∈ contenders →
    contenders.idxOf first.1.id < contenders.idxOf second.1.id →
      first.2 < second.2
        ∧ (second.1.plan.share.level.lt first.1.plan.share.level = true
          ∨ first.1.plan.share.level = second.1.plan.share.level) := by
  decide +kernel

theorem mem_precedence_or_contenders : ∀ place ∈ Profile.places,
    place.1.id ∈ precedence ∨ place.1.id ∈ contenders := by
  decide

theorem idxOf_lt_of_find? {ids : List String} {p : String → Bool} {x y : String}
    (hx : ids.find? p = some x) (hy : p y = true) (hne : y ≠ x) :
    ids.idxOf x < ids.idxOf y := by
  induction ids with
  | nil => cases hx
  | cons id rest ih =>
      rw [List.find?_cons] at hx
      split at hx
      · cases hx
        rw [List.idxOf_cons_self, List.idxOf_cons_ne _ (Ne.symm hne)]
        exact Nat.succ_pos _
      · rename_i hid
        have hpx := List.find?_some hx
        rw [List.idxOf_cons_ne _ (by rintro rfl; rw [hpx] at hid; cases hid),
          List.idxOf_cons_ne _ (by rintro rfl; rw [hy] at hid; cases hid)]
        exact Nat.succ_lt_succ (ih hx)

theorem idxOf_lt_of_filter {ids : List String} {p : String → Bool} {x y : String}
    (hmem : x ∈ ids) (hy : p y = true) (hne : x ≠ y)
    (h : (ids.filter p).idxOf x ≤ (ids.filter p).idxOf y) : ids.idxOf x < ids.idxOf y := by
  induction ids with
  | nil => cases hmem
  | cons id rest ih =>
      by_cases hidx : id = x
      · rw [hidx, List.idxOf_cons_self, List.idxOf_cons_ne _ hne]
        exact Nat.succ_pos _
      · have hmem := (List.mem_cons.mp hmem).resolve_left (Ne.symm hidx)
        by_cases hidy : id = y
        · rw [hidy, List.filter_cons_of_pos hy, List.idxOf_cons_self,
            List.idxOf_cons_ne _ (Ne.symm hne)] at h
          omega
        · rw [List.idxOf_cons_ne _ hidx, List.idxOf_cons_ne _ hidy]
          refine Nat.succ_lt_succ (ih hmem ?_)
          cases hid : p id with
          | false => rwa [List.filter_cons_of_neg (by simp [hid])] at h
          | true =>
              rw [List.filter_cons_of_pos hid, List.idxOf_cons_ne _ hidx,
                List.idxOf_cons_ne _ hidy] at h
              omega

end Pack

namespace Registry

/-- Whether a rule of this id is entered and matches. -/
def isMatch (registry : Registry) (words : List Word) (context : Context) (id : String) : Bool :=
  registry.entries.any fun entry => entry.id = id && (entry.standing? words context).isSome

/-- How many tags the rule of this id has satisfied. -/
def satisfied (registry : Registry) (words : List Word) (context : Context) (id : String) :
    Nat :=
  match registry.find? id with
  | some entry => entry.satisfied words context
  | none => 0

end Registry

/-- The first of the precedence that matches; failing that, the contender with the
most tags satisfied, and the first of those. -/
def Pack.governing? (registry : Registry) (words : List Word) (context : Context) :
    Option String :=
  (Pack.precedence.find? (registry.isMatch words context)).or
    ((Pack.contenders.filter (registry.isMatch words context)).argmax
      (registry.satisfied words context))

namespace Registry.IsBundled

variable {registry : Registry} {words : List Word} {context : Context} {standing : Standing}

theorem mem_matching (h : registry.IsBundled) :
    standing ∈ registry.matching [Tags.family] words context ↔
      standing.entry ∈ registry.entries
        ∧ standing.entry.standing? words context = some standing := by
  have hfamily : ∀ place ∈ Profile.places, Tags.family ∈ place.1.tags := by decide
  unfold matching
  rw [List.mem_filterMap]
  constructor
  · rintro ⟨entry, hentry, hstanding⟩
    obtain rfl := Entry.entry_of_standing? hstanding
    exact ⟨(mem_sharing.mp hentry).1, hstanding⟩
  · rintro ⟨hentry, hstanding⟩
    obtain ⟨place, hplace, htakes⟩ := h.placed _ hentry
    have htagged : Tags.family ∈ standing.entry.tags := htakes.1.tags ▸ hfamily place hplace
    exact ⟨standing.entry,
      mem_sharing.mpr ⟨hentry, Tags.family, List.mem_singleton_self _, htagged⟩, hstanding⟩

theorem isMatch_eq_true (h : registry.IsBundled) {id : String} :
    registry.isMatch words context id = true ↔
      ∃ standing ∈ registry.matching [Tags.family] words context, standing.entry.id = id := by
  unfold isMatch
  rw [List.any_eq_true]
  constructor
  · rintro ⟨entry, hentry, hmatch⟩
    simp only [Bool.and_eq_true, decide_eq_true_eq, Option.isSome_iff_exists] at hmatch
    obtain ⟨rfl, standing, hstanding⟩ := hmatch
    obtain rfl := Entry.entry_of_standing? hstanding
    exact ⟨standing, h.mem_matching.mpr ⟨hentry, hstanding⟩, rfl⟩
  · rintro ⟨standing, hmember, rfl⟩
    obtain ⟨hentry, hstanding⟩ := h.mem_matching.mp hmember
    exact ⟨standing.entry, hentry, by simp [hstanding]⟩

theorem id_ne (h : registry.IsBundled) {other : Standing}
    (hstanding : standing ∈ registry.matching [Tags.family] words context)
    (hother : other ∈ registry.matching [Tags.family] words context) (hne : other ≠ standing) :
    other.entry.id ≠ standing.entry.id := by
  obtain ⟨hentry, hfound⟩ := h.mem_matching.mp hstanding
  obtain ⟨hentry', hfound'⟩ := h.mem_matching.mp hother
  intro hid
  rw [h.sound.eq_of_id hentry' hentry hid, hfound] at hfound'
  exact hne (Option.some.inj hfound').symm

theorem satisfied_eq (h : registry.IsBundled)
    (hstanding : standing ∈ registry.matching [Tags.family] words context) :
    registry.satisfied words context standing.entry.id = standing.specificity := by
  obtain ⟨hentry, hfound⟩ := h.mem_matching.mp hstanding
  obtain ⟨-, -, hspecificity⟩ := Entry.standing?_eq_some.mp hfound
  have hfind : registry.find? standing.entry.id = some standing.entry :=
    h.sound.find?_id (fun _ hx => hx) hentry
  unfold satisfied
  rw [hfind, hspecificity]

section Governing

variable (h : registry.IsBundled) (hplaced : Placed words) (hclear : ∀ word ∈ words, word.IsClear)
  (hcontext : context.IsClear)

include h hplaced hclear hcontext

theorem exists_holds (hstanding : standing ∈ registry.matching [Tags.family] words context) :
    ∃ place ∈ Profile.places, standing.Holds place ∧ place.1.id = standing.entry.id := by
  obtain ⟨hentry, hfound⟩ := h.mem_matching.mp hstanding
  obtain ⟨place, hplace, hholds⟩ := h.holds hplaced hclear hcontext hentry hfound
  exact ⟨place, hplace, hholds, hholds.takes.1.id.symm⟩

theorem governs_of_find? {id : String}
    (hid : Pack.precedence.find? (registry.isMatch words context) = some id) :
    ∃ governing, Standing.Governs .confidenceFirst
        (registry.matching [Tags.family] words context) governing
      ∧ governing.entry.id = id := by
  obtain ⟨governing, hmember, rfl⟩ := h.isMatch_eq_true.mp (List.find?_some hid)
  refine ⟨governing, ⟨hmember, fun other hother hne => ?_⟩, rfl⟩
  obtain ⟨first, hfirst, hgoverning, hfirstId⟩ := h.exists_holds hplaced hclear hcontext hmember
  obtain ⟨second, hsecond, hbelow, hsecondId⟩ := h.exists_holds hplaced hclear hcontext hother
  have hlater := Pack.idxOf_lt_of_find? hid (h.isMatch_eq_true.mpr ⟨other, hother, rfl⟩)
    (h.id_ne hmember hother hne)
  rw [← hfirstId, ← hsecondId] at hlater
  exact hgoverning.outranks hbelow (Pack.above_of_precedence first hfirst second hsecond hlater)

theorem governs_of_argmax {id : String}
    (hnone : Pack.precedence.find? (registry.isMatch words context) = none)
    (hid : (Pack.contenders.filter (registry.isMatch words context)).argmax
      (registry.satisfied words context) = some id) :
    ∃ governing, Standing.Governs .confidenceFirst
        (registry.matching [Tags.family] words context) governing
      ∧ governing.entry.id = id := by
  have hcontender : ∀ standing ∈ registry.matching [Tags.family] words context,
      ∃ place ∈ Profile.places, standing.Holds place ∧ place.1.id = standing.entry.id
        ∧ standing.entry.id ∈ Pack.contenders
        ∧ registry.isMatch words context standing.entry.id = true := by
    intro standing hstanding
    have hmatch := h.isMatch_eq_true.mpr ⟨standing, hstanding, rfl⟩
    obtain ⟨place, hplace, hholds, hplaceId⟩ :=
      h.exists_holds hplaced hclear hcontext hstanding
    refine ⟨place, hplace, hholds, hplaceId, ?_, hmatch⟩
    rcases Pack.mem_precedence_or_contenders place hplace with hearly | hlate
    · exact absurd hmatch (List.find?_eq_none.mp hnone _ (hplaceId ▸ hearly))
    · rwa [hplaceId] at hlate
  obtain ⟨hmem, hmatch⟩ := List.mem_filter.mp (List.argmax_mem hid)
  obtain ⟨governing, hmember, rfl⟩ := h.isMatch_eq_true.mp hmatch
  refine ⟨governing, ⟨hmember, fun other hother hne => ?_⟩, rfl⟩
  obtain ⟨first, hfirst, hgoverning, hfirstId, -, -⟩ := hcontender governing hmember
  obtain ⟨second, hsecond, hbelow, hsecondId, hlate, hmatch'⟩ := hcontender other hother
  have hother' : other.entry.id ∈ Pack.contenders.filter (registry.isMatch words context) :=
    List.mem_filter.mpr ⟨hlate, hmatch'⟩
  have htier : first.1.tier = second.1.tier :=
    (Pack.tier_of_contenders first hfirst (hfirstId ▸ hmem)).trans
      (Pack.tier_of_contenders second hsecond (hsecondId ▸ hlate)).symm
  have hbest := List.le_of_mem_argmax hother' hid
  rw [h.satisfied_eq hother, h.satisfied_eq hmember] at hbest
  refine hgoverning.outranks_of_specificity hbelow htier ?_
  rcases Nat.lt_or_eq_of_le hbest with hmore | hequal
  · exact .inl hmore
  · have hfirst' := List.index_of_argmax hid hother'
      (by rw [h.satisfied_eq hother, h.satisfied_eq hmember, hequal])
    have hearlier := Pack.idxOf_lt_of_filter hmem hmatch'
      (h.id_ne hother hmember (Ne.symm hne)) hfirst'
    rw [← hfirstId, ← hsecondId] at hearlier
    exact .inr ⟨hequal.symm, Pack.level_of_contenders first hfirst second hsecond
      (hfirstId ▸ hmem) (hsecondId ▸ hlate) hearlier⟩

end Governing

end Registry.IsBundled

end SutraArbiter
