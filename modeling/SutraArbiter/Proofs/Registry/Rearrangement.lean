import SutraArbiter.Proofs.Answer
import SutraArbiter.Proofs.Registry.Removal

namespace SutraArbiter

/-! The same rules registered in another order stand at other places, and nothing else
about them changes. -/

/-- A standing with no regard to the place of its rule. -/
def Standing.unplaced (standing : Standing) : Standing :=
  { standing with entry := ⟨standing.entry.toRule, 0⟩ }

theorem Standing.unplaced_inj {x y : Standing} (h : x.unplaced = y.unplaced) :
    x.entry.toRule = y.entry.toRule ∧ x.reply = y.reply ∧ x.specificity = y.specificity := by
  simpa [unplaced] using h

theorem Entry.standing?_unplaced (words : List Word) (context : Context) (entry : Entry) :
    (entry.standing? words context).map Standing.unplaced =
      Entry.standing? words context ⟨entry.toRule, 0⟩ := by
  unfold Entry.standing?
  cases entry.toRule.verdict words context with
  | error line => rfl
  | ok reply =>
      dsimp only
      split <;> rfl

namespace Registry

variable {registry other : Registry} {submissions others : List Submission}
  {rules : List Rule} {tags : List String} {words : List Word} {context : Context}

/-- Two registries of the same rules. -/
structure Rearranges (registry other : Registry) : Prop where
  sound : registry.Sound
  resound : other.Sound
  rules : (registry.entries.map Entry.toRule).Perm (other.entries.map Entry.toRule)

theorem Rearranges.symm (h : registry.Rearranges other) : other.Rearranges registry :=
  ⟨h.resound, h.sound, h.rules.symm⟩

theorem Rearranges.freeze (h : registry.Rearranges other) :
    registry.freeze.Rearranges other.freeze :=
  ⟨h.sound.freeze, h.resound.freeze, h.rules⟩

/-- Rules whose ids are distinct can all be registered. -/
theorem exists_ofSubmissions_of_nodup
    (hrules : submissions.mapM Submission.toRule = .ok rules)
    (hids : (rules.map fun rule => rule.id).Nodup) :
    ∃ registry, empty.ofSubmissions submissions = .ok registry
      ∧ registry.entries.map Entry.toRule = rules := by
  have hentries : (numbered 0 rules).Pairwise fun x y => x.id ≠ y.id := by
    rw [← map_toRule_numbered 0 rules, List.map_map] at hids
    exact List.pairwise_map.mp hids
  have hopen : empty.frozen = false := rfl
  obtain ⟨registry, hregistry⟩ := exists_ofSubmissions hopen hrules hentries
  obtain ⟨entered, hentered, hnumbered⟩ := entries_ofSubmissions hregistry
  obtain rfl : rules = entered := by
    rw [hrules] at hentered
    exact Except.ok.inj hentered
  refine ⟨registry, hregistry, ?_⟩
  rw [hnumbered]
  exact map_toRule_numbered 0 rules

/-- In any order they give a registry of the same rules. -/
theorem exists_rearranges (hrules : submissions.mapM Submission.toRule = .ok rules)
    (hids : (rules.map fun rule => rule.id).Nodup) (hperm : others.Perm submissions) :
    ∃ registry other, empty.ofSubmissions submissions = .ok registry
      ∧ empty.ofSubmissions others = .ok other ∧ registry.Rearranges other := by
  obtain ⟨reordered, hreordered, hsame⟩ := mapM_perm hperm.symm hrules
  obtain ⟨registry, hregistry, hentries⟩ := exists_ofSubmissions_of_nodup hrules hids
  obtain ⟨other, hother, hmoved⟩ :=
    exists_ofSubmissions_of_nodup hreordered ((hsame.map _).nodup_iff.mp hids)
  refine ⟨registry, other, hregistry, hother, sound_empty.ofSubmissions hregistry,
    sound_empty.ofSubmissions hother, ?_⟩
  rw [hentries, hmoved]
  exact hsame

theorem map_toRule_sharing (registry : Registry) (tags : List String) :
    (registry.sharing tags).map Entry.toRule =
      (registry.entries.map Entry.toRule).filter fun rule => tags.any rule.tags.contains := by
  unfold sharing
  rw [List.filter_map]
  rfl

theorem Rearranges.sharing_perm (h : registry.Rearranges other) (tags : List String) :
    ((registry.sharing tags).map Entry.toRule).Perm
      ((other.sharing tags).map Entry.toRule) := by
  rw [map_toRule_sharing, map_toRule_sharing]
  exact h.rules.filter _

theorem Rearranges.length_sharing (h : registry.Rearranges other) (tags : List String) :
    (registry.sharing tags).length = (other.sharing tags).length := by
  simpa using (h.sharing_perm tags).length_eq

theorem Rearranges.forall_sharing (h : registry.Rearranges other) {holds : Rule → Prop}
    (hall : ∀ entry ∈ registry.sharing tags, holds entry.toRule) :
    ∀ entry ∈ other.sharing tags, holds entry.toRule := by
  intro entry hentry
  have hrule := (h.sharing_perm tags).mem_iff.mpr (List.mem_map_of_mem hentry)
  obtain ⟨original, horiginal, hsame⟩ := List.mem_map.mp hrule
  rw [← hsame]
  exact hall original horiginal

theorem map_unplaced_matching (registry : Registry) (tags : List String) (words : List Word)
    (context : Context) :
    (registry.matching tags words context).map Standing.unplaced =
      ((registry.sharing tags).map Entry.toRule).filterMap fun rule =>
        Entry.standing? words context ⟨rule, 0⟩ := by
  unfold matching
  rw [List.map_filterMap, List.filterMap_map]
  apply List.filterMap_congr
  intro entry _
  exact entry.standing?_unplaced words context

theorem Rearranges.matching_perm (h : registry.Rearranges other) (tags : List String)
    (words : List Word) (context : Context) :
    ((registry.matching tags words context).map Standing.unplaced).Perm
      ((other.matching tags words context).map Standing.unplaced) := by
  rw [map_unplaced_matching, map_unplaced_matching]
  exact (h.sharing_perm tags).filterMap _

theorem Rearranges.exists_unplaced (h : registry.Rearranges other) {standing : Standing}
    (hmem : standing ∈ registry.matching tags words context) :
    ∃ moved ∈ other.matching tags words context, moved.unplaced = standing.unplaced := by
  have hmoved := (h.matching_perm tags words context).mem_iff.mp (List.mem_map_of_mem hmem)
  exact List.mem_map.mp hmoved

/-- Each rule matches once. -/
theorem Sound.eq_of_mem_matching (hsound : registry.Sound) {x y : Standing}
    (hx : x ∈ registry.matching tags words context)
    (hy : y ∈ registry.matching tags words context) (hid : x.entry.id = y.entry.id) : x = y := by
  obtain ⟨entry, hentry, hstanding⟩ := List.mem_filterMap.mp hx
  obtain ⟨entry', hentry', hstanding'⟩ := List.mem_filterMap.mp hy
  rw [Entry.entry_of_standing? hstanding, Entry.entry_of_standing? hstanding'] at hid
  obtain rfl := hsound.eq_of_id (mem_sharing.mp hentry).1 (mem_sharing.mp hentry').1 hid
  exact Option.some.inj (hstanding.symm.trans hstanding')

/-- The same mandatory rules match. -/
theorem Rearranges.mandatory_perm (h : registry.Rearranges other) (tags : List String)
    (words : List Word) (context : Context) :
    ((Ruling.mandatory (registry.matching tags words context)).map
        fun standing => standing.entry.id).Perm
      ((Ruling.mandatory (other.matching tags words context)).map
        fun standing => standing.entry.id) := by
  have hids : ∀ standings : List Standing,
      (Ruling.mandatory standings).map (fun standing => standing.entry.id) =
        (Ruling.mandatory (standings.map Standing.unplaced)).map
          fun standing => standing.entry.id := by
    intro standings
    unfold Ruling.mandatory
    rw [List.filter_map, List.map_map]
    rfl
  rw [hids, hids (other.matching tags words context)]
  exact ((h.matching_perm tags words context).filter _).map _

theorem Rearranges.length_mandatory (h : registry.Rearranges other) (tags : List String)
    (words : List Word) (context : Context) :
    (Ruling.mandatory (registry.matching tags words context)).length =
      (Ruling.mandatory (other.matching tags words context)).length := by
  simpa using (h.mandatory_perm tags words context).length_eq

end Registry

namespace Standing

/-- Only the order of their registration could decide between the two. -/
def Ties (x y : Standing) : Prop :=
  x.entry.tier = y.entry.tier ∧ x.specificity = y.specificity ∧ x.level = y.level

/-- Where confidence decides before place does, a rule that is not tied keeps its rank. -/
theorem Outranks.of_unplaced {x y x' y' : Standing} (h : Outranks .confidenceFirst x y)
    (huntied : ¬ x.Ties y) (hx : x'.unplaced = x.unplaced) (hy : y'.unplaced = y.unplaced) :
    Outranks .confidenceFirst x' y' := by
  obtain ⟨hxrule, hxreply, hxspecificity⟩ := unplaced_inj hx
  obtain ⟨hyrule, hyreply, hyspecificity⟩ := unplaced_inj hy
  have hxlevel : x'.level = x.level := congrArg (fun reply => reply.confidence.level) hxreply
  have hylevel : y'.level = y.level := congrArg (fun reply => reply.confidence.level) hyreply
  unfold Outranks Prevails at h ⊢
  dsimp only at h ⊢
  rw [hxrule, hyrule, hxspecificity, hyspecificity, hxlevel, hylevel]
  rcases h with htier | ⟨htier, hspecificity | ⟨hspecificity, hlevel | ⟨hlevel, -⟩⟩⟩
  · exact .inl htier
  · exact .inr ⟨htier, .inl hspecificity⟩
  · exact .inr ⟨htier, .inr ⟨hspecificity, .inl hlevel⟩⟩
  · exact absurd ⟨Tier.rank_injective htier, hspecificity, hlevel⟩ huntied

end Standing

theorem Registry.Rearranges.exists_governs {registry other : Registry} {tags : List String}
    {words : List Word} {context : Context} {governing : Standing}
    (h : registry.Rearranges other)
    (hgoverns : Standing.Governs .confidenceFirst
      (registry.matching tags words context) governing)
    (huntied : ∀ rival ∈ registry.matching tags words context, rival ≠ governing →
      ¬ governing.Ties rival) :
    ∃ moved, moved.unplaced = governing.unplaced
      ∧ Standing.Governs .confidenceFirst (other.matching tags words context) moved := by
  obtain ⟨moved, hmoved, hsame⟩ := h.exists_unplaced hgoverns.member
  refine ⟨moved, hsame, hmoved, ?_⟩
  intro rival hrival hne
  obtain ⟨original, horiginal, hunplaced⟩ := h.symm.exists_unplaced hrival
  have hother : original ≠ governing := by
    rintro rfl
    have hrule := (Standing.unplaced_inj (hunplaced.symm.trans hsame.symm)).1
    exact hne (h.resound.eq_of_mem_matching hrival hmoved (congrArg Rule.id hrule))
  exact (hgoverns.outranks original horiginal hother).of_unplaced
    (huntied original horiginal hother) hsame hunplaced.symm

end SutraArbiter
