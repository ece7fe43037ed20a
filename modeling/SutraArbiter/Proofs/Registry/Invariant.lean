import SutraArbiter.Proofs.Steps
import SutraArbiter.Registry
import Mathlib.Data.List.Perm.Basic

namespace SutraArbiter

namespace Tags

theorem nodup_eraseDups (tags : List String) : tags.eraseDups.Nodup := by
  match tags with
  | [] => simp
  | tag :: rest =>
      rw [List.eraseDups_cons]
      refine List.nodup_cons.mpr ⟨fun hmem => ?_, nodup_eraseDups _⟩
      have hother := List.of_mem_filter (List.mem_eraseDups.mp hmem)
      simp at hother
termination_by tags.length
decreasing_by
  have := List.length_filter_le (fun other => !other == tag) rest
  simp only [List.length_cons]
  omega

theorem sorted_perm (tags : List String) : (sorted tags).Perm tags.eraseDups :=
  List.mergeSort_perm _ _

theorem nodup_sorted (tags : List String) : (sorted tags).Nodup :=
  (sorted_perm tags).nodup_iff.mpr (nodup_eraseDups tags)

theorem mem_sorted {tag : String} {tags : List String} :
    tag ∈ sorted tags ↔ tag ∈ tags := by
  rw [(sorted_perm tags).mem_iff, List.mem_eraseDups]

theorem pairwise_sorted (tags : List String) : (sorted tags).Pairwise fun s t => s < t := by
  have hle : ∀ s t : String, (!decide (t < s)) = true ↔ s ≤ t := by
    intro s t
    rw [Bool.not_eq_true', decide_eq_false_iff_not, String.not_lt]
  have hsorted : (sorted tags).Pairwise fun s t => (!decide (t < s)) = true := by
    refine List.pairwise_mergeSort ?_ ?_ _
    · intro s t u hst htu
      rw [hle] at hst htu ⊢
      exact String.le_trans hst htu
    · intro s t
      rw [Bool.or_eq_true, hle, hle]
      exact String.le_total s t
  refine (hsorted.and (nodup_sorted tags)).imp fun {s t} ⟨hst, hne⟩ => ?_
  rw [hle] at hst
  exact String.not_le.mp fun hts => hne (String.le_antisymm hst hts)

theorem sorted_eq {given tags : List String}
    (h : given.Nodup ∧ given.Perm tags ∧ tags.Pairwise fun s t => s < t) :
    sorted given = tags := by
  obtain ⟨hnodup, hperm, horder⟩ := h
  have herased : given.eraseDups.Perm given :=
    (List.perm_ext_iff_of_nodup (nodup_eraseDups given) hnodup).mpr fun _ => List.mem_eraseDups
  exact List.Perm.eq_of_pairwise (fun s t _ _ hst hts => absurd hts (String.lt_asymm hst))
    (pairwise_sorted given) horder (((sorted_perm given).trans herased).trans hperm)

theorem sorted_sorted (tags : List String) : sorted (sorted tags) = sorted tags :=
  sorted_eq ⟨nodup_sorted tags, .refl _, pairwise_sorted tags⟩

end Tags

namespace Draft

variable {draft : Draft} {rule : Rule}

theorem malformed_ne_ok {α : Type} (fault : MalformedRule) (value : α) :
    malformed fault ≠ .ok value := by
  unfold malformed
  split <;> simp

theorem readCallback_eq_ok {α : Type} {fault : MalformedRule} {callback : Callback α}
    {part : α} (h : readCallback fault callback = .ok part) :
    callback = .callable part := by
  cases callback with
  | callable given =>
      cases h
      rfl
  | datum given => exact absurd h (malformed_ne_ok fault part)

theorem readTags_eq_ok {id : String} {tags : List String}
    (h : draft.readTags id = .ok tags) :
    ∃ items, draft.tags.items? = .ok items ∧ items ≠ []
      ∧ (∀ item ∈ items, (tag? item).isSome) ∧ tags = Tags.sorted (items.filterMap tag?) := by
  unfold readTags at h
  split at h
  · exact absurd h (malformed_ne_ok _ _)
  · obtain ⟨items, hitems, h⟩ := bind_eq_ok.mp h
    split at h
    · exact absurd h (malformed_ne_ok _ _)
    · rename_i hnamed
      split at h
      · exact absurd h (malformed_ne_ok _ _)
      · rename_i hsome
        cases h
        refine ⟨items, mapError_eq_ok.mp hitems, by simpa using hsome, ?_, rfl⟩
        simpa [Option.isSome_iff_ne_none] using hnamed

theorem toRule_eq_ok (h : draft.toRule = .ok rule) :
    draft.readId = .ok rule.id ∧ draft.readTier rule.id = .ok rule.tier
      ∧ draft.readTags rule.id = .ok rule.tags
      ∧ draft.predicate = .callable rule.predicate
      ∧ draft.action = .callable rule.action ∧ draft.definition = rule.definition := by
  simp only [toRule, bind_eq_ok] at h
  obtain ⟨id, hid, tier, htier, tags, htags, predicate, hpredicate, action, haction, h⟩ := h
  cases h
  exact ⟨hid, htier, htags, readCallback_eq_ok hpredicate, readCallback_eq_ok haction, rfl⟩

theorem readTier_draft (rule : Rule) (id : String) :
    rule.draft.readTier id = .ok rule.tier := by
  simp only [readTier, Rule.draft, Tier.read_name]

theorem tag?_text {tag : String} (hblank : Text.isBlankString tag = false)
    (htrim : Text.trimString tag = tag) : tag? (.text tag) = some tag := by
  simp [tag?, hblank, htrim]

/-- A rule whose id and tags are in form is the rule that it submits. -/
theorem toRule_draft (hid : Numeral.isDotted rule.id.toList = true)
    (hsome : rule.tags ≠ []) (htags : ∀ tag ∈ rule.tags, tag? (.text tag) = some tag)
    (hsorted : Tags.sorted rule.tags = rule.tags) : rule.draft.toRule = .ok rule := by
  have hread : rule.draft.readId = .ok rule.id := by
    simp [readId, Rule.draft, hid]
  have hnamed : (rule.tags.map Datum.text).filterMap tag? = rule.tags := by
    rw [List.filterMap_map]
    exact (List.filterMap_congr htags).trans List.filterMap_some
  have hreadTags : rule.draft.readTags rule.id = .ok rule.tags := by
    have hnone : ¬ ∃ tag ∈ rule.tags, tag? (.text tag) = none := by
      rintro ⟨tag, htag, hnone⟩
      simp [htags tag htag] at hnone
    simp [readTags, Rule.draft, Datum.items?, hsome, hnamed, hsorted,
      pure, Except.pure]
    exact fun tag htag h => absurd ⟨tag, htag, h⟩ hnone
  simp only [toRule, hread, readTier_draft, hreadTags, ok_bind]
  rfl

end Draft

theorem Submission.toRule_nodup {submission : Submission} {rule : Rule}
    (h : submission.toRule = .ok rule) : rule.tags.Nodup := by
  cases submission with
  | draft draft =>
      obtain ⟨-, -, htags, -⟩ := Draft.toRule_eq_ok h
      obtain ⟨items, -, -, -, hsorted⟩ := Draft.readTags_eq_ok htags
      rw [hsorted]
      exact Tags.nodup_sorted _
  | other datum => cases h

namespace Registry

variable {registry next : Registry} {submission : Submission} {entry : Entry} {rule : Rule}

theorem shelf_place (entry : Entry) (shelves : List Shelf) (tag other : String) :
    shelf (place entry shelves tag) other =
      if other = tag then shelf shelves other ++ [entry] else shelf shelves other := by
  induction shelves with
  | nil =>
      by_cases h : other = tag
      · simp [place, shelf, h]
      · have : (other == tag) = false := by simpa using h
        simp [place, shelf, List.lookup_cons, h, this]
  | cons first rest ih =>
      obtain ⟨name, entries⟩ := first
      unfold shelf at ih ⊢
      by_cases hname : name = tag
      · subst hname
        by_cases h : other = name
        · simp [place, h]
        · have : (other == name) = false := by simpa using h
          simp [place, List.lookup_cons, h, this]
      · by_cases h : other = name
        · simp [place, hname, h]
        · have : (other == name) = false := by simpa using h
          simp [place, hname, List.lookup_cons, this, ih]

theorem shelf_foldl_place (entry : Entry) {tags : List String} (hnodup : tags.Nodup)
    (shelves : List Shelf) (tag : String) :
    shelf (tags.foldl (place entry) shelves) tag =
      shelf shelves tag ++ if tag ∈ tags then [entry] else [] := by
  induction tags generalizing shelves with
  | nil => simp
  | cons first rest ih =>
      obtain ⟨hfresh, hnodup⟩ := List.nodup_cons.mp hnodup
      rw [List.foldl_cons, ih hnodup, shelf_place]
      by_cases h : tag = first
      · subst h
        simp [hfresh]
      · simp [h]

/-- Ids are distinct, the place of an entry is its index, no tag is repeated, and
the shelf of a tag holds the entries that carry it, in order. -/
structure Sound (registry : Registry) : Prop where
  ids : registry.entries.Pairwise fun x y => x.id ≠ y.id
  places : registry.entries.map Entry.index = List.range registry.entries.length
  tags : ∀ entry ∈ registry.entries, entry.tags.Nodup
  shelves : ∀ tag, shelf registry.shelves tag =
    registry.entries.filter fun entry => entry.tags.contains tag

theorem sound_empty : Sound empty where
  ids := List.Pairwise.nil
  places := rfl
  tags := by simp [empty]
  shelves := fun _ => rfl

theorem Sound.freeze (hsound : registry.Sound) : registry.freeze.Sound :=
  ⟨hsound.ids, hsound.places, hsound.tags, hsound.shelves⟩

theorem find?_eq_none {id : String} :
    registry.find? id = none ↔ ∀ entry ∈ registry.entries, entry.id ≠ id := by
  simp [find?]

theorem Sound.enter (hsound : registry.Sound) (hfresh : registry.find? rule.id = none)
    (hnodup : rule.tags.Nodup) : (registry.enter rule).1.Sound where
  ids := by
    refine List.pairwise_append.mpr ⟨hsound.ids, List.pairwise_singleton _ _, ?_⟩
    intro x hx y hy
    rw [List.mem_singleton.mp hy]
    exact find?_eq_none.mp hfresh x hx
  places := by
    simp [Registry.enter, hsound.places, List.range_succ]
  tags := by
    intro entry hentry
    rcases List.mem_append.mp hentry with hentry | hentry
    · exact hsound.tags entry hentry
    · rw [List.mem_singleton.mp hentry]
      exact hnodup
  shelves := by
    intro tag
    simp only [Registry.enter, shelf_foldl_place _ hnodup, hsound.shelves, List.filter_append]
    congr 1
    by_cases htag : tag ∈ rule.tags <;> simp [htag]

theorem register_eq_ok :
    registry.register submission = .ok (next, entry) ↔
      registry.frozen = false ∧ ∃ rule, submission.toRule = .ok rule
        ∧ registry.find? rule.id = none ∧ registry.enter rule = (next, entry) := by
  unfold register
  cases hfrozen : registry.frozen with
  | true =>
      simp only [if_true, bind_eq_ok]
      simp
  | false =>
      simp only [Bool.false_eq_true, if_false, bind_eq_ok, true_and]
      refine exists_congr fun rule => and_congr_right fun _ => ?_
      cases hfound : registry.find? rule.id with
      | none => simp [pure, Except.pure]
      | some other => simp

theorem Sound.register (hsound : registry.Sound)
    (h : registry.register submission = .ok (next, entry)) : next.Sound := by
  obtain ⟨-, rule, hrule, hfresh, henter⟩ := register_eq_ok.mp h
  have hnext := hsound.enter hfresh (Submission.toRule_nodup hrule)
  rwa [henter] at hnext

theorem ofSubmissions_cons (registry : Registry) (submission : Submission)
    (rest : List Submission) :
    registry.ofSubmissions (submission :: rest) =
      registry.register submission >>= fun entered => entered.1.ofSubmissions rest := rfl

theorem Sound.ofSubmissions (hsound : registry.Sound) {submissions : List Submission}
    (h : registry.ofSubmissions submissions = .ok next) : next.Sound := by
  induction submissions generalizing registry with
  | nil =>
      cases h
      exact hsound
  | cons submission rest ih =>
      rw [ofSubmissions_cons] at h
      obtain ⟨⟨entered, entry⟩, hregister, h⟩ := bind_eq_ok.mp h
      exact ih (hsound.register hregister) h

/-- Registration leaves a registry as open as it was. -/
theorem frozen_ofSubmissions {submissions : List Submission}
    (h : registry.ofSubmissions submissions = .ok next) : next.frozen = registry.frozen := by
  induction submissions generalizing registry with
  | nil =>
      cases h
      rfl
  | cons submission rest ih =>
      rw [ofSubmissions_cons] at h
      obtain ⟨⟨entered, entry⟩, hregister, h⟩ := bind_eq_ok.mp h
      obtain ⟨-, rule, -, -, henter⟩ := register_eq_ok.mp hregister
      obtain rfl : (registry.enter rule).1 = entered := by rw [henter]
      exact (ih h : next.frozen = (registry.enter rule).1.frozen)

end Registry

end SutraArbiter
