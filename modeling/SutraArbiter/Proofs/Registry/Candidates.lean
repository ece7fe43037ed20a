import SutraArbiter.Proofs.Registry.Invariant
import Mathlib.Data.List.Pairwise

namespace SutraArbiter

/-! The candidates of a call: every rule that shares a tag with its scope, once,
by rank and then by place. -/

/-- The order in which candidates are asked. -/
def Entry.Before (x y : Entry) : Prop :=
  y.tier.rank < x.tier.rank ∨ x.tier.rank = y.tier.rank ∧ x.index < y.index

theorem Entry.Before.asymm {x y : Entry} (h : x.Before y) : ¬ y.Before x := by
  unfold Entry.Before at *
  omega

namespace Registry

variable {registry : Registry} {tags : List String} {x y entry : Entry}

/-- The rules that share a tag with a scope, in the order of their registration. -/
def sharing (registry : Registry) (tags : List String) : List Entry :=
  registry.entries.filter fun entry => tags.any entry.tags.contains

theorem mem_sharing :
    entry ∈ registry.sharing tags ↔
      entry ∈ registry.entries ∧ ∃ tag ∈ tags, tag ∈ entry.tags := by
  simp [sharing]

theorem Sound.eq_of_id (hsound : registry.Sound) (hx : x ∈ registry.entries)
    (hy : y ∈ registry.entries) (h : x.id = y.id) : x = y := by
  have : Std.Symm fun x y : Entry => x.id ≠ y.id := ⟨fun _ _ h => h.symm⟩
  by_contra hne
  exact hsound.ids.forall hx hy hne h

theorem Sound.pairwise_index (hsound : registry.Sound) :
    registry.entries.Pairwise fun x y => x.index < y.index := by
  rw [← List.pairwise_map, hsound.places]
  exact List.pairwise_lt_range

theorem Sound.nodup_sharing (hsound : registry.Sound) (tags : List String) :
    (registry.sharing tags).Nodup :=
  (hsound.ids.imp fun h heq => h (congrArg (fun e : Entry => e.id) heq)).filter _

theorem Sound.find?_id (hsound : registry.Sound) {entries : List Entry}
    (hentries : ∀ x ∈ entries, x ∈ registry.entries) (hentry : entry ∈ entries) :
    (entries.find? fun other => other.id = entry.id) = some entry := by
  cases hfound : entries.find? fun other => other.id = entry.id with
  | none => simpa using List.find?_eq_none.mp hfound entry hentry
  | some other =>
      have hid : other.id = entry.id := by simpa using List.find?_some hfound
      have hother := hentries other (List.mem_of_find?_eq_some hfound)
      rw [hsound.eq_of_id hother (hentries entry hentry) hid]

theorem mem_of_mem_distinctIds {entries : List Entry} (h : x ∈ distinctIds entries) :
    x ∈ entries := by
  induction entries with
  | nil => simp [distinctIds] at h
  | cons first rest ih =>
      rcases List.mem_cons.mp h with rfl | h
      · exact List.mem_cons_self
      · exact List.mem_cons_of_mem _ (ih (List.mem_of_mem_filter h))

theorem exists_distinctIds {entries : List Entry} (h : x ∈ entries) :
    ∃ other ∈ distinctIds entries, other.id = x.id := by
  induction entries with
  | nil => simp at h
  | cons first rest ih =>
      by_cases hid : first.id = x.id
      · exact ⟨first, List.mem_cons_self, hid⟩
      · rcases List.mem_cons.mp h with rfl | h
        · exact absurd rfl hid
        · obtain ⟨other, hother, hsame⟩ := ih h
          refine ⟨other, List.mem_cons_of_mem _ (List.mem_filter.mpr ⟨hother, ?_⟩), hsame⟩
          simpa [hsame] using Ne.symm hid

theorem pairwise_distinctIds (entries : List Entry) :
    (distinctIds entries).Pairwise fun x y => x.id ≠ y.id := by
  induction entries with
  | nil => exact List.Pairwise.nil
  | cons first rest ih =>
      refine List.pairwise_cons.mpr ⟨fun other hother => ?_, ih.filter _⟩
      have hne : other.id ≠ first.id := by simpa using List.of_mem_filter hother
      exact hne.symm

theorem Sound.mem_candidates (hsound : registry.Sound) :
    entry ∈ registry.candidates tags ↔ entry ∈ registry.sharing tags := by
  have hshelves : ∀ x, x ∈ tags.flatMap (shelf registry.shelves) ↔
      x ∈ registry.sharing tags := by
    intro x
    simp only [List.mem_flatMap, hsound.shelves, List.mem_filter, mem_sharing,
      List.contains_iff_mem]
    grind
  unfold candidates
  rw [List.mem_mergeSort]
  constructor
  · intro h
    exact (hshelves entry).mp (mem_of_mem_distinctIds h)
  · intro h
    obtain ⟨other, hother, hid⟩ := exists_distinctIds ((hshelves entry).mpr h)
    have hmem := (mem_sharing.mp ((hshelves other).mp (mem_of_mem_distinctIds hother))).1
    rwa [← hsound.eq_of_id hmem (mem_sharing.mp h).1 hid]

theorem pairwise_id_candidates (registry : Registry) (tags : List String) :
    (registry.candidates tags).Pairwise fun x y => x.id ≠ y.id :=
  ((List.mergeSort_perm _ _).pairwise_iff fun h => h.symm).mpr (pairwise_distinctIds _)

theorem Sound.candidates_perm (hsound : registry.Sound) (tags : List String) :
    (registry.candidates tags).Perm (registry.sharing tags) := by
  refine (List.perm_ext_iff_of_nodup ?_ (hsound.nodup_sharing tags)).mpr
    fun _ => hsound.mem_candidates
  exact (pairwise_id_candidates registry tags).imp
    fun h heq => h (congrArg (fun e : Entry => e.id) heq)

theorem comesFirst_trans (x y z : Entry) (hxy : comesFirst x y = true)
    (hyz : comesFirst y z = true) : comesFirst x z = true := by
  simp only [comesFirst, Bool.or_eq_true, Bool.and_eq_true, decide_eq_true_eq] at *
  omega

theorem comesFirst_total (x y : Entry) : (comesFirst x y || comesFirst y x) = true := by
  simp only [comesFirst, Bool.or_eq_true, Bool.and_eq_true, decide_eq_true_eq]
  omega

theorem Sound.candidates_before (hsound : registry.Sound) (tags : List String) :
    (registry.candidates tags).Pairwise Entry.Before := by
  have hplaces : (registry.candidates tags).Pairwise fun x y => x.index ≠ y.index := by
    refine ((hsound.candidates_perm tags).pairwise_iff fun h => h.symm).mpr ?_
    exact (hsound.pairwise_index.imp fun h => Nat.ne_of_lt h).filter _
  have horder : (registry.candidates tags).Pairwise fun x y => comesFirst x y = true :=
    List.pairwise_mergeSort comesFirst_trans comesFirst_total _
  apply (horder.and hplaces).imp
  intro x y h
  obtain ⟨hfirst, hplace⟩ := h
  simp only [comesFirst, Bool.or_eq_true, Bool.and_eq_true, decide_eq_true_eq] at hfirst
  unfold Entry.Before
  omega

theorem Sound.eq_candidates (hsound : registry.Sound) {entries : List Entry}
    (hperm : entries.Perm (registry.sharing tags)) (hbefore : entries.Pairwise Entry.Before) :
    entries = registry.candidates tags :=
  List.Perm.eq_of_pairwise (fun _ _ _ _ hxy hyx => absurd hyx hxy.asymm) hbefore
    (hsound.candidates_before tags) (hperm.trans (hsound.candidates_perm tags).symm)

end Registry

end SutraArbiter
