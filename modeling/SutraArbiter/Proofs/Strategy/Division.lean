import SutraArbiter.Proofs.Strategy
import SutraArbiter.Proofs.Word.Alike

namespace SutraArbiter

/-! What any selection is made of, whatever the parameters: positions of the group,
in order, no position both kept and dropped. -/

namespace Selection

variable {selection : Selection} {retain drop : List Int} {count : Nat}

/-- Positions of a group of so many words. -/
def Within (count : Nat) (places : List Int) : Prop :=
  ∀ i ∈ places, 0 ≤ i ∧ i < count

theorem within_nil : Within count [] := by simp [Within]

theorem Within.append (hretain : Within count retain) (hdrop : Within count drop) :
    Within count (retain ++ drop) :=
  List.forall_mem_append.mpr ⟨hretain, hdrop⟩

structure Divides (selection : Selection) (count : Nat) : Prop where
  some_kept : selection.retain ≠ []
  kept_ascend : selection.retain.Pairwise (· < ·)
  dropped_ascend : selection.drop.Pairwise (· < ·)
  apart : ∀ i ∈ selection.retain, i ∉ selection.drop
  kept_within : Within count selection.retain
  dropped_within : Within count selection.drop

/-- Every position is kept or dropped. -/
def Covers (selection : Selection) (count : Nat) : Prop :=
  ∀ i : Int, 0 ≤ i → i < count → i ∈ selection.retain ∨ i ∈ selection.drop

theorem divides_ofPositions (hsome : retain ≠ []) (hretain : Within count retain)
    (hdrop : Within count drop) : (ofPositions retain drop).Divides count where
  some_kept := by
    obtain ⟨i, hi⟩ := List.exists_mem_of_ne_nil retain hsome
    exact List.ne_nil_of_mem (mem_retain_ofPositions.mpr hi)
  kept_ascend := pairwise_ascending _
  dropped_ascend := pairwise_ascending _
  apart := fun _ hkept hdropped =>
    (mem_drop_ofPositions.mp hdropped).2 (mem_retain_ofPositions.mp hkept)
  kept_within := fun i hi => hretain i (mem_retain_ofPositions.mp hi)
  dropped_within := fun i hi => hdrop i (mem_drop_ofPositions.mp hi).1

theorem covers_ofPositions
    (h : ∀ i : Int, 0 ≤ i → i < count → i ∈ retain ∨ i ∈ drop) :
    (ofPositions retain drop).Covers count := by
  intro i hlow hhigh
  rw [mem_retain_ofPositions, mem_drop_ofPositions]
  rcases h i hlow hhigh with hi | hi
  · exact .inl hi
  · exact (Classical.em (i ∈ retain)).imp_right (And.intro hi)

/-- The last position kept is the largest. -/
theorem Divides.exists_last (h : selection.Divides count) :
    ∃ last, selection.retain.getLast? = some last ∧ ∀ i ∈ selection.retain, i ≤ last := by
  have hlast := List.getLast?_eq_some_getLast h.some_kept
  obtain ⟨earlier, hretain⟩ := List.getLast?_eq_some_iff.mp hlast
  refine ⟨_, hlast, fun i hi => ?_⟩
  have hascend := h.kept_ascend
  rw [hretain] at hascend hi
  rcases List.mem_append.mp hi with hi | hi
  · exact Int.le_of_lt ((List.pairwise_append.mp hascend).2.2 i hi _ List.mem_cons_self)
  · exact Int.le_of_eq (List.mem_singleton.mp hi)

end Selection

open Selection

theorem mem_of_select? {α : Type} {p : α → Except Fault Bool} {items kept : List α}
    (h : select? p items = .ok kept) {x : α} (hx : x ∈ kept) : x ∈ items := by
  induction items generalizing kept with
  | nil =>
      cases h
      cases hx
  | cons item rest ih =>
      obtain ⟨held, -, h⟩ := bind_eq_ok.mp h
      obtain ⟨others, hothers, h⟩ := bind_eq_ok.mp h
      cases h
      split at hx
      · rcases List.mem_cons.mp hx with rfl | hx
        · exact List.mem_cons_self
        · exact List.mem_cons_of_mem _ (ih hothers hx)
      · exact List.mem_cons_of_mem _ (ih hothers hx)

namespace Placed

variable {words some : List Word} {i : Int}

theorem mem_positions (h : Placed words) :
    i ∈ positions words ↔ 0 ≤ i ∧ i < words.length := by
  have hpositions : positions words = (List.range words.length).map fun (n : Nat) => (n : Int) := by
    rw [← h, List.map_map]
    rfl
  rw [hpositions, List.mem_map]
  constructor
  · rintro ⟨n, hn, rfl⟩
    have := List.mem_range.mp hn
    omega
  · rintro ⟨hlow, hhigh⟩
    exact ⟨i.toNat, List.mem_range.mpr (by omega), by omega⟩

theorem within_positions (h : Placed words) (hsome : ∀ word ∈ some, word ∈ words) :
    Within words.length (positions some) := by
  intro i hi
  obtain ⟨word, hword, rfl⟩ := List.mem_map.mp hi
  exact h.mem_positions.mp (List.mem_map_of_mem (hsome word hword))

theorem within_keeper (h : Placed words) {keeper : Word} (hkeeper : keeper ∈ words) :
    Within words.length [keeper.position] := by
  have hsome : ∀ word ∈ [keeper], word ∈ words := List.forall_mem_singleton.mpr hkeeper
  exact h.within_positions hsome

/-- What is kept against all words divides them wholly. -/
theorem divides_against_all (h : Placed words) {retain : List Int} (hsome : retain ≠ [])
    (hretain : Within words.length retain) :
    (ofPositions retain (positions words)).Divides words.length
      ∧ (ofPositions retain (positions words)).Covers words.length := by
  refine ⟨divides_ofPositions hsome hretain (h.within_positions fun _ => id), ?_⟩
  exact covers_ofPositions fun i hlow hhigh => .inr (h.mem_positions.mpr ⟨hlow, hhigh⟩)

end Placed

namespace Strategy

variable {strategy : Strategy} {words : List Word} {context : Context} {params : Datum}
  {selection : Selection} {confidence : Double} {retain drop : List Int}

theorem divides_of_judgeForms?
    (h : judgeForms? words = .ok (.selected selection confidence)) :
    selection.Divides words.length ∧ selection.Covers words.length := by
  unfold judgeForms? at h
  split at h
  · cases h
  · rename_i form rest hforms
    split at h
    · cases h
    · cases h
      have hlength : words.length = rest.length + 1 := by
        rw [← List.length_map (f := Word.form), hforms, List.length_cons]
      refine ⟨divides_ofPositions (List.cons_ne_nil _ _) ?_ ?_,
        covers_ofPositions fun i hlow hhigh => ?_⟩
      · intro i hi
        obtain rfl := List.mem_singleton.mp hi
        omega
      · intro i hi
        obtain ⟨n, hn, rfl⟩ := List.mem_map.mp hi
        have := List.mem_range.mp hn
        omega
      · by_cases hi : i = rest.length
        · exact .inl (List.mem_singleton.mpr hi)
        · exact .inr (List.mem_map.mpr ⟨i.toNat, List.mem_range.mpr (by omega), by omega⟩)

theorem divides_of_identicalForms
    (h : identicalForms.judge words context params = .ok (.selected selection confidence)) :
    selection.Divides words.length ∧ selection.Covers words.length := by
  obtain ⟨enough, -, h⟩ := bind_eq_ok.mp h
  split at h
  · obtain ⟨strict, -, h⟩ := bind_eq_ok.mp h
    split at h
    · cases h
    · exact divides_of_judgeForms? h
  · cases h

theorem within_of_judgePair? (hplaced : Placed words) {pair : Datum}
    (h : judgePair? words pair = .ok (retain, drop)) :
    Within words.length retain ∧ Within words.length drop := by
  obtain ⟨keepers, hkeepers, h⟩ := bind_eq_ok.mp h
  obtain ⟨dropped, hdropped, h⟩ := bind_eq_ok.mp h
  split at h
  · rename_i keeper hkeeper
    split at h
    · cases h
      exact ⟨within_nil, within_nil⟩
    · cases h
      have hmem := mem_of_select? hkeepers (List.mem_of_getLast? hkeeper)
      exact ⟨hplaced.within_keeper hmem,
        hplaced.within_positions fun _ hword => mem_of_select? hdropped hword⟩
  · cases h
    exact ⟨within_nil, within_nil⟩

theorem within_of_judgePairs? (hplaced : Placed words) {pairs : List Datum}
    (h : judgePairs? words pairs = .ok (retain, drop)) :
    Within words.length retain ∧ Within words.length drop := by
  induction pairs generalizing retain drop with
  | nil =>
      cases h
      exact ⟨within_nil, within_nil⟩
  | cons pair rest ih =>
      obtain ⟨first, hfirst, h⟩ := bind_eq_ok.mp h
      obtain ⟨others, hothers, h⟩ := bind_eq_ok.mp h
      cases h
      obtain ⟨hkept, hdropped⟩ := within_of_judgePair? hplaced hfirst
      obtain ⟨hkept', hdropped'⟩ := ih hothers
      exact ⟨hkept.append hkept', hdropped.append hdropped'⟩

theorem divides_of_judgeFlag? (hplaced : Placed words)
    (h : judgeFlag? words params = .ok (.selected selection confidence)) :
    selection.Divides words.length ∧ selection.Covers words.length := by
  obtain ⟨flag, -, h⟩ := bind_eq_ok.mp h
  split at h
  · obtain ⟨flagged, hflagged, h⟩ := bind_eq_ok.mp h
    split at h
    · rename_i keeper hkeeper
      obtain ⟨given, -, h⟩ := bind_eq_ok.mp h
      obtain ⟨found, -, h⟩ := bind_eq_ok.mp h
      cases h
      have hmem := mem_of_select? hflagged (List.mem_of_getLast? hkeeper)
      exact hplaced.divides_against_all (List.cons_ne_nil _ _) (hplaced.within_keeper hmem)
    · cases h
  · cases h

/-- The listed pairs keep nothing, so that the flag decides. -/
def GoesByFlag (words : List Word) (params : Datum) : Prop :=
  ∃ listed pairs drop, params.getD? "pairs" (.tuple []) = .ok listed
    ∧ listed.items? = .ok pairs ∧ judgePairs? words pairs = .ok ([], drop)

theorem divides_of_lexicalRetention (hplaced : Placed words)
    (h : lexicalRetention.judge words context params = .ok (.selected selection confidence)) :
    selection.Divides words.length
      ∧ (GoesByFlag words params → selection.Covers words.length) := by
  obtain ⟨enough, -, h⟩ := bind_eq_ok.mp h
  split at h
  · obtain ⟨listed, hlisted, h⟩ := bind_eq_ok.mp h
    obtain ⟨pairs, hpairs, h⟩ := bind_eq_ok.mp h
    obtain ⟨⟨retain, drop⟩, hjudged, h⟩ := bind_eq_ok.mp h
    dsimp only at h
    split at h
    · exact (divides_of_judgeFlag? hplaced h).imp_right fun hcovers _ => hcovers
    · rename_i hsome
      cases h
      obtain ⟨hretain, hdrop⟩ := within_of_judgePairs? hplaced hjudged
      refine ⟨divides_ofPositions (mt List.isEmpty_iff.mpr hsome) hretain hdrop, ?_⟩
      rintro ⟨listed', pairs', drop', hlisted', hpairs', hjudged'⟩
      rw [hlisted, Except.ok.injEq] at hlisted'
      subst hlisted'
      rw [hpairs, Except.ok.injEq] at hpairs'
      subst hpairs'
      rw [hjudged, Except.ok.injEq, Prod.mk.injEq] at hjudged'
      exact absurd (List.isEmpty_iff.mpr hjudged'.1) hsome
  · cases h

theorem divides_of_seriesRetention (hplaced : Placed words)
    (h : seriesRetention.judge words context params = .ok (.selected selection confidence)) :
    selection.Divides words.length ∧ selection.Covers words.length := by
  obtain ⟨enough, -, h⟩ := bind_eq_ok.mp h
  split at h
  · obtain ⟨series, -, h⟩ := bind_eq_ok.mp h
    obtain ⟨flag, -, h⟩ := bind_eq_ok.mp h
    obtain ⟨members, hmembers, h⟩ := bind_eq_ok.mp h
    split at h
    · cases h
    · rename_i hsome
      cases h
      refine hplaced.divides_against_all (fun hnone => hsome ?_)
        (hplaced.within_positions fun _ hword => mem_of_select? hmembers hword)
      exact List.isEmpty_iff.mpr (List.map_eq_nil_iff.mp hnone)
  · cases h

theorem within_of_judgeGroup? (hplaced : Placed words) {retaining against : Datum}
    {group : List Word} (hgroup : ∀ word ∈ group, word ∈ words)
    (h : judgeGroup? retaining against group = .ok (retain, drop)) :
    Within words.length retain ∧ Within words.length drop := by
  obtain ⟨keepers, hkeepers, h⟩ := bind_eq_ok.mp h
  obtain ⟨counterparts, -, h⟩ := bind_eq_ok.mp h
  split at h
  · rename_i keeper hkeeper
    split at h
    · cases h
      exact ⟨within_nil, within_nil⟩
    · cases h
      have hmem := mem_of_select? hkeepers (List.mem_of_getLast? hkeeper)
      refine ⟨hplaced.within_keeper (hgroup _ hmem), fun i hi => ?_⟩
      exact hplaced.within_positions hgroup i (List.mem_filter.mp hi).1
  · cases h
    exact ⟨within_nil, within_nil⟩

theorem within_of_judgeGroups? (hplaced : Placed words) {retaining against : Datum}
    {groups : List (List Word)} (hgroups : ∀ group ∈ groups, ∀ word ∈ group, word ∈ words)
    (h : judgeGroups? retaining against groups = .ok (retain, drop)) :
    Within words.length retain ∧ Within words.length drop := by
  induction groups generalizing retain drop with
  | nil =>
      cases h
      exact ⟨within_nil, within_nil⟩
  | cons group rest ih =>
      obtain ⟨hgroup, hrest⟩ := List.forall_mem_cons.mp hgroups
      obtain ⟨first, hfirst, h⟩ := bind_eq_ok.mp h
      obtain ⟨others, hothers, h⟩ := bind_eq_ok.mp h
      cases h
      obtain ⟨hkept, hdropped⟩ := within_of_judgeGroup? hplaced hgroup hfirst
      obtain ⟨hkept', hdropped'⟩ := ih hrest hothers
      exact ⟨hkept.append hkept', hdropped.append hdropped'⟩

theorem mem_of_mem_groupsOf {group : List Word} (hgroup : group ∈ groupsOf words) :
    ∀ word ∈ group, word ∈ words := by
  obtain ⟨key, rfl⟩ := mem_groupsOf hgroup
  exact fun _ hword => (List.mem_filter.mp hword).1

theorem divides_of_attributePairing (hplaced : Placed words)
    (h : attributePairing.judge words context params = .ok (.selected selection confidence)) :
    selection.Divides words.length := by
  obtain ⟨enough, -, h⟩ := bind_eq_ok.mp h
  split at h
  · obtain ⟨retaining, -, h⟩ := bind_eq_ok.mp h
    obtain ⟨against, -, h⟩ := bind_eq_ok.mp h
    obtain ⟨⟨kept, dropped⟩, hgroups, h⟩ := bind_eq_ok.mp h
    dsimp only at h
    split at h
    · cases h
    · rename_i hsome
      cases h
      obtain ⟨hkept, hdropped⟩ :=
        within_of_judgeGroups? hplaced (fun _ => mem_of_mem_groupsOf) hgroups
      exact divides_ofPositions (mt List.isEmpty_iff.mpr hsome) hkept hdropped
  · cases h

theorem divides_of_attributeSelection (hplaced : Placed words)
    (h : attributeSelection.judge words context params = .ok (.selected selection confidence)) :
    selection.Divides words.length ∧ selection.Covers words.length := by
  obtain ⟨enough, -, h⟩ := bind_eq_ok.mp h
  split at h
  · obtain ⟨keepers, hkeepers, h⟩ := bind_eq_ok.mp h
    split at h
    · rename_i keeper hkeeper
      cases h
      have hmem := mem_of_select? hkeepers (List.mem_of_getLast? hkeeper)
      exact hplaced.divides_against_all (List.cons_ne_nil _ _) (hplaced.within_keeper hmem)
    · cases h
  · cases h

/-- Whether the strategy leaves no word of a group out. -/
def LeavesNone (words : List Word) (params : Datum) : Strategy → Prop
  | .identicalForms | .seriesRetention | .attributeSelection => True
  | .lexicalRetention => GoesByFlag words params
  | .attributePairing => False

theorem divides_of_judge (hplaced : Placed words)
    (h : strategy.judge words context params = .ok (.selected selection confidence)) :
    selection.Divides words.length
      ∧ (strategy.LeavesNone words params → selection.Covers words.length) := by
  cases strategy with
  | identicalForms =>
      exact (divides_of_identicalForms h).imp_right fun hcovers _ => hcovers
  | lexicalRetention => exact divides_of_lexicalRetention hplaced h
  | seriesRetention =>
      exact (divides_of_seriesRetention hplaced h).imp_right fun hcovers _ => hcovers
  | attributePairing => exact ⟨divides_of_attributePairing hplaced h, nofun⟩
  | attributeSelection =>
      exact (divides_of_attributeSelection hplaced h).imp_right fun hcovers _ => hcovers

end Strategy

namespace Plan

variable {plan : Plan} {words : List Word} {context : Context} {selection : Selection}
  {confidence : Double}

theorem judge_eq_selected
    (h : plan.judge words context = .ok (.selected selection confidence)) :
    ∃ found, plan.strategy.judge words context (.map plan.params) =
        .ok (.selected selection found)
      ∧ confidence = (found.mul plan.confidence).roundPlaces 6 := by
  obtain ⟨granted, -, h⟩ := bind_eq_ok.mp h
  split at h
  · obtain ⟨finding, hfinding, h⟩ := bind_eq_ok.mp h
    cases finding with
    | selected found level =>
        cases h
        exact ⟨level, hfinding, rfl⟩
    | passed reason nearMiss => cases h
  · cases h

theorem divides_of_judge (hplaced : Placed words)
    (h : plan.judge words context = .ok (.selected selection confidence)) :
    selection.Divides words.length
      ∧ (plan.strategy.LeavesNone words (.map plan.params) →
        selection.Covers words.length) := by
  obtain ⟨found, hfound, -⟩ := judge_eq_selected h
  exact Strategy.divides_of_judge hplaced hfound

end Plan

end SutraArbiter
