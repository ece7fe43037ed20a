import SutraArbiter.Proofs.Arrangement
import SutraArbiter.Ranking
import Mathlib.Data.List.Perm.Basic

namespace SutraArbiter

namespace Level

theorem lt_asymm {x y : Level} (h : x.lt y = true) : y.lt x = false := by
  cases hback : y.lt x with
  | false => rfl
  | true =>
      have hself := lt_trans h hback
      rw [lt_irrefl] at hself
      contradiction

theorem lt_trichotomy {x y : Level} (hx : x ≠ undefined) (hy : y ≠ undefined) :
    x.lt y = true ∨ x = y ∨ y.lt x = true := by
  cases x <;> cases y <;> simp_all [lt]
  omega

theorem same_eq_decide {x : Level} (hx : x ≠ undefined) (y : Level) :
    x.same y = decide (x = y) := by
  cases x <;> simp_all [same]

end Level

namespace Standing

def level (standing : Standing) : Level :=
  standing.reply.confidence.level

def IsNumbered (standing : Standing) : Prop :=
  standing.level ≠ .undefined

/-- The order that the policy sets among rules of one tier and equal specificity. -/
def Prevails (policy : TieBreak) (x y : Standing) : Prop :=
  match policy with
  | .confidenceFirst =>
      y.level.lt x.level = true ∨ x.level = y.level ∧ x.entry.index < y.entry.index
  | .declarationFirst =>
      x.entry.index < y.entry.index
        ∨ x.entry.index = y.entry.index ∧ y.level.lt x.level = true

/-- The whole order: a higher tier first, then more active tags, then the policy. -/
def Outranks (policy : TieBreak) (x y : Standing) : Prop :=
  y.entry.tier.rank < x.entry.tier.rank
    ∨ x.entry.tier.rank = y.entry.tier.rank
      ∧ (y.specificity < x.specificity
        ∨ x.specificity = y.specificity ∧ Prevails policy x y)

variable {policy : TieBreak} {x y z : Standing}

theorem breaksTie_eq_true (hx : x.IsNumbered) :
    breaksTie policy x y = true ↔ Prevails policy x y := by
  have hsame : x.reply.confidence.same y.reply.confidence = decide (x.level = y.level) :=
    Level.same_eq_decide hx _
  have hlt : y.reply.confidence.lt x.reply.confidence = y.level.lt x.level := rfl
  cases policy with
  | confidenceFirst =>
      simp only [breaksTie, Prevails, hsame, hlt]
      by_cases hlevel : x.level = y.level
      · simp [hlevel, Level.lt_irrefl]
      · simp [hlevel]
  | declarationFirst =>
      simp only [breaksTie, Prevails, hlt]
      by_cases hindex : x.entry.index = y.entry.index
      · simp [hindex]
      · simp [hindex]

/-- Within a tier the comparison of the ranking is the order itself. -/
theorem precedes_eq_true (hx : x.IsNumbered) (htier : x.entry.tier = y.entry.tier) :
    precedes policy x y = true ↔ Outranks policy x y := by
  unfold precedes Outranks
  rw [htier]
  by_cases hspecificity : x.specificity = y.specificity
  · simp [hspecificity, breaksTie_eq_true hx]
  · simp [hspecificity]

theorem Prevails.trans (hxy : Prevails policy x y) (hyz : Prevails policy y z) :
    Prevails policy x z := by
  cases policy with
  | confidenceFirst =>
      rcases hxy with hxy | ⟨hxy, hindex⟩ <;> rcases hyz with hyz | ⟨hyz, hindex'⟩
      · exact .inl (Level.lt_trans hyz hxy)
      · exact .inl (hyz ▸ hxy)
      · exact .inl (hxy ▸ hyz)
      · exact .inr ⟨hxy.trans hyz, Nat.lt_trans hindex hindex'⟩
  | declarationFirst =>
      rcases hxy with hxy | ⟨hxy, hlevel⟩ <;> rcases hyz with hyz | ⟨hyz, hlevel'⟩
      · exact .inl (Nat.lt_trans hxy hyz)
      · exact .inl (hyz ▸ hxy)
      · exact .inl (hxy ▸ hyz)
      · exact .inr ⟨hxy.trans hyz, Level.lt_trans hlevel' hlevel⟩

theorem Prevails.irrefl (policy : TieBreak) (x : Standing) : ¬ Prevails policy x x := by
  cases policy <;> simp [Prevails, Level.lt_irrefl]

theorem Outranks.trans (hxy : Outranks policy x y) (hyz : Outranks policy y z) :
    Outranks policy x z := by
  unfold Outranks at *
  rcases hxy with hxy | ⟨htier, hxy | ⟨hspecificity, hxy⟩⟩ <;>
    rcases hyz with hyz | ⟨htier', hyz | ⟨hspecificity', hyz⟩⟩
  all_goals first | omega | skip
  exact .inr ⟨htier.trans htier', .inr ⟨hspecificity.trans hspecificity', hxy.trans hyz⟩⟩

theorem Outranks.irrefl (policy : TieBreak) (x : Standing) : ¬ Outranks policy x x := by
  simp [Outranks, Prevails.irrefl]

theorem Outranks.asymm (hxy : Outranks policy x y) : ¬ Outranks policy y x :=
  fun hyx => Outranks.irrefl policy x (hxy.trans hyx)

theorem outranks_total (hx : x.IsNumbered) (hy : y.IsNumbered)
    (hindex : x.entry.index ≠ y.entry.index) :
    Outranks policy x y ∨ Outranks policy y x := by
  have hprevails : Prevails policy x y ∨ Prevails policy y x := by
    cases policy with
    | confidenceFirst =>
        have hlevel := Level.lt_trichotomy hx hy
        simp only [Prevails]
        grind
    | declarationFirst =>
        simp only [Prevails]
        omega
  unfold Outranks
  grind

theorem Outranks.trans_not (hx : x.IsNumbered) (hy : y.IsNumbered) (hz : z.IsNumbered)
    (hzx : Outranks policy z x) (hyx : ¬ Outranks policy y x) :
    Outranks policy z y := by
  have hlevel := Level.lt_trichotomy hx hy
  have htrans : z.level.lt y.level = true ∨ z.level = y.level ∨ y.level.lt z.level = true :=
    Level.lt_trichotomy hz hy
  have hleft : ∀ {a b c : Level}, a.lt b = true → b.lt c = true → a.lt c = true :=
    Level.lt_trans
  have hirrefl := Level.lt_irrefl
  unfold Outranks Prevails at *
  cases policy <;> grind

theorem precedes_ordersOn (policy : TieBreak) (tier : Tier) :
    Arrangement.OrdersOn (fun x => x.IsNumbered ∧ x.entry.tier = tier)
      (precedes policy) where
  asymm := by
    rintro x y ⟨hx, hxtier⟩ ⟨hy, hytier⟩ h
    have htier := hxtier.trans hytier.symm
    rw [precedes_eq_true hx htier] at h
    rw [← Bool.not_eq_true, precedes_eq_true hy htier.symm]
    exact h.asymm
  trans := by
    rintro x y z ⟨hx, hxtier⟩ ⟨hy, hytier⟩ ⟨hz, hztier⟩ hyx hzy
    have hxy := hxtier.trans hytier.symm
    have hyz := hytier.trans hztier.symm
    rw [← Bool.not_eq_true, precedes_eq_true hy hxy.symm] at hyx
    rw [← Bool.not_eq_true, precedes_eq_true hz hyz.symm] at hzy
    rw [← Bool.not_eq_true, precedes_eq_true hz (hxy.trans hyz).symm]
    exact fun hzx => hzy (hzx.trans_not hx hy hz hyx)

end Standing

namespace Ruling

variable {policy : TieBreak} {standings : List Standing}

/-- Standings that the ranking can tell apart: every confidence is a number, and no
two stand at one place. -/
structure Distinct (standings : List Standing) : Prop where
  numbered : ∀ x ∈ standings, x.IsNumbered
  places : standings.Pairwise fun x y => x.entry.index ≠ y.entry.index

/-! The ranking: a permutation in which whatever stands earlier outranks what
stands later, and the only one. -/

theorem arranged_perm (policy : TieBreak) (standings : List Standing) :
    (arranged policy standings).Perm standings :=
  Arrangement.sorted_perm (Standing.precedes policy) standings

theorem tiers_perm {tiers : List Tier} (hnodup : tiers.Nodup)
    (standings : List Standing) :
    (tiers.flatMap fun tier => standings.filter fun x => x.entry.tier = tier).Perm
      (standings.filter fun x => x.entry.tier ∈ tiers) := by
  induction tiers with
  | nil => simp
  | cons tier tiers ih =>
      obtain ⟨hfresh, hnodup⟩ := List.nodup_cons.mp hnodup
      have hsplit := List.filter_append_perm (fun x : Standing => x.entry.tier = tier)
        (standings.filter fun x => x.entry.tier ∈ tier :: tiers)
      have hfirst : ((standings.filter fun x => x.entry.tier ∈ tier :: tiers).filter
          fun x => x.entry.tier = tier) = standings.filter fun x => x.entry.tier = tier := by
        rw [List.filter_filter]
        apply List.filter_congr
        intro x _
        grind
      have hothers : ((standings.filter fun x => x.entry.tier ∈ tier :: tiers).filter
          fun x => !decide (x.entry.tier = tier)) =
            standings.filter fun x => x.entry.tier ∈ tiers := by
        rw [List.filter_filter]
        apply List.filter_congr
        intro x _
        grind
      rw [hfirst, hothers] at hsplit
      exact ((ih hnodup).append_left _).trans hsplit

theorem descending_perm (standings : List Standing) :
    (Tier.descending.flatMap fun tier =>
      standings.filter fun x => x.entry.tier = tier).Perm standings := by
  have hall : (standings.filter fun x => x.entry.tier ∈ Tier.descending) = standings := by
    apply List.filter_eq_self.mpr
    intro x _
    cases x.entry.tier <;> decide
  simpa only [hall] using tiers_perm (by decide : Tier.descending.Nodup) standings

theorem ranked_perm (policy : TieBreak) (standings : List Standing) :
    (ranked policy standings).Perm standings :=
  (List.Perm.flatMap_left Tier.descending fun _ _ => arranged_perm policy _).trans
    (descending_perm standings)

theorem arranged_outranks (hdistinct : Distinct standings) {tier : Tier}
    (htier : ∀ x ∈ standings, x.entry.tier = tier) :
    (arranged policy standings).Pairwise (Standing.Outranks policy) := by
  have hperm := arranged_perm policy standings
  have hmembers : ∀ x ∈ standings, x.IsNumbered ∧ x.entry.tier = tier :=
    fun x hx => ⟨hdistinct.numbered x hx, htier x hx⟩
  have horder : (arranged policy standings).Pairwise
      fun x y => Standing.precedes policy y x = false :=
    Arrangement.sorted_inOrder (Standing.precedes_ordersOn policy tier) hmembers
  have hplaces : (arranged policy standings).Pairwise
      fun x y => x.entry.index ≠ y.entry.index :=
    (hperm.pairwise_iff fun h => h.symm).mpr hdistinct.places
  apply (horder.and hplaces).imp_of_mem
  intro x y hx hy h
  obtain ⟨hxnumbered, hxtier⟩ := hmembers x (hperm.mem_iff.mp hx)
  obtain ⟨hynumbered, hytier⟩ := hmembers y (hperm.mem_iff.mp hy)
  have hback : ¬ Standing.Outranks policy y x := by
    rw [← Standing.precedes_eq_true hynumbered (hytier.trans hxtier.symm), h.1]
    exact Bool.false_ne_true
  exact (Standing.outranks_total hxnumbered hynumbered h.2).resolve_right hback

theorem ranked_outranks (policy : TieBreak) (hdistinct : Distinct standings) :
    (ranked policy standings).Pairwise (Standing.Outranks policy) := by
  refine List.pairwise_flatMap.mpr ⟨fun tier _ => ?_, ?_⟩
  · have htier : ∀ x ∈ standings.filter (fun x => x.entry.tier = tier),
        x.entry.tier = tier :=
      fun x hx => by simpa using List.of_mem_filter hx
    refine arranged_outranks ⟨fun x hx => ?_, hdistinct.places.filter _⟩ htier
    exact hdistinct.numbered x (List.mem_of_mem_filter hx)
  · have hranks : Tier.descending.Pairwise fun t u => u.rank < t.rank := by decide
    apply hranks.imp
    intro t u hrank x hx y hy
    have hxtier := List.of_mem_filter ((arranged_perm policy _).mem_iff.mp hx)
    have hytier := List.of_mem_filter ((arranged_perm policy _).mem_iff.mp hy)
    simp only [decide_eq_true_eq] at hxtier hytier
    left
    rw [hxtier, hytier]
    exact hrank

theorem eq_ranked (hdistinct : Distinct standings) {ranking : List Standing}
    (hperm : ranking.Perm standings)
    (houtranks : ranking.Pairwise (Standing.Outranks policy)) :
    ranking = ranked policy standings :=
  List.Perm.eq_of_pairwise (fun _ _ _ _ hxy hyx => absurd hyx hxy.asymm) houtranks
    (ranked_outranks policy hdistinct) (hperm.trans (ranked_perm policy standings).symm)

end Ruling

end SutraArbiter
