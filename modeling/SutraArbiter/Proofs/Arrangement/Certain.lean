import SutraArbiter.Proofs.Arrangement
import SutraArbiter.Proofs.Arrangement.Failing

namespace SutraArbiter.Arrangement

/-! A comparison that may fail, but does not on the items at hand, arranges them as one that
never fails. -/

variable {ε α : Type} {precedes? : α → α → Except ε Bool} {precedes : α → α → Bool}

/-- On these items the comparison succeeds. -/
def Decides (precedes? : α → α → Except ε Bool) (precedes : α → α → Bool) (items : List α) :
    Prop :=
  ∀ x ∈ items, ∀ y ∈ items, precedes? x y = .ok (precedes x y)

theorem Decides.mono {items others : List α} (h : Decides precedes? precedes items)
    (hsub : others ⊆ items) : Decides precedes? precedes others :=
  fun x hx y hy => h x (hsub hx) y (hsub hy)

theorem continueRun_of_decides {descends : Bool} {last : α} {items : List α}
    (h : Decides precedes? precedes (last :: items)) :
    continueRun precedes? descends last items =
      .ok (Id.run (continueRun (certain precedes) descends last items)) := by
  induction items generalizing last with
  | nil => rfl
  | cons item rest ih =>
      rw [continueRun, h item (by simp) last (by simp), continueRun_cons]
      by_cases hgoes : precedes item last = descends
      · rw [if_pos hgoes, ok_bind, if_pos hgoes, ih (h.mono (List.subset_cons_self _ _))]
        rfl
      · rw [if_neg hgoes, ok_bind, if_neg hgoes]
        rfl

theorem leadingRun_of_decides {items : List α} (h : Decides precedes? precedes items) :
    leadingRun precedes? items = .ok (Id.run (leadingRun (certain precedes) items)) := by
  match items with
  | [] => rfl
  | [_] => rfl
  | first :: second :: rest =>
      rw [leadingRun, h second (by simp) first (by simp), leadingRun_cons_cons, ok_bind,
        continueRun_of_decides (h.mono (List.subset_cons_self _ _))]
      rfl

theorem place_of_decides {item : α} {placed : List α}
    (h : Decides precedes? precedes (item :: placed)) :
    place precedes? item placed = .ok (Id.run (place (certain precedes) item placed)) := by
  rcases Nat.eq_zero_or_pos placed.length with hempty | hpos
  · rw [List.length_eq_zero_iff.mp hempty, place_nil, place]
    rfl
  · have hmiddle : placed.length / 2 < placed.length := Nat.div_lt_self hpos Nat.one_lt_two
    have hlower := place_of_decides
      (h.mono (List.cons_subset_cons item (List.take_subset (placed.length / 2) placed)))
    have hupper := place_of_decides
      (h.mono (List.cons_subset_cons item (List.drop_subset (placed.length / 2 + 1) placed)))
    rw [place_of_pos precedes item hmiddle, place, dif_pos hpos, h item (by simp) _
      (List.mem_cons_of_mem _ (List.getElem_mem hmiddle)), ok_bind]
    split
    · rw [hlower]
      rfl
    · rw [hupper]
      rfl
termination_by placed.length

theorem placeAll_of_decides {placed items : List α}
    (h : Decides precedes? precedes (placed ++ items)) :
    placeAll precedes? placed items = .ok (Id.run (placeAll (certain precedes) placed items)) := by
  induction items generalizing placed with
  | nil => rfl
  | cons item rest ih =>
      have hplaced : item :: placed ⊆ placed ++ item :: rest := fun x hx => by
        rcases List.mem_cons.mp hx with rfl | hx <;> simp [*]
      have hplace := place_of_decides (h.mono hplaced)
      have hnext : Id.run (place (certain precedes) item placed) ++ rest ⊆
          placed ++ item :: rest :=
        (((place_perm precedes item placed).append_right rest).trans
          List.perm_middle.symm).subset
      rw [placeAll, hplace, ok_bind, ih (h.mono hnext), placeAll_cons]

/-- The items are arranged as if the comparison could not fail. -/
theorem arrange_of_decides {items : List α} (h : Decides precedes? precedes items) :
    arrange precedes? items = .ok (sorted precedes items) := by
  have hrun : (Id.run (leadingRun (certain precedes) items)).1
      ++ (Id.run (leadingRun (certain precedes) items)).2 ⊆ items :=
    (leadingRun_perm precedes items).subset
  rw [arrange, leadingRun_of_decides h, ok_bind]
  exact placeAll_of_decides (h.mono hrun)

end SutraArbiter.Arrangement
