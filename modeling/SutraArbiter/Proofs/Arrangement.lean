import SutraArbiter.Arrangement
import Mathlib.Data.List.Basic

namespace SutraArbiter.Arrangement

/-! What arranging does when the comparison never fails and puts the items in an
order: nothing is lost, and no item stands before one that precedes it. -/

variable {α : Type} {precedes : α → α → Bool} {P : α → Prop}

abbrev certain (precedes : α → α → Bool) (x y : α) : Id Bool :=
  pure (precedes x y)

abbrev sorted (precedes : α → α → Bool) (items : List α) : List α :=
  Id.run (arrange (certain precedes) items)

/-- Among the items that satisfy `P`, precedence goes one way only, and where it
is absent from two steps it is absent from both together. -/
structure OrdersOn (P : α → Prop) (precedes : α → α → Bool) : Prop where
  asymm : ∀ {x y}, P x → P y → precedes x y = true → precedes y x = false
  trans : ∀ {x y z}, P x → P y → P z →
    precedes y x = false → precedes z y = false → precedes z x = false

/-- No item stands before one that precedes it. -/
def InOrder (precedes : α → α → Bool) (items : List α) : Prop :=
  items.Pairwise fun x y => precedes y x = false

theorem continueRun_cons (precedes : α → α → Bool) (descends : Bool)
    (last item : α) (rest : List α) :
    Id.run (continueRun (certain precedes) descends last (item :: rest)) =
      if precedes item last = descends then
        let tail := Id.run (continueRun (certain precedes) descends item rest)
        (item :: tail.1, tail.2)
      else ([], item :: rest) := by
  by_cases h : precedes item last = descends <;> simp [continueRun, h]

theorem continueRun_append (precedes : α → α → Bool) (descends : Bool) (last : α)
    (items : List α) :
    (Id.run (continueRun (certain precedes) descends last items)).1
        ++ (Id.run (continueRun (certain precedes) descends last items)).2 =
      items := by
  induction items generalizing last with
  | nil => rfl
  | cons item rest ih =>
      rw [continueRun_cons]
      split
      · simp [ih item]
      · rfl

/-- Along the run each item compares to the one before it as `descends` says, so
it does to every item before it; the run is read from its last item on. -/
theorem continueRun_descending (horders : OrdersOn P precedes) {last : α}
    {items : List α} (hlast : P last) (hitems : ∀ x ∈ items, P x) :
    (last :: (Id.run (continueRun (certain precedes) true last items)).1).Pairwise
      fun x y => precedes x y = false := by
  induction items generalizing last with
  | nil => exact List.pairwise_singleton _ _
  | cons item rest ih =>
      have hitem : P item := hitems item List.mem_cons_self
      have hrest : ∀ x ∈ rest, P x := fun x hx => hitems x (List.mem_cons_of_mem _ hx)
      rw [continueRun_cons]
      split
      · rename_i hprecedes
        have htail := ih hitem hrest
        have hstep : precedes last item = false :=
          horders.asymm hitem hlast hprecedes
        refine List.pairwise_cons.mpr ⟨fun y hy => ?_, htail⟩
        rcases List.mem_cons.mp hy with rfl | hy
        · exact hstep
        · have hmember : y ∈ rest := by
            rw [← continueRun_append precedes true item rest]
            exact List.mem_append_left _ hy
          exact horders.trans (hrest y hmember) hitem hlast
            ((List.pairwise_cons.mp htail).1 y hy) hstep
      · exact List.pairwise_singleton _ _

theorem continueRun_ascending (horders : OrdersOn P precedes) {last : α}
    {items : List α} (hlast : P last) (hitems : ∀ x ∈ items, P x) :
    InOrder precedes
      (last :: (Id.run (continueRun (certain precedes) false last items)).1) := by
  induction items generalizing last with
  | nil => exact List.pairwise_singleton _ _
  | cons item rest ih =>
      have hitem : P item := hitems item List.mem_cons_self
      have hrest : ∀ x ∈ rest, P x := fun x hx => hitems x (List.mem_cons_of_mem _ hx)
      rw [continueRun_cons]
      split
      · rename_i hstep
        have htail := ih hitem hrest
        refine List.pairwise_cons.mpr ⟨fun y hy => ?_, htail⟩
        rcases List.mem_cons.mp hy with rfl | hy
        · exact hstep
        · have hmember : y ∈ rest := by
            rw [← continueRun_append precedes false item rest]
            exact List.mem_append_left _ hy
          exact horders.trans hlast hitem (hrest y hmember) hstep
            ((List.pairwise_cons.mp htail).1 y hy)
      · exact List.pairwise_singleton _ _

theorem leadingRun_cons_cons (precedes : α → α → Bool) (first second : α)
    (rest : List α) :
    Id.run (leadingRun (certain precedes) (first :: second :: rest)) =
      let descends := precedes second first
      let tail := Id.run (continueRun (certain precedes) descends second rest)
      (if descends then (first :: second :: tail.1).reverse
        else first :: second :: tail.1, tail.2) := by
  rfl

theorem leadingRun_perm (precedes : α → α → Bool) (items : List α) :
    ((Id.run (leadingRun (certain precedes) items)).1
      ++ (Id.run (leadingRun (certain precedes) items)).2).Perm items := by
  match items with
  | [] => exact List.Perm.refl _
  | [item] => exact List.Perm.refl _
  | first :: second :: rest =>
      rw [leadingRun_cons_cons]
      have happend := continueRun_append precedes (precedes second first) second rest
      dsimp only
      split
      · refine ((List.reverse_perm _).append_right _).trans ?_
        simp [happend]
      · simp [happend]

theorem leadingRun_inOrder (horders : OrdersOn P precedes) {items : List α}
    (hitems : ∀ x ∈ items, P x) :
    InOrder precedes (Id.run (leadingRun (certain precedes) items)).1 := by
  match items with
  | [] => exact List.Pairwise.nil
  | [item] => exact List.pairwise_singleton _ _
  | first :: second :: rest =>
      have hfirst : P first := hitems first List.mem_cons_self
      have hrest : ∀ x ∈ second :: rest, P x :=
        fun x hx => hitems x (List.mem_cons_of_mem _ hx)
      rw [leadingRun_cons_cons]
      cases hdescends : precedes second first with
      | true =>
          have hrun := continueRun_descending horders hfirst hrest
          rw [continueRun_cons, if_pos hdescends] at hrun
          exact List.pairwise_reverse.mpr hrun
      | false =>
          have hrun := continueRun_ascending horders hfirst hrest
          rw [continueRun_cons, if_pos hdescends] at hrun
          exact hrun

theorem place_nil (precedes : α → α → Bool) (item : α) :
    Id.run (place (certain precedes) item []) = [item] := by
  rw [place]
  rfl

theorem place_of_pos (precedes : α → α → Bool) (item : α) {placed : List α}
    (hmiddle : placed.length / 2 < placed.length) :
    Id.run (place (certain precedes) item placed) =
      if precedes item placed[placed.length / 2] then
        Id.run (place (certain precedes) item (placed.take (placed.length / 2)))
          ++ placed.drop (placed.length / 2)
      else
        placed.take (placed.length / 2 + 1)
          ++ Id.run (place (certain precedes) item
            (placed.drop (placed.length / 2 + 1))) := by
  rw [place, dif_pos (Nat.zero_lt_of_lt hmiddle)]
  cases hprecedes : precedes item placed[placed.length / 2] <;> simp [hprecedes]

theorem place_perm (precedes : α → α → Bool) (item : α) (placed : List α) :
    (Id.run (place (certain precedes) item placed)).Perm (item :: placed) := by
  rcases Nat.eq_zero_or_pos placed.length with hempty | hpos
  · rw [List.length_eq_zero_iff.mp hempty, place_nil]
  · rw [place_of_pos precedes item (Nat.div_lt_self hpos Nat.one_lt_two)]
    split
    · have hlower := place_perm precedes item (placed.take (placed.length / 2))
      refine (hlower.append_right _).trans ?_
      rw [List.cons_append, List.take_append_drop]
    · have hupper := place_perm precedes item (placed.drop (placed.length / 2 + 1))
      refine (hupper.append_left _).trans (List.perm_middle.trans ?_)
      rw [List.take_append_drop]
termination_by placed.length

theorem mem_place {item x : α} {placed : List α} :
    x ∈ Id.run (place (certain precedes) item placed) ↔ x = item ∨ x ∈ placed := by
  rw [(place_perm precedes item placed).mem_iff, List.mem_cons]

theorem InOrder.around_middle {placed : List α} (h : InOrder precedes placed)
    {middle : Nat} (hmiddle : middle < placed.length) :
    InOrder precedes (placed.take middle)
      ∧ InOrder precedes (placed.drop (middle + 1))
      ∧ (∀ x ∈ placed.take middle, precedes placed[middle] x = false)
      ∧ (∀ y ∈ placed.drop (middle + 1), precedes y placed[middle] = false)
      ∧ ∀ x ∈ placed.take middle, ∀ y ∈ placed.drop (middle + 1),
        precedes y x = false := by
  unfold InOrder at h
  rw [← List.take_append_drop middle placed, List.drop_eq_getElem_cons hmiddle] at h
  obtain ⟨hlower, hrest, hbetween⟩ := List.pairwise_append.mp h
  obtain ⟨habove, hupper⟩ := List.pairwise_cons.mp hrest
  exact ⟨hlower, hupper, fun x hx => hbetween x hx _ List.mem_cons_self, habove,
    fun x hx y hy => hbetween x hx y (List.mem_cons_of_mem _ hy)⟩

theorem place_inOrder (horders : OrdersOn P precedes) {item : α} {placed : List α}
    (hitem : P item) (hplaced : ∀ x ∈ placed, P x) (hsorted : InOrder precedes placed) :
    InOrder precedes (Id.run (place (certain precedes) item placed)) := by
  rcases Nat.eq_zero_or_pos placed.length with hempty | hpos
  · rw [List.length_eq_zero_iff.mp hempty, place_nil]
    exact List.pairwise_singleton _ _
  · have hmiddle : placed.length / 2 < placed.length := by omega
    have hP : P placed[placed.length / 2] := hplaced _ (List.getElem_mem hmiddle)
    have htake : ∀ x ∈ placed.take (placed.length / 2), P x :=
      fun x hx => hplaced x (List.mem_of_mem_take hx)
    have hdrop : ∀ x ∈ placed.drop (placed.length / 2 + 1), P x :=
      fun x hx => hplaced x (List.mem_of_mem_drop hx)
    obtain ⟨hlower, hupper, hbelow, habove, hbetween⟩ :=
      InOrder.around_middle hsorted hmiddle
    rw [place_of_pos precedes item hmiddle]
    split
    · rename_i hprecedes
      have hback := horders.asymm hitem hP hprecedes
      rw [List.drop_eq_getElem_cons hmiddle]
      refine List.pairwise_append.mpr ⟨place_inOrder horders hitem htake hlower,
        List.pairwise_cons.mpr ⟨habove, hupper⟩, fun x hx y hy => ?_⟩
      rcases mem_place.mp hx with rfl | hx <;> rcases List.mem_cons.mp hy with rfl | hy
      · exact hback
      · exact horders.trans hitem hP (hdrop y hy) hback (habove y hy)
      · exact hbelow x hx
      · exact hbetween x hx y hy
    · rename_i hprecedes
      have hback : precedes item placed[placed.length / 2] = false := by
        simpa using hprecedes
      rw [List.take_succ_eq_append_getElem hmiddle]
      refine List.pairwise_append.mpr ⟨List.pairwise_append.mpr
        ⟨hlower, List.pairwise_singleton _ _, fun x hx y hy => ?_⟩,
        place_inOrder horders hitem hdrop hupper, fun x hx y hy => ?_⟩
      · rw [List.mem_singleton.mp hy]
        exact hbelow x hx
      · rcases List.mem_append.mp hx with hx | hx <;> rcases mem_place.mp hy with rfl | hy
        · exact horders.trans (htake x hx) hP hitem (hbelow x hx) hback
        · exact hbetween x hx y hy
        · rw [List.mem_singleton.mp hx]
          exact hback
        · rw [List.mem_singleton.mp hx]
          exact habove y hy
termination_by placed.length

theorem placeAll_cons (precedes : α → α → Bool) (placed : List α) (item : α)
    (rest : List α) :
    Id.run (placeAll (certain precedes) placed (item :: rest)) =
      Id.run (placeAll (certain precedes)
        (Id.run (place (certain precedes) item placed)) rest) := rfl

theorem placeAll_perm (precedes : α → α → Bool) (placed items : List α) :
    (Id.run (placeAll (certain precedes) placed items)).Perm (placed ++ items) := by
  induction items generalizing placed with
  | nil => simp [placeAll]
  | cons item rest ih =>
      rw [placeAll_cons]
      refine (ih _).trans (((place_perm precedes item placed).append_right rest).trans ?_)
      exact List.perm_middle.symm

theorem placeAll_inOrder (horders : OrdersOn P precedes) {placed items : List α}
    (hplaced : ∀ x ∈ placed, P x) (hitems : ∀ x ∈ items, P x)
    (hsorted : InOrder precedes placed) :
    InOrder precedes (Id.run (placeAll (certain precedes) placed items)) := by
  induction items generalizing placed with
  | nil => exact hsorted
  | cons item rest ih =>
      have hitem : P item := hitems item List.mem_cons_self
      rw [placeAll_cons]
      refine ih (fun x hx => ?_) (fun x hx => hitems x (List.mem_cons_of_mem _ hx))
        (place_inOrder horders hitem hplaced hsorted)
      rcases mem_place.mp hx with rfl | hx
      · exact hitem
      · exact hplaced x hx

theorem sorted_perm (precedes : α → α → Bool) (items : List α) :
    (sorted precedes items).Perm items :=
  (placeAll_perm precedes _ _).trans (leadingRun_perm precedes items)

theorem sorted_inOrder (horders : OrdersOn P precedes) {items : List α}
    (hitems : ∀ x ∈ items, P x) : InOrder precedes (sorted precedes items) := by
  have hmembers : ∀ x, x ∈ (Id.run (leadingRun (certain precedes) items)).1
      ++ (Id.run (leadingRun (certain precedes) items)).2 → P x :=
    fun x hx => hitems x ((leadingRun_perm precedes items).mem_iff.mp hx)
  exact placeAll_inOrder horders
    (fun x hx => hmembers x (List.mem_append_left _ hx))
    (fun x hx => hmembers x (List.mem_append_right _ hx))
    (leadingRun_inOrder horders hitems)

end SutraArbiter.Arrangement
