import SutraArbiter.Datum.Access
import SutraArbiter.Proofs.Steps

namespace SutraArbiter

/-! Arranging with a comparison that may fail: what comes out is what went in, and
what fails is the comparison of two of the items. -/

namespace Arrangement

variable {ε α : Type} {precedes? : α → α → Except ε Bool} {failure : ε}

theorem continueRun_eq_ok {descends : Bool} {last : α} {items run others : List α}
    (h : continueRun precedes? descends last items = .ok (run, others)) :
    run ++ others = items := by
  induction items generalizing last run others with
  | nil =>
      cases h
      rfl
  | cons item rest ih =>
      rw [continueRun] at h
      obtain ⟨held, -, h⟩ := bind_eq_ok.mp h
      split at h
      · obtain ⟨⟨tail, left⟩, htail, h⟩ := bind_eq_ok.mp h
        cases h
        exact congrArg _ (ih htail)
      · cases h
        rfl

theorem continueRun_eq_error {descends : Bool} {last : α} {items : List α}
    (h : continueRun precedes? descends last items = .error failure) :
    ∃ x ∈ last :: items, ∃ y ∈ last :: items, precedes? x y = .error failure := by
  induction items generalizing last with
  | nil => cases h
  | cons item rest ih =>
      rw [continueRun] at h
      rcases bind_eq_error.mp h with h | ⟨held, -, h⟩
      · exact ⟨item, by simp, last, by simp, h⟩
      · split at h
        · rcases bind_eq_error.mp h with h | ⟨_, -, h⟩
          · obtain ⟨x, hx, y, hy, hfails⟩ := ih h
            exact ⟨x, List.mem_cons_of_mem _ hx, y, List.mem_cons_of_mem _ hy, hfails⟩
          · cases h
        · cases h

theorem leadingRun_eq_ok {items run others : List α}
    (h : leadingRun precedes? items = .ok (run, others)) : (run ++ others).Perm items := by
  match items with
  | [] | [_] =>
      cases h
      simp
  | first :: second :: rest =>
      obtain ⟨descends, -, h⟩ := bind_eq_ok.mp h
      obtain ⟨⟨tail, left⟩, htail, h⟩ := bind_eq_ok.mp h
      cases h
      rw [← continueRun_eq_ok htail]
      split
      · exact (List.reverse_perm _).append_right _
      · exact List.Perm.refl _

theorem leadingRun_eq_error {items : List α} (h : leadingRun precedes? items = .error failure) :
    ∃ x ∈ items, ∃ y ∈ items, precedes? x y = .error failure := by
  match items with
  | [] | [_] => cases h
  | first :: second :: rest =>
      rcases bind_eq_error.mp h with h | ⟨descends, -, h⟩
      · exact ⟨second, by simp, first, by simp, h⟩
      · rcases bind_eq_error.mp h with h | ⟨_, -, h⟩
        · obtain ⟨x, hx, y, hy, hfails⟩ := continueRun_eq_error h
          exact ⟨x, List.mem_cons_of_mem _ hx, y, List.mem_cons_of_mem _ hy, hfails⟩
        · cases h

theorem place_eq_ok {item : α} {placed result : List α}
    (h : place precedes? item placed = .ok result) : result.Perm (item :: placed) := by
  rw [place] at h
  split at h
  · obtain ⟨held, -, h⟩ := bind_eq_ok.mp h
    split at h
    · obtain ⟨lower, hlower, h⟩ := bind_eq_ok.mp h
      cases h
      refine ((place_eq_ok hlower).append_right _).trans ?_
      rw [List.cons_append, List.take_append_drop]
    · obtain ⟨upper, hupper, h⟩ := bind_eq_ok.mp h
      cases h
      refine ((place_eq_ok hupper).append_left _).trans ?_
      refine List.perm_middle.trans ?_
      rw [List.take_append_drop]
  · rename_i hempty
    cases h
    rw [List.eq_nil_of_length_eq_zero (Nat.eq_zero_of_not_pos hempty)]
termination_by placed.length
decreasing_by
  all_goals
    simp only [List.length_take, List.length_drop]
    omega

theorem place_eq_error {item : α} {placed : List α}
    (h : place precedes? item placed = .error failure) :
    ∃ y ∈ placed, precedes? item y = .error failure := by
  rw [place] at h
  split at h
  · rcases bind_eq_error.mp h with h | ⟨held, -, h⟩
    · exact ⟨_, List.getElem_mem _, h⟩
    · split at h
      · rcases bind_eq_error.mp h with h | ⟨_, -, h⟩
        · obtain ⟨y, hy, hfails⟩ := place_eq_error h
          exact ⟨y, List.mem_of_mem_take hy, hfails⟩
        · cases h
      · rcases bind_eq_error.mp h with h | ⟨_, -, h⟩
        · obtain ⟨y, hy, hfails⟩ := place_eq_error h
          exact ⟨y, List.mem_of_mem_drop hy, hfails⟩
        · cases h
  · cases h
termination_by placed.length
decreasing_by
  all_goals
    simp only [List.length_take, List.length_drop]
    omega

theorem placeAll_eq_ok {placed items result : List α}
    (h : placeAll precedes? placed items = .ok result) : result.Perm (placed ++ items) := by
  induction items generalizing placed with
  | nil =>
      cases h
      simp
  | cons item rest ih =>
      obtain ⟨next, hnext, h⟩ := bind_eq_ok.mp h
      refine (ih h).trans (((place_eq_ok hnext).append_right rest).trans ?_)
      exact List.perm_middle.symm

theorem placeAll_eq_error {placed items : List α}
    (h : placeAll precedes? placed items = .error failure) :
    ∃ x ∈ placed ++ items, ∃ y ∈ placed ++ items, precedes? x y = .error failure := by
  induction items generalizing placed with
  | nil => cases h
  | cons item rest ih =>
      rcases bind_eq_error.mp h with h | ⟨next, hnext, h⟩
      · obtain ⟨y, hy, hfails⟩ := place_eq_error h
        exact ⟨item, by simp, y, List.mem_append_left _ hy, hfails⟩
      · have hsame : (next ++ rest).Perm (placed ++ item :: rest) :=
          ((place_eq_ok hnext).append_right rest).trans List.perm_middle.symm
        obtain ⟨x, hx, y, hy, hfails⟩ := ih h
        exact ⟨x, hsame.mem_iff.mp hx, y, hsame.mem_iff.mp hy, hfails⟩

theorem arrange_eq_ok {items result : List α} (h : arrange precedes? items = .ok result) :
    result.Perm items := by
  obtain ⟨⟨run, others⟩, hrun, h⟩ := bind_eq_ok.mp h
  exact (placeAll_eq_ok h).trans (leadingRun_eq_ok hrun)

theorem arrange_eq_error {items : List α} (h : arrange precedes? items = .error failure) :
    ∃ x ∈ items, ∃ y ∈ items, precedes? x y = .error failure := by
  rcases bind_eq_error.mp h with h | ⟨⟨run, others⟩, hrun, h⟩
  · exact leadingRun_eq_error h
  · have hsame := leadingRun_eq_ok hrun
    obtain ⟨x, hx, y, hy, hfails⟩ := placeAll_eq_error h
    exact ⟨x, hsame.mem_iff.mp hx, y, hsame.mem_iff.mp hy, hfails⟩

/-! Two or more items that are put in order are all compared, one through another: whatever
relation each comparison shows, and symmetry and transitivity carry on, holds between any two
of them. -/

variable {R : α → α → Prop}

theorem continueRun_related (hcompared : ∀ x y held, precedes? x y = .ok held → R x y)
    (hsymm : ∀ {x y}, R x y → R y x) (htrans : ∀ {x y z}, R x y → R y z → R x z)
    {descends : Bool} {last : α} {items run others : List α}
    (h : continueRun precedes? descends last items = .ok (run, others)) :
    ∀ x ∈ run, R last x := by
  induction items generalizing last run others with
  | nil =>
      cases h
      exact fun _ hx => nomatch hx
  | cons item rest ih =>
      rw [continueRun] at h
      obtain ⟨held, hheld, h⟩ := bind_eq_ok.mp h
      split at h
      · obtain ⟨⟨tail, left⟩, htail, h⟩ := bind_eq_ok.mp h
        cases h
        have hstep : R last item := hsymm (hcompared _ _ _ hheld)
        exact List.forall_mem_cons.mpr ⟨hstep, fun x hx => htrans hstep (ih htail x hx)⟩
      · cases h
        exact fun _ hx => nomatch hx

/-- The run holds one item that is alone, or items that are related. -/
theorem leadingRun_related (hcompared : ∀ x y held, precedes? x y = .ok held → R x y)
    (hsymm : ∀ {x y}, R x y → R y x) (htrans : ∀ {x y z}, R x y → R y z → R x z)
    {items run others : List α} (h : leadingRun precedes? items = .ok (run, others)) :
    items.length ≤ 1 ∨ ∃ anchor ∈ run, ∀ x ∈ run, R anchor x := by
  match items with
  | [] => exact .inl (Nat.zero_le 1)
  | [_] => exact .inl (Nat.le_refl 1)
  | first :: second :: rest =>
      obtain ⟨descends, hheld, h⟩ := bind_eq_ok.mp h
      obtain ⟨⟨tail, left⟩, htail, h⟩ := bind_eq_ok.mp h
      cases h
      have hstep : R second first := hcompared _ _ _ hheld
      have hrun : ∀ x ∈ first :: second :: tail, R second x :=
        List.forall_mem_cons.mpr ⟨hstep, List.forall_mem_cons.mpr
          ⟨htrans hstep (hsymm hstep), continueRun_related hcompared hsymm htrans htail⟩⟩
      have hmembers : ∀ x, (x ∈ if descends then (first :: second :: tail).reverse
          else first :: second :: tail) ↔ x ∈ first :: second :: tail := by
        intro x
        split
        · exact List.mem_reverse
        · exact Iff.rfl
      exact .inr ⟨second, (hmembers second).mpr (by simp), fun x hx =>
        hrun x ((hmembers x).mp hx)⟩

theorem place_related (hcompared : ∀ x y held, precedes? x y = .ok held → R x y)
    {item : α} {placed result : List α} (h : place precedes? item placed = .ok result)
    (hsome : placed ≠ []) : ∃ y ∈ placed, R item y := by
  rw [place, dif_pos (List.length_pos_iff.mpr hsome)] at h
  obtain ⟨held, hheld, -⟩ := bind_eq_ok.mp h
  exact ⟨_, List.getElem_mem _, hcompared _ _ _ hheld⟩

theorem placeAll_related (hcompared : ∀ x y held, precedes? x y = .ok held → R x y)
    (hsymm : ∀ {x y}, R x y → R y x) (htrans : ∀ {x y z}, R x y → R y z → R x z)
    {placed items result : List α} (h : placeAll precedes? placed items = .ok result)
    {anchor : α} (hanchor : anchor ∈ placed) (hplaced : ∀ x ∈ placed, R anchor x) :
    ∀ x ∈ items, R anchor x := by
  induction items generalizing placed with
  | nil => exact fun _ hx => nomatch hx
  | cons item rest ih =>
      obtain ⟨next, hnext, h⟩ := bind_eq_ok.mp h
      obtain ⟨y, hy, hrelated⟩ := place_related hcompared hnext (List.ne_nil_of_mem hanchor)
      have hitem : R anchor item := htrans (hplaced y hy) (hsymm hrelated)
      have hmembers : ∀ x, x ∈ next ↔ x = item ∨ x ∈ placed := fun x => by
        rw [(place_eq_ok hnext).mem_iff, List.mem_cons]
      refine List.forall_mem_cons.mpr ⟨hitem, ih h ((hmembers anchor).mpr (.inr hanchor)) ?_⟩
      intro x hx
      rcases (hmembers x).mp hx with rfl | hx
      · exact hitem
      · exact hplaced x hx

theorem arrange_related (hcompared : ∀ x y held, precedes? x y = .ok held → R x y)
    (hsymm : ∀ {x y}, R x y → R y x) (htrans : ∀ {x y z}, R x y → R y z → R x z)
    {items result : List α} (h : arrange precedes? items = .ok result) :
    items.length ≤ 1 ∨ ∃ anchor, ∀ x ∈ items, R anchor x := by
  obtain ⟨⟨run, others⟩, hrun, h⟩ := bind_eq_ok.mp h
  refine (leadingRun_related hcompared hsymm htrans hrun).imp_right ?_
  rintro ⟨anchor, hanchor, hrelated⟩
  have hothers := placeAll_related hcompared hsymm htrans h hanchor hrelated
  refine ⟨anchor, fun x hx => ?_⟩
  rcases List.mem_append.mp ((leadingRun_eq_ok hrun).mem_iff.mpr hx) with hx | hx
  · exact hrelated x hx
  · exact hothers x hx

end Arrangement

namespace Datum

mutual

theorem precedes?_eq_error {x y : Datum} {fault : Fault} (h : x.precedes? y = .error fault) :
    ∃ left right, fault = .unordered left right := by
  unfold precedes? at h
  split at h
  · cases h
  · cases h
  · exact itemsPrecede?_eq_error h
  · split at h
    · cases h
    · cases h
      exact ⟨_, _, rfl⟩

theorem itemsPrecede?_eq_error {xs ys : List Datum} {fault : Fault}
    (h : itemsPrecede? xs ys = .error fault) : ∃ left right, fault = .unordered left right := by
  unfold itemsPrecede? at h
  split at h
  · cases h
  · cases h
  · split at h
    · exact itemsPrecede?_eq_error h
    · exact precedes?_eq_error h

end

theorem sorted?_eq_ok {keys told : List Datum} (h : sorted? keys = .ok told) :
    told.Perm keys :=
  Arrangement.arrange_eq_ok h

/-- Keys cannot be put in order only where two of them have no order. -/
theorem sorted?_eq_error {keys : List Datum} {fault : Fault} (h : sorted? keys = .error fault) :
    ∃ x ∈ keys, ∃ y ∈ keys, x.precedes? y = .error fault :=
  Arrangement.arrange_eq_error h

end Datum

end SutraArbiter
