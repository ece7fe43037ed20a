import SutraArbiter.Logged
import Mathlib.Data.List.Perm.Basic

namespace SutraArbiter

variable {ε ε' α β : Type}

@[simp] theorem ok_bind (value : α) (next : α → Except ε β) :
    (Except.ok value >>= next) = next value := rfl

@[simp] theorem error_bind (failure : ε) (next : α → Except ε β) :
    (Except.error failure >>= next) = .error failure := rfl

theorem bind_eq_ok {first : Except ε α} {next : α → Except ε β} {result : β} :
    (first >>= next) = .ok result ↔
      ∃ value, first = .ok value ∧ next value = .ok result := by
  cases first <;> simp

theorem bind_eq_error {first : Except ε α} {next : α → Except ε β} {failure : ε} :
    (first >>= next) = .error failure ↔
      first = .error failure ∨ ∃ value, first = .ok value ∧ next value = .error failure := by
  cases first <;> simp

theorem exists_bind_eq_ok {first : Except ε α} {next : α → Except ε β} :
    (∃ result, (first >>= next) = .ok result) ↔
      ∃ value, first = .ok value ∧ ∃ result, next value = .ok result := by
  cases first <;> simp

/-- Two steps succeed when each does, unless what the first gives decides on the second. -/
theorem exists_bind_iff {first : Except ε α} {next : α → Except ε β} {One Other : Prop}
    (hfirst : (∃ value, first = .ok value) ↔ One)
    (hnext : ∀ value, first = .ok value → ((∃ result, next value = .ok result) ↔ Other)) :
    (∃ result, (first >>= next) = .ok result) ↔ One ∧ Other := by
  rw [← hfirst]
  cases first with
  | error failure => simp
  | ok value => simpa using hnext value rfl

theorem exists_bind_pure_iff {first : Except ε α} {finish : α → β} :
    (∃ result, (first >>= fun value => pure (finish value)) = .ok result) ↔
      ∃ value, first = .ok value := by
  cases first <;> simp [pure, Except.pure]

theorem bind_congr_of_ok {first : Except ε α} {next other : α → Except ε β}
    (h : ∀ value, first = .ok value → next value = other value) :
    (first >>= next) = (first >>= other) := by
  cases first with
  | error failure => rfl
  | ok value => exact h value rfl

@[simp] theorem mapError_ok (tell : ε → ε') (value : α) :
    (Except.ok value).mapError tell = .ok value := rfl

@[simp] theorem mapError_error (tell : ε → ε') (failure : ε) :
    (Except.error failure : Except ε α).mapError tell = .error (tell failure) := rfl

theorem mapError_eq_ok {first : Except ε α} {tell : ε → ε'} {value : α} :
    first.mapError tell = .ok value ↔ first = .ok value := by
  cases first <;> simp

theorem mapError_eq_error {first : Except ε α} {tell : ε → ε'} {failure : ε'} :
    first.mapError tell = .error failure ↔ ∃ cause, first = .error cause ∧ tell cause = failure := by
  cases first <;> simp

theorem mapM_eq_ok_iff {step : α → Except ε β} {items : List α} {results : List β} :
    items.mapM step = .ok results ↔
      List.Forall₂ (fun item result => step item = .ok result) items results := by
  induction items generalizing results with
  | nil =>
      constructor
      · intro h
        cases h
        exact .nil
      · rintro ⟨⟩
        rfl
  | cons item rest ih =>
      rw [List.mapM_cons, List.forall₂_cons_left_iff, bind_eq_ok]
      constructor
      · rintro ⟨result, hresult, h⟩
        obtain ⟨others, hothers, h⟩ := bind_eq_ok.mp h
        cases h
        exact ⟨result, others, hresult, ih.mp hothers, rfl⟩
      · rintro ⟨result, others, hresult, hothers, rfl⟩
        refine ⟨result, hresult, ?_⟩
        rw [ih.mpr hothers]
        rfl

theorem mapM_eq_ok {step : α → Except ε β} {result : α → β} {items : List α}
    (h : ∀ x ∈ items, step x = .ok (result x)) :
    items.mapM step = .ok (items.map result) := by
  rw [mapM_eq_ok_iff, List.forall₂_map_right_iff, List.forall₂_same]
  exact h

theorem length_of_mapM {step : α → Except ε β} {items : List α} {results : List β}
    (h : items.mapM step = .ok results) : results.length = items.length :=
  (mapM_eq_ok_iff.mp h).length_eq.symm

theorem exists_of_forall₂ {R : α → β → Prop} {items : List α} {others : List β}
    (h : List.Forall₂ R items others) : ∀ x ∈ items, ∃ y ∈ others, R x y := by
  induction h with
  | nil => simp
  | @cons x y items others hxy _ ih =>
      refine List.forall_mem_cons.mpr ⟨⟨y, List.mem_cons_self, hxy⟩, fun z hz => ?_⟩
      obtain ⟨w, hw, hzw⟩ := ih z hz
      exact ⟨w, List.mem_cons_of_mem _ hw, hzw⟩

theorem exists_mapM_iff {step : α → Except ε β} {items : List α} :
    (∃ results, items.mapM step = .ok results) ↔ ∀ x ∈ items, ∃ result, step x = .ok result := by
  constructor
  · rintro ⟨results, hresults⟩ x hx
    obtain ⟨result, -, hresult⟩ := exists_of_forall₂ (mapM_eq_ok_iff.mp hresults) x hx
    exact ⟨result, hresult⟩
  · intro h
    induction items with
    | nil => exact ⟨[], rfl⟩
    | cons first rest ih =>
        obtain ⟨⟨result, hresult⟩, hrest⟩ := List.forall_mem_cons.mp h
        obtain ⟨results, hresults⟩ := ih hrest
        refine ⟨result :: results, ?_⟩
        rw [List.mapM_cons, hresult, hresults]
        rfl

/-- What is sought in a list, past items that may be passed, is its first item or is
sought behind it. -/
theorem exists_split_cons_iff {Passed Sought : α → Prop} {first : α} {rest : List α} :
    (∃ before item after, first :: rest = before ++ item :: after
        ∧ (∀ x ∈ before, Passed x) ∧ Sought item) ↔
      Sought first ∨ Passed first ∧ ∃ before item after, rest = before ++ item :: after
        ∧ (∀ x ∈ before, Passed x) ∧ Sought item := by
  constructor
  · rintro ⟨before, item, after, hsplit, hbefore, hitem⟩
    cases before with
    | nil =>
        obtain ⟨rfl, rfl⟩ := List.cons.inj hsplit
        exact .inl hitem
    | cons other before =>
        obtain ⟨rfl, rfl⟩ := List.cons.inj hsplit
        obtain ⟨hfirst, hbefore⟩ := List.forall_mem_cons.mp hbefore
        exact .inr ⟨hfirst, before, item, after, rfl, hbefore, hitem⟩
  · rintro (hfirst | ⟨hfirst, before, item, after, rfl, hbefore, hitem⟩)
    · exact ⟨[], first, rest, rfl, List.forall_mem_nil _, hfirst⟩
    · exact ⟨first :: before, item, after, rfl, List.forall_mem_cons.mpr ⟨hfirst, hbefore⟩, hitem⟩

/-- Items are gone through up to the first that fails. -/
theorem mapM_eq_error_iff {step : α → Except ε β} {items : List α} {failure : ε} :
    items.mapM step = .error failure ↔
      ∃ before item after, items = before ++ item :: after
        ∧ (∀ x ∈ before, ∃ result, step x = .ok result) ∧ step item = .error failure := by
  induction items with
  | nil => simp [pure, Except.pure]
  | cons first rest ih =>
      rw [exists_split_cons_iff, ← ih, List.mapM_cons, bind_eq_error]
      refine or_congr_right ⟨?_, ?_⟩
      · rintro ⟨result, hresult, h⟩
        rcases bind_eq_error.mp h with h | ⟨_, -, ⟨⟩⟩
        exact ⟨⟨result, hresult⟩, h⟩
      · rintro ⟨⟨result, hresult⟩, h⟩
        exact ⟨result, hresult, bind_eq_error.mpr (.inl h)⟩

theorem mem_mapM {step : α → Except ε β} {items : List α} {results : List β}
    (h : items.mapM step = .ok results) {result : β} (hresult : result ∈ results) :
    ∃ item ∈ items, step item = .ok result :=
  exists_of_forall₂ (mapM_eq_ok_iff.mp h).flip result hresult

/-- Items that are related have results that are related. -/
theorem mapM_of_related {step : α → Except ε β} {R : α → α → Prop}
    {S : β → β → Prop} {items others : List α} {results : List β}
    (h : List.Forall₂ R items others) (hresults : items.mapM step = .ok results)
    (hstep : ∀ {x y result}, R x y → step x = .ok result →
      ∃ other, step y = .ok other ∧ S result other) :
    ∃ otherResults, others.mapM step = .ok otherResults ∧ List.Forall₂ S results otherResults := by
  rw [mapM_eq_ok_iff] at hresults
  simp only [mapM_eq_ok_iff]
  induction h generalizing results with
  | nil =>
      cases hresults
      exact ⟨[], .nil, .nil⟩
  | cons hxy _ ih =>
      cases hresults with
      | cons hresult hresults =>
          obtain ⟨other, hother, hsame⟩ := hstep hxy hresult
          obtain ⟨otherResults, hothers, hall⟩ := ih hresults
          exact ⟨other :: otherResults, .cons hother hothers, .cons hsame hall⟩

theorem mapM_perm {step : α → Except ε β} {items others : List α} (h : items.Perm others)
    {results : List β} (hresults : items.mapM step = .ok results) :
    ∃ reordered, others.mapM step = .ok reordered ∧ results.Perm reordered := by
  obtain ⟨reordered, hreordered, hperm⟩ :=
    List.perm_comp_forall₂ h.symm (mapM_eq_ok_iff.mp hresults)
  exact ⟨reordered, mapM_eq_ok_iff.mpr hreordered, hperm.symm⟩

/-- Whether the answer is there and says yes. -/
def granted (answer : Except ε Bool) : Bool :=
  match answer with
  | .ok held => held
  | .error _ => false

@[simp] theorem granted_ok (held : Bool) : granted (.ok held : Except ε Bool) = held := rfl

theorem eq_granted {answer : Except ε Bool} (h : ∃ held, answer = .ok held) :
    answer = .ok (granted answer) := by
  obtain ⟨held, rfl⟩ := h
  rfl

namespace Logged

@[simp] theorem result_ofFault (result : Except Fault α) :
    (ofFault result).result = result.mapError .fault := rfl

end Logged

end SutraArbiter
