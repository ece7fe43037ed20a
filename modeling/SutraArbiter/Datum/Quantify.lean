import SutraArbiter.Datum.Fault

namespace SutraArbiter

/-! Questions to the items of a list, one after the other, until the answer is
known.  A fault ends the questioning. -/

def allOf? {α : Type} (p : α → Except Fault Bool) : List α → Except Fault Bool
  | [] => .ok true
  | x :: rest => do
      let held ← p x
      if held then allOf? p rest else pure false

def anyOf? {α : Type} (p : α → Except Fault Bool) : List α → Except Fault Bool
  | [] => .ok false
  | x :: rest => do
      let held ← p x
      if held then pure true else anyOf? p rest

def select? {α : Type} (p : α → Except Fault Bool) : List α → Except Fault (List α)
  | [] => .ok []
  | x :: rest => do
      let held ← p x
      let kept ← select? p rest
      pure (if held then x :: kept else kept)

theorem allOf?_singleton {α : Type} (p : α → Except Fault Bool) (x : α) :
    allOf? p [x] = p x := by
  rcases hx : p x with fault | held
  · simp [allOf?, hx, bind, Except.bind]
  · cases held <;> simp [allOf?, hx, bind, Except.bind, pure, Except.pure]

theorem allOf?_eq_ok {α : Type} {p : α → Except Fault Bool} {q : α → Bool}
    {items : List α} (h : ∀ x ∈ items, p x = .ok (q x)) :
    allOf? p items = .ok (items.all q) := by
  induction items with
  | nil => rfl
  | cons x rest ih =>
      have hrest := ih fun y hy => h y (List.mem_cons_of_mem x hy)
      cases hq : q x <;>
        simp [allOf?, h x List.mem_cons_self, hq, hrest, bind, Except.bind, pure,
          Except.pure]

theorem anyOf?_eq_ok {α : Type} {p : α → Except Fault Bool} {q : α → Bool}
    {items : List α} (h : ∀ x ∈ items, p x = .ok (q x)) :
    anyOf? p items = .ok (items.any q) := by
  induction items with
  | nil => rfl
  | cons x rest ih =>
      have hrest := ih fun y hy => h y (List.mem_cons_of_mem x hy)
      cases hq : q x <;>
        simp [anyOf?, h x List.mem_cons_self, hq, hrest, bind, Except.bind, pure,
          Except.pure]

theorem select?_eq_ok {α : Type} {p : α → Except Fault Bool} {q : α → Bool}
    {items : List α} (h : ∀ x ∈ items, p x = .ok (q x)) :
    select? p items = .ok (items.filter q) := by
  induction items with
  | nil => rfl
  | cons x rest ih =>
      have hrest := ih fun y hy => h y (List.mem_cons_of_mem x hy)
      cases hq : q x <;>
        simp [select?, h x List.mem_cons_self, hq, hrest, bind, Except.bind, pure,
          Except.pure]

end SutraArbiter
