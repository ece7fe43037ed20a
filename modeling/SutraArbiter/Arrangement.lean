namespace SutraArbiter.Arrangement

/-! Putting items in order.  `precedes? x y` tells whether `x` belongs before `y`.
It may fail, and it may leave items without an order, so which items are compared
counts: the run at the front is taken as a whole, and each item behind it goes to a
place found by halving.  Items without an order keep the order in which they are
given. -/

variable {m : Type → Type} [Monad m] {α : Type}

/-- Goes on with a run while each item stands to the one before it as `descends`
says, and splits off the rest. -/
def continueRun (precedes? : α → α → m Bool) (descends : Bool) (last : α) :
    List α → m (List α × List α)
  | [] => pure ([], [])
  | item :: rest => do
      if (← precedes? item last) = descends then
        let (run, others) ← continueRun precedes? descends item rest
        pure (item :: run, others)
      else pure ([], item :: rest)

/-- The run at the front, in order, and what follows it. -/
def leadingRun (precedes? : α → α → m Bool) : List α → m (List α × List α)
  | first :: second :: rest => do
      let descends ← precedes? second first
      let (run, others) ← continueRun precedes? descends second rest
      let whole := first :: second :: run
      pure (if descends then whole.reverse else whole, others)
  | items => pure (items, [])

/-- Puts an item among items in order, behind those that it does not precede. -/
def place (precedes? : α → α → m Bool) (item : α) (placed : List α) : m (List α) :=
  if h : 0 < placed.length then do
    if ← precedes? item placed[placed.length / 2] then
      let lower ← place precedes? item (placed.take (placed.length / 2))
      pure (lower ++ placed.drop (placed.length / 2))
    else
      let upper ← place precedes? item (placed.drop (placed.length / 2 + 1))
      pure (placed.take (placed.length / 2 + 1) ++ upper)
  else pure [item]
termination_by placed.length
decreasing_by
  · simp only [List.length_take]
    omega
  · simp only [List.length_drop]
    omega

def placeAll (precedes? : α → α → m Bool) (placed : List α) : List α → m (List α)
  | [] => pure placed
  | item :: rest => do
      let next ← place precedes? item placed
      placeAll precedes? next rest

def arrange (precedes? : α → α → m Bool) (items : List α) : m (List α) := do
  let (run, others) ← leadingRun precedes? items
  placeAll precedes? run others

end SutraArbiter.Arrangement
