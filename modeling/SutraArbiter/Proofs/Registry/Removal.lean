import SutraArbiter.Proofs.Registry.Candidates

namespace SutraArbiter

namespace Registry

variable {registry next : Registry} {submissions before after : List Submission}
  {rules : List Rule} {rule : Rule}

def numbered (start : Nat) : List Rule → List Entry
  | [] => []
  | rule :: rest => ⟨rule, start⟩ :: numbered (start + 1) rest

theorem numbered_append (start : Nat) (first second : List Rule) :
    numbered start (first ++ second) =
      numbered start first ++ numbered (start + first.length) second := by
  induction first generalizing start with
  | nil => rfl
  | cons rule rest ih =>
      rw [List.cons_append, numbered, ih, numbered, List.cons_append, List.length_cons]
      congr 3
      omega

theorem index_of_mem_numbered {start : Nat} {entry : Entry}
    (h : entry ∈ numbered start rules) :
    start ≤ entry.index ∧ entry.index < start + rules.length := by
  induction rules generalizing start with
  | nil => cases h
  | cons rule rest ih =>
      rw [List.length_cons]
      rcases List.mem_cons.mp h with rfl | h
      · exact ⟨Nat.le_refl _, by dsimp only; omega⟩
      · have := ih h
        omega

theorem map_toRule_numbered (start : Nat) (rules : List Rule) :
    (numbered start rules).map Entry.toRule = rules := by
  induction rules generalizing start with
  | nil => rfl
  | cons rule rest ih => rw [numbered, List.map_cons, ih]

theorem toRule_mem_of_mem_numbered {start : Nat} {entry : Entry}
    (h : entry ∈ numbered start rules) : entry.toRule ∈ rules := by
  rw [← map_toRule_numbered start rules]
  exact List.mem_map_of_mem h

theorem entries_enter (registry : Registry) (rule : Rule) :
    (registry.enter rule).1.entries = registry.entries ++ [⟨rule, registry.entries.length⟩] :=
  rfl

theorem entries_ofSubmissions (h : registry.ofSubmissions submissions = .ok next) :
    ∃ rules, submissions.mapM Submission.toRule = .ok rules
      ∧ next.entries = registry.entries ++ numbered registry.entries.length rules := by
  induction submissions generalizing registry with
  | nil =>
      cases h
      exact ⟨[], rfl, (List.append_nil _).symm⟩
  | cons submission rest ih =>
      rw [ofSubmissions_cons] at h
      obtain ⟨⟨entered, entry⟩, hregister, h⟩ := bind_eq_ok.mp h
      obtain ⟨-, rule, hrule, -, henter⟩ := register_eq_ok.mp hregister
      obtain ⟨rules, hrules, hentries⟩ := ih h
      obtain rfl : (registry.enter rule).1 = entered := by rw [henter]
      refine ⟨rule :: rules, ?_, ?_⟩
      · rw [List.mapM_cons, hrule, hrules]
        rfl
      · rw [hentries, entries_enter, List.append_assoc, List.length_append]
        rfl

/-- Registration succeeds when every submission is a rule and no two ids agree. -/
theorem exists_ofSubmissions (hopen : registry.frozen = false)
    (hrules : submissions.mapM Submission.toRule = .ok rules)
    (hids : (registry.entries ++ numbered registry.entries.length rules).Pairwise
      fun x y => x.id ≠ y.id) :
    ∃ next, registry.ofSubmissions submissions = .ok next := by
  induction submissions generalizing registry rules with
  | nil => exact ⟨registry, rfl⟩
  | cons submission rest ih =>
      rw [List.mapM_cons] at hrules
      obtain ⟨rule, hrule, hrules⟩ := bind_eq_ok.mp hrules
      obtain ⟨others, hothers, hrules⟩ := bind_eq_ok.mp hrules
      cases hrules
      have hfresh : registry.find? rule.id = none := by
        rw [find?_eq_none]
        intro entry hentry
        exact (List.pairwise_append.mp hids).2.2 entry hentry _ List.mem_cons_self
      have hregister : registry.register submission = .ok (registry.enter rule) :=
        register_eq_ok.mpr ⟨hopen, rule, hrule, hfresh, rfl⟩
      rw [ofSubmissions_cons, hregister]
      refine ih hopen hothers ?_
      rw [entries_enter, List.append_assoc, List.length_append]
      exact hids

end Registry

def Entry.movedUp (place : Nat) (entry : Entry) : Entry :=
  { entry with index := if entry.index ≤ place then entry.index else entry.index - 1 }

theorem Entry.Before.movedUp {place : Nat} {x y : Entry} (h : x.Before y)
    (hx : x.index ≠ place) (hy : y.index ≠ place) :
    (x.movedUp place).Before (y.movedUp place) := by
  unfold Entry.Before Entry.movedUp at *
  dsimp only
  split <;> split <;> omega

namespace Registry

variable {registry remaining : Registry} {before after : List Submission} {rule : Rule}
  {id : String} {place : Nat}

/-- What is left of a registry without the rule of an id, which stood at a place. -/
structure Leaves (registry remaining : Registry) (id : String) (place : Nat) : Prop where
  sound : registry.Sound
  remains : remaining.Sound
  entries : remaining.entries =
    (registry.entries.filter fun entry => entry.id ≠ id).map (Entry.movedUp place)
  places : ∀ entry ∈ registry.entries, entry.id ≠ id → entry.index ≠ place

theorem numbered_without {first second : List Rule}
    (hids : (numbered 0 (first ++ rule :: second)).Pairwise fun x y => x.id ≠ y.id) :
    numbered 0 (first ++ second) =
      ((numbered 0 (first ++ rule :: second)).filter fun entry => entry.id ≠ rule.id).map
        (Entry.movedUp first.length) := by
  have hbefore : ∀ entry ∈ numbered 0 first, entry.movedUp first.length = entry := by
    intro entry hentry
    have := index_of_mem_numbered hentry
    unfold Entry.movedUp
    rw [if_pos (by omega)]
  have hbehind : ∀ start, first.length ≤ start → ∀ rules,
      (numbered (start + 1) rules).map (Entry.movedUp first.length) = numbered start rules := by
    intro start hstart rules
    induction rules generalizing start with
    | nil => rfl
    | cons rule rest ih =>
        rw [numbered, numbered, List.map_cons, ih (start + 1) (by omega)]
        unfold Entry.movedUp
        rw [if_neg (by dsimp only; omega)]
        rfl
  rw [numbered_append 0 first (rule :: second), numbered] at hids ⊢
  obtain ⟨-, hsecond, hfirst⟩ := List.pairwise_append.mp hids
  have hkeep : (numbered 0 first).filter (fun entry => entry.id ≠ rule.id) =
      numbered 0 first := by
    apply List.filter_eq_self.mpr
    intro entry hentry
    simpa using hfirst entry hentry _ List.mem_cons_self
  have hrest : (numbered (0 + first.length + 1) second).filter
      (fun entry => entry.id ≠ rule.id) = numbered (0 + first.length + 1) second := by
    apply List.filter_eq_self.mpr
    intro entry hentry
    simpa using ((List.pairwise_cons.mp hsecond).1 entry hentry).symm
  rw [List.filter_append, hkeep, List.filter_cons_of_neg (by simp), hrest, List.map_append,
    hbehind _ (by omega), numbered_append]
  congr 1
  exact (List.map_id' _ ▸ List.map_congr_left hbefore).symm

/-- Without one of its submissions a registry is built as before, and its entries
leave just that rule out. -/
theorem exists_leaves {other : Submission}
    (h : empty.ofSubmissions (before ++ other :: after) = .ok registry)
    (hother : other.toRule = .ok rule) :
    ∃ remaining, empty.ofSubmissions (before ++ after) = .ok remaining
      ∧ registry.Leaves remaining rule.id before.length := by
  have hsound := sound_empty.ofSubmissions h
  obtain ⟨all, hall, hentries⟩ := entries_ofSubmissions h
  rw [List.mapM_append] at hall
  obtain ⟨first, hfirst, hall⟩ := bind_eq_ok.mp hall
  obtain ⟨others, hothers, hall⟩ := bind_eq_ok.mp hall
  cases hall
  rw [List.mapM_cons, hother, ok_bind] at hothers
  obtain ⟨second, hsecond, hothers⟩ := bind_eq_ok.mp hothers
  cases hothers
  have hlength : first.length = before.length := length_of_mapM hfirst
  replace hentries : registry.entries = numbered 0 (first ++ rule :: second) := hentries
  have hids := hsound.ids
  rw [hentries] at hids
  have hremoved := numbered_without hids
  rw [← hentries, hlength] at hremoved
  have hrules : (before ++ after).mapM Submission.toRule = .ok (first ++ second) := by
    rw [List.mapM_append, hfirst, hsecond]
    rfl
  have hdistinct : (numbered 0 (first ++ second)).Pairwise fun x y => x.id ≠ y.id := by
    rw [hremoved, List.pairwise_map]
    exact hsound.ids.filter _
  have hopen : empty.frozen = false := rfl
  obtain ⟨remaining, hremaining⟩ := exists_ofSubmissions hopen hrules hdistinct
  obtain ⟨left, hleft, hkept⟩ := entries_ofSubmissions hremaining
  obtain rfl : first ++ second = left := by
    rw [hrules] at hleft
    exact Except.ok.inj hleft
  refine ⟨remaining, hremaining, hsound, sound_empty.ofSubmissions hremaining, ?_, ?_⟩
  · exact hkept.trans hremoved
  · intro entry hentry hid
    rw [hentries, numbered_append, numbered] at hentry
    rcases List.mem_append.mp hentry with hentry | hentry
    · have := index_of_mem_numbered hentry
      omega
    · rcases List.mem_cons.mp hentry with rfl | hentry
      · exact absurd rfl hid
      · have := index_of_mem_numbered hentry
        omega

theorem Leaves.freeze (h : registry.Leaves remaining id place) :
    registry.freeze.Leaves remaining.freeze id place :=
  ⟨h.sound.freeze, h.remains.freeze, h.entries, h.places⟩

theorem Leaves.sharing_eq (h : registry.Leaves remaining id place) (tags : List String) :
    remaining.sharing tags =
      ((registry.sharing tags).filter fun entry => entry.id ≠ id).map
        (Entry.movedUp place) := by
  unfold sharing
  rw [h.entries, List.filter_map, List.filter_filter, List.filter_filter]
  congr 2
  funext entry
  exact Bool.and_comm _ _

theorem Leaves.candidates_eq (h : registry.Leaves remaining id place) (tags : List String) :
    remaining.candidates tags =
      ((registry.candidates tags).filter fun entry => entry.id ≠ id).map
        (Entry.movedUp place) := by
  refine (h.remains.eq_candidates ?_ ?_).symm
  · rw [h.sharing_eq]
    exact ((h.sound.candidates_perm tags).filter _).map _
  · refine List.pairwise_map.mpr ?_
    apply ((h.sound.candidates_before tags).filter _).imp_of_mem
    intro x y hx hy hbefore
    have hplace : ∀ entry ∈ (registry.candidates tags).filter (fun entry => entry.id ≠ id),
        entry.index ≠ place := by
      intro entry hentry
      obtain ⟨hentry, hid⟩ := List.mem_filter.mp hentry
      exact h.places entry (mem_sharing.mp (h.sound.mem_candidates.mp hentry)).1
        (by simpa using hid)
    exact hbefore.movedUp (hplace x hx) (hplace y hy)

end Registry

end SutraArbiter
