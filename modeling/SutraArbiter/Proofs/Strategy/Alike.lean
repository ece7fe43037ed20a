import SutraArbiter.Proofs.Strategy
import SutraArbiter.Proofs.Word.Alike

namespace SutraArbiter

namespace Finding

def outline : Finding → Finding
  | selected _ confidence => selected ⟨[], []⟩ confidence
  | passed reason nearMiss => passed reason nearMiss

end Finding

theorem Placed.eq_of_position {words : List Word} {word other : Word} (h : Placed words)
    (hword : word ∈ words) (hother : other ∈ words) (hplace : word.position = other.position) :
    word = other := by
  unfold Word.position at hplace
  exact h.eq_of_index hword hother (by omega)

theorem Placed.position_mem_filter {words group : List Word} {p : Word → Bool} {word : Word}
    (h : Placed words) (hgroup : ∀ member ∈ group, member ∈ words) (hword : word ∈ group) :
    word.position ∈ positions (group.filter p) ↔ p word = true := by
  constructor
  · intro hposition
    obtain ⟨other, hother, hsame⟩ := List.mem_map.mp hposition
    obtain ⟨hmember, hheld⟩ := List.mem_filter.mp hother
    rwa [← h.eq_of_position (hgroup _ hmember) (hgroup _ hword) hsame]
  · intro hheld
    exact List.mem_map_of_mem (List.mem_filter.mpr ⟨hword, hheld⟩)

namespace Strategy

variable {params : Entries} {words others : List Word} {context : Context}

theorem enough_eq (h : Alike words others) : enough params words = enough params others := by
  unfold enough hasMinimum?
  rw [h.length_eq]

theorem allAlike_eq_true {texts : List String} :
    allAlike texts = true ↔ ∀ s ∈ texts, ∀ t ∈ texts, s = t := by
  cases texts with
  | nil => simp [allAlike]
  | cons first rest =>
      simp only [allAlike, List.all_eq_true, decide_eq_true_eq]
      constructor
      · intro h s hs t ht
        have hsame : ∀ u ∈ first :: rest, u = first := by
          intro u hu
          rcases List.mem_cons.mp hu with rfl | hu
          · rfl
          · exact h u hu
        exact (hsame s hs).trans (hsame t ht).symm
      · intro h s hs
        exact h s (List.mem_cons_of_mem _ hs) first List.mem_cons_self

theorem casesAgree_eq (h : Alike words others) : casesAgree words = casesAgree others := by
  have hperm := (h.map_perm Word.caseName fun _ => rfl).filter (· ≠ "")
  unfold casesAgree
  rw [Bool.eq_iff_iff, allAlike_eq_true, allAlike_eq_true]
  simp only [hperm.mem_iff]

theorem sharesForm_eq_true :
    sharesForm words = true ↔
      ∃ form ∈ words.map Word.form, form ≠ "" ∧ ∀ s ∈ words.map Word.form, s = form := by
  unfold sharesForm
  split
  · rename_i hnone
    simp [hnone]
  · rename_i form rest hforms
    rw [hforms]
    simp only [Bool.and_eq_true, decide_eq_true_eq, List.all_eq_true]
    constructor
    · rintro ⟨hform, hrest⟩
      exact ⟨form, List.mem_cons_self, hform, List.forall_mem_cons.mpr ⟨rfl, hrest⟩⟩
    · rintro ⟨other, -, hother, hsame⟩
      obtain ⟨rfl, hrest⟩ := List.forall_mem_cons.mp hsame
      exact ⟨hother, hrest⟩

theorem sharesForm_eq (h : Alike words others) : sharesForm words = sharesForm others := by
  have hperm := h.map_perm Word.form fun _ => rfl
  rw [Bool.eq_iff_iff, sharesForm_eq_true, sharesForm_eq_true]
  simp only [hperm.mem_iff]

theorem outline_identicalForms (h : Alike words others) :
    (identicalFormsFinding params words context).outline =
      (identicalFormsFinding params others context).outline := by
  unfold identicalFormsFinding
  rw [enough_eq h, casesAgree_eq h, sharesForm_eq h]
  split
  · split
    · rfl
    · split <;> rfl
  · rfl

theorem isEmpty_pairSides (words : List Word) (pair : Datum) :
    (pairSides words pair).1.isEmpty =
      ((words.filter (isOnSide pair "retain")).isEmpty
        || (words.filter (isOnSide pair "drop")).isEmpty) := by
  unfold pairSides
  cases hkeeper : (words.filter (isOnSide pair "retain")).getLast? with
  | none => simp [List.getLast?_eq_none_iff.mp hkeeper]
  | some keeper =>
      have hnonempty : (words.filter (isOnSide pair "retain")).isEmpty = false := by
        rw [List.isEmpty_eq_false_iff]
        exact List.ne_nil_of_mem (List.mem_of_getLast? hkeeper)
      rw [hnonempty, Bool.false_or]
      dsimp only
      split <;> simp_all

theorem isEmpty_flatMap {α β : Type} (items : List α) (view : α → List β) :
    (items.flatMap view).isEmpty = items.all fun item => (view item).isEmpty := by
  rw [Bool.eq_iff_iff]
  simp [List.flatMap_eq_nil_iff]

theorem outline_flag (h : Alike words others) :
    (flagFinding params words).outline = (flagFinding params others).outline := by
  unfold flagFinding
  split
  · rename_i name _
    rw [h.all_eq (fun word => word.forms.isEmpty) fun _ => rfl]
    split
    · rcases h.getLast?_filter (fun word => word.has name) fun _ => rfl with
        ⟨hwords, hothers⟩ | ⟨keeper, other, hwords, hothers⟩
      · rw [hwords, hothers]
      · rw [hwords, hothers]
        cases (params.getD "flag_confidence" (.float .one)).toDouble? <;> rfl
    · rfl
  · rfl

theorem outline_lexical (h : Alike words others) :
    (lexicalFinding params words).outline = (lexicalFinding params others).outline := by
  unfold lexicalFinding
  rw [enough_eq h]
  split
  · dsimp only
    have hempty : ∀ pair, (pairSides words pair).1.isEmpty = (pairSides others pair).1.isEmpty := by
      intro pair
      rw [isEmpty_pairSides, isEmpty_pairSides,
        h.isEmpty_filter (isOnSide pair "retain") fun _ => rfl,
        h.isEmpty_filter (isOnSide pair "drop") fun _ => rfl]
    rw [isEmpty_flatMap, isEmpty_flatMap, funext hempty]
    split
    · exact outline_flag h
    · rfl
  · rfl

theorem outline_series (h : Alike words others) :
    (seriesFinding params words).outline = (seriesFinding params others).outline := by
  unfold seriesFinding
  rw [enough_eq h]
  split
  · dsimp only
    rw [h.isEmpty_filter (isSeriesMember params) fun _ => rfl]
    split <;> rfl
  · rfl

theorem outline_selection (h : Alike words others) :
    (selectionFinding params words).outline = (selectionFinding params others).outline := by
  unfold selectionFinding
  rw [enough_eq h]
  split
  · rcases h.getLast?_filter (Word.meets (criteria params "retain")) fun _ => rfl with
      ⟨hwords, hothers⟩ | ⟨keeper, other, hwords, hothers⟩ <;> rw [hwords, hothers]
    rfl
  · rfl

/-- Whether a word is met by a counterpart to keep it against. -/
def isPaired (retain against : Entries) (words : List Word) (word : Word) : Bool :=
  word.meets retain && words.any fun other =>
    other.groupKey = word.groupKey && !other.meets retain && other.meets against

theorem mem_counterparts {retain : Entries} {group : List Word} {word : Word}
    (hplaced : Placed words) (hgroup : ∀ member ∈ group, member ∈ words) :
    word ∈ counterparts retain group ↔ word ∈ group ∧ word.meets retain = false := by
  unfold counterparts
  rw [List.mem_filter, and_congr_right_iff]
  intro hword
  rw [Bool.not_eq_true', ← Bool.not_eq_true, List.contains_iff_mem,
    hplaced.position_mem_filter hgroup hword, Bool.not_eq_true]

theorem groupKey_mem_groupsOf {word : Word} (hword : word ∈ words) :
    (words.filter fun other => other.groupKey = word.groupKey) ∈ groupsOf words := by
  unfold groupsOf
  refine List.mem_map.mpr ⟨word.groupKey, ?_, ?_⟩
  · rw [List.mem_eraseDups, List.map_map]
    exact List.mem_map_of_mem (f := Word.groupKey) hword
  · rw [List.filter_map, List.map_map]
    exact List.map_id _

theorem isEmpty_groupSides (retain against : Entries) (group : List Word) :
    (groupSides retain against group).1.isEmpty = false ↔
      (∃ keeper ∈ group, keeper.meets retain = true)
        ∧ ∃ other ∈ counterparts retain group, other.meets against = true := by
  unfold groupSides
  cases hkeeper : (group.filter (Word.meets retain)).getLast? with
  | none =>
      have hnone := List.filter_eq_nil_iff.mp (List.getLast?_eq_none_iff.mp hkeeper)
      simp only [List.isEmpty_nil, Bool.true_eq_false, false_iff]
      rintro ⟨⟨keeper, hmember, hmeets⟩, -⟩
      exact hnone keeper hmember hmeets
  | some keeper =>
      obtain ⟨hmember, hmeets⟩ := List.mem_filter.mp (List.mem_of_getLast? hkeeper)
      have hsome : ∃ keeper ∈ group, keeper.meets retain = true := ⟨keeper, hmember, hmeets⟩
      rw [and_iff_right hsome]
      dsimp only
      split
      · rename_i hempty
        have hnone := List.filter_eq_nil_iff.mp (List.isEmpty_iff.mp hempty)
        simp only [List.isEmpty_nil, Bool.true_eq_false, false_iff]
        rintro ⟨other, hother, hagainst⟩
        exact hnone other hother hagainst
      · rename_i hnonempty
        simp only [List.isEmpty_cons, true_iff]
        obtain ⟨other, hother⟩ := List.exists_mem_of_ne_nil _
          (fun h => hnonempty (List.isEmpty_iff.mpr h))
        exact ⟨other, (List.mem_filter.mp hother).1, (List.mem_filter.mp hother).2⟩

/-- Something is kept exactly when some word has its counterpart. -/
theorem isEmpty_kept (hplaced : Placed words) (retain against : Entries) :
    ((groupsOf words).flatMap fun group => (groupSides retain against group).1).isEmpty =
      !words.any (isPaired retain against words) := by
  rw [isEmpty_flatMap, List.all_eq_not_any_not]
  congr 1
  rw [Bool.eq_iff_iff, List.any_eq_true, List.any_eq_true]
  simp only [Bool.not_eq_true', isEmpty_groupSides]
  constructor
  · rintro ⟨group, hgroup, ⟨keeper, hkeeper, hmeets⟩, other, hother, hagainst⟩
    obtain ⟨key, rfl⟩ := mem_groupsOf hgroup
    obtain ⟨hother, hleft⟩ := (mem_counterparts hplaced fun member hmember =>
      (List.mem_filter.mp hmember).1).mp hother
    obtain ⟨hkeeper, hkey⟩ := List.mem_filter.mp hkeeper
    obtain ⟨hother, hsame⟩ := List.mem_filter.mp hother
    simp only [decide_eq_true_eq] at hkey hsame
    refine ⟨keeper, hkeeper, ?_⟩
    simp only [isPaired, hmeets, Bool.true_and, List.any_eq_true]
    exact ⟨other, hother, by simp [hsame, hkey, hleft, hagainst]⟩
  · rintro ⟨keeper, hkeeper, hpaired⟩
    simp only [isPaired, Bool.and_eq_true, List.any_eq_true, decide_eq_true_eq,
      Bool.not_eq_true'] at hpaired
    obtain ⟨hmeets, other, hother, ⟨hkey, hleft⟩, hagainst⟩ := hpaired
    refine ⟨_, groupKey_mem_groupsOf hkeeper, ⟨keeper, ?_, hmeets⟩, other, ?_, hagainst⟩
    · exact List.mem_filter.mpr ⟨hkeeper, by simp⟩
    · refine (mem_counterparts hplaced fun member hmember =>
        (List.mem_filter.mp hmember).1).mpr ⟨?_, hleft⟩
      exact List.mem_filter.mpr ⟨hother, by simpa using hkey⟩

theorem outline_pairing (h : Alike words others) (hwords : Placed words)
    (hothers : Placed others) :
    (pairingFinding params words).outline = (pairingFinding params others).outline := by
  have hpaired : ∀ word, isPaired (criteria params "retain") (criteria params "against")
      words word = isPaired (criteria params "retain") (criteria params "against")
        others word := by
    intro word
    unfold isPaired
    rw [h.any_eq _ fun _ => rfl]
  unfold pairingFinding
  rw [enough_eq h]
  split
  · dsimp only
    rw [isEmpty_kept hwords, isEmpty_kept hothers, funext hpaired, h.any_eq _ fun _ => rfl]
    split <;> rfl
  · rfl

theorem outline_finding (strategy : Strategy) (params : Entries) (context : Context)
    (h : Alike words others) (hwords : Placed words) (hothers : Placed others) :
    (strategy.finding params words context).outline =
      (strategy.finding params others context).outline := by
  cases strategy with
  | identicalForms => exact outline_identicalForms h
  | lexicalRetention => exact outline_lexical h
  | seriesRetention => exact outline_series h
  | attributePairing => exact outline_pairing h hwords hothers
  | attributeSelection => exact outline_selection h

end Strategy

namespace Plan

variable {words others : List Word}

theorem outline_finding (plan : Plan) (context : Context) (h : Alike words others)
    (hwords : Placed words) (hothers : Placed others) :
    (plan.finding words context).outline = (plan.finding others context).outline := by
  have hweigh : ∀ finding : Finding,
      (plan.weigh finding).outline = plan.weigh finding.outline := by
    intro finding
    cases finding <;> rfl
  unfold finding
  split
  · rw [hweigh, hweigh, Strategy.outline_finding _ _ _ h hwords hothers]
  · rfl

end Plan

end SutraArbiter
