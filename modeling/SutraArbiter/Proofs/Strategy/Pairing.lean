import SutraArbiter.Proofs.Strategy.Division
import SutraArbiter.Proofs.Strategy.Selected

namespace SutraArbiter

theorem select?_eq_ok_iff {α : Type} {p : α → Except Fault Bool} {items kept : List α} :
    select? p items = .ok kept ↔
      (∀ x ∈ items, ∃ held, p x = .ok held) ∧ kept = items.filter fun x => granted (p x) := by
  constructor
  · intro h
    have hanswered : ∀ x ∈ items, ∃ held, p x = .ok held := by
      induction items generalizing kept with
      | nil => simp
      | cons item rest ih =>
          obtain ⟨held, hheld, h⟩ := bind_eq_ok.mp h
          obtain ⟨others, hothers, -⟩ := bind_eq_ok.mp h
          exact List.forall_mem_cons.mpr ⟨⟨held, hheld⟩, ih hothers⟩
    rw [select?_eq_ok fun x hx => eq_granted (hanswered x hx), Except.ok.injEq] at h
    exact ⟨hanswered, h.symm⟩
  · rintro ⟨hanswered, rfl⟩
    exact select?_eq_ok fun x hx => eq_granted (hanswered x hx)

/-- The comparison with the filters comes to an end: with the second for the words that the
first turns away. -/
def Word.Answers (retain against : Entries) (word : Word) : Prop :=
  (∃ held, word.meetsAll? (.map retain) = .ok held)
    ∧ (word.meets retain = false → ∃ held, word.meetsAll? (.map against) = .ok held)

theorem Word.answers_of_isClear {retain against : Entries} {word : Word}
    (hclear : word.IsClear) (hretain : IsCriteria retain) (hagainst : IsCriteria against) :
    word.Answers retain against :=
  ⟨⟨_, meetsAll?_eq_ok hclear hretain⟩, fun _ => ⟨_, meetsAll?_eq_ok hclear hagainst⟩⟩

namespace Strategy

variable {retain against params : Entries} {words group : List Word} {groups : List (List Word)}
  {sides : List Int × List Int} {key : String} {i : Int}

theorem judgeGroup?_eq_ok_iff (hplaced : Placed words)
    (hgroup : ∀ member ∈ group, member ∈ words) :
    judgeGroup? (.map retain) (.map against) group = .ok sides ↔
      (∀ word ∈ group, word.Answers retain against)
        ∧ sides = groupSides retain against group := by
  have hanswers : (∀ word ∈ group, word.Answers retain against) ↔
      (∀ word ∈ group, ∃ held, word.meetsAll? (.map retain) = .ok held)
        ∧ ∀ word ∈ counterparts retain group,
            ∃ held, word.meetsAll? (.map against) = .ok held := by
    simp only [Word.Answers, mem_counterparts hplaced hgroup, forall_and, and_imp]
  have hjudged : (∀ word ∈ group, ∃ held, word.meetsAll? (.map retain) = .ok held) →
      (∀ word ∈ counterparts retain group, ∃ held, word.meetsAll? (.map against) = .ok held) →
      judgeGroup? (.map retain) (.map against) group = .ok (groupSides retain against group) := by
    intro hretain hagainst
    have hothers := select?_eq_ok fun word hword => eq_granted (hagainst word hword)
    unfold judgeGroup? groupSides
    rw [select?_eq_ok fun word hword => eq_granted (hretain word hword), ok_bind]
    dsimp only
    change (select? (fun word => word.meetsAll? (.map against)) (counterparts retain group) >>=
      _) = _
    rw [hothers, ok_bind]
    unfold Word.meets
    cases (group.filter fun word => granted (word.meetsAll? (.map retain))).getLast? with
    | none => rfl
    | some keeper =>
        dsimp only
        split <;> rfl
  rw [hanswers]
  constructor
  · intro h
    obtain ⟨keepers, hkeepers, hrest⟩ := bind_eq_ok.mp h
    obtain ⟨hretain, rfl⟩ := select?_eq_ok_iff.mp hkeepers
    obtain ⟨others, hothers, -⟩ := bind_eq_ok.mp hrest
    obtain ⟨hagainst, rfl⟩ := select?_eq_ok_iff.mp hothers
    rw [hjudged hretain hagainst] at h
    exact ⟨⟨hretain, hagainst⟩, (Except.ok.inj h).symm⟩
  · rintro ⟨⟨hretain, hagainst⟩, rfl⟩
    exact hjudged hretain hagainst

theorem judgeGroups?_eq_ok_iff (hplaced : Placed words)
    (hgroups : ∀ group ∈ groups, ∀ member ∈ group, member ∈ words) :
    judgeGroups? (.map retain) (.map against) groups = .ok sides ↔
      (∀ group ∈ groups, ∀ word ∈ group, word.Answers retain against)
        ∧ sides = (groups.flatMap fun group => (groupSides retain against group).1,
            groups.flatMap fun group => (groupSides retain against group).2) := by
  induction groups generalizing sides with
  | nil => simp [judgeGroups?, eq_comm]
  | cons first rest ih =>
      obtain ⟨hfirst, hrest⟩ := List.forall_mem_cons.mp hgroups
      rw [judgeGroups?, List.forall_mem_cons, bind_eq_ok]
      constructor
      · rintro ⟨one, hone, h⟩
        obtain ⟨others, hothers, h⟩ := bind_eq_ok.mp h
        obtain ⟨hanswers, rfl⟩ := (judgeGroup?_eq_ok_iff hplaced hfirst).mp hone
        obtain ⟨hanswer, rfl⟩ := (ih hrest).mp hothers
        cases h
        exact ⟨⟨hanswers, hanswer⟩, rfl⟩
      · rintro ⟨⟨hanswers, hanswer⟩, rfl⟩
        refine ⟨_, (judgeGroup?_eq_ok_iff hplaced hfirst).mpr ⟨hanswers, rfl⟩, ?_⟩
        rw [(ih hrest).mpr ⟨hanswer, rfl⟩]
        rfl

/-- The words of one class of counterparts. -/
def classOf (words : List Word) (key : String) : List Word :=
  words.filter fun word => word.groupKey = key

theorem mem_classOf {word : Word} :
    word ∈ classOf words key ↔ word ∈ words ∧ word.groupKey = key := by
  rw [classOf, List.mem_filter, decide_eq_true_eq]

/-- A class that holds a word to keep, and one to keep it against that is none itself. -/
def IsContested (retain against : Entries) (words : List Word) (key : String) : Prop :=
  (∃ word ∈ words, word.groupKey = key ∧ word.meets retain = true)
    ∧ ∃ word ∈ words, word.groupKey = key ∧ word.meets retain = false
        ∧ word.meets against = true

/-- The last word to keep of its class. -/
structure IsLastKeeper (retain : Entries) (words : List Word) (word : Word) : Prop where
  member : word ∈ words
  meets : word.meets retain = true
  last : ∀ other ∈ words, other.groupKey = word.groupKey → other.meets retain = true →
    other.position ≤ word.position

theorem getLast?_keepers (hplaced : Placed words) {keeper : Word} :
    ((classOf words key).filter (Word.meets retain)).getLast? = some keeper ↔
      keeper.groupKey = key ∧ IsLastKeeper retain words keeper := by
  unfold classOf
  rw [List.filter_filter, hplaced.getLast?_filter_eq_some]
  simp only [Bool.and_eq_true, decide_eq_true_eq]
  constructor
  · rintro ⟨hmember, ⟨hmeets, rfl⟩, hlast⟩
    exact ⟨rfl, hmember, hmeets, fun other hother hsame hkept =>
      hlast other hother ⟨hkept, hsame⟩⟩
  · rintro ⟨rfl, hmember, hmeets, hlast⟩
    exact ⟨hmember, ⟨hmeets, rfl⟩, fun other hother hkept =>
      hlast other hother hkept.2 hkept.1⟩

theorem exists_lastKeeper (hplaced : Placed words)
    (hcontested : IsContested retain against words key) :
    ∃ keeper, keeper.groupKey = key ∧ IsLastKeeper retain words keeper := by
  obtain ⟨⟨word, hword, hkey, hmeets⟩, -⟩ := hcontested
  have hkeeper := List.mem_filter.mpr ⟨mem_classOf.mpr ⟨hword, hkey⟩, hmeets⟩
  exact ⟨_, (getLast?_keepers hplaced).mp
    (List.getLast?_eq_some_getLast (List.ne_nil_of_mem hkeeper))⟩

theorem mem_opponents (hplaced : Placed words) {word : Word} :
    word ∈ (counterparts retain (classOf words key)).filter (Word.meets against) ↔
      word ∈ words ∧ word.groupKey = key ∧ word.meets retain = false
        ∧ word.meets against = true := by
  rw [List.mem_filter, mem_counterparts hplaced fun member hmember => (mem_classOf.mp hmember).1,
    mem_classOf, and_assoc, and_assoc]

/-- A contested class is divided by its last word to keep. -/
theorem groupSides_of_isContested (hplaced : Placed words) {keeper : Word}
    (hcontested : IsContested retain against words keeper.groupKey)
    (hlast : IsLastKeeper retain words keeper) :
    groupSides retain against (classOf words keeper.groupKey) =
      ([keeper.position],
        (positions (classOf words keeper.groupKey)).filter fun i => i != keeper.position) := by
  obtain ⟨-, other, hother⟩ := hcontested
  unfold groupSides
  rw [(getLast?_keepers hplaced).mpr ⟨rfl, hlast⟩]
  dsimp only
  rw [if_neg]
  rw [Bool.not_eq_true, List.isEmpty_eq_false_iff_exists_mem]
  exact ⟨other, (mem_opponents hplaced).mpr hother⟩

/-- Any other class is left alone. -/
theorem groupSides_of_not_isContested (hplaced : Placed words)
    (hcontested : ¬IsContested retain against words key) :
    groupSides retain against (classOf words key) = ([], []) := by
  unfold groupSides
  split
  · rename_i keeper hkeeper
    rw [if_pos]
    obtain ⟨hkey, hlast⟩ := (getLast?_keepers hplaced).mp hkeeper
    rw [List.isEmpty_iff, List.eq_nil_iff_forall_not_mem]
    intro other hother
    exact hcontested ⟨⟨keeper, hlast.member, hkey, hlast.meets⟩, other,
      (mem_opponents hplaced).mp hother⟩
  · rfl

theorem mem_groupsOf_iff :
    group ∈ groupsOf words ↔ ∃ word ∈ words, group = classOf words word.groupKey := by
  constructor
  · intro hgroup
    unfold groupsOf at hgroup
    obtain ⟨key, hkey, rfl⟩ := List.mem_map.mp hgroup
    rw [List.mem_eraseDups, List.map_map] at hkey
    obtain ⟨word, hword, rfl⟩ := List.mem_map.mp hkey
    refine ⟨word, hword, ?_⟩
    rw [List.filter_map, List.map_map]
    exact List.map_id _
  · rintro ⟨word, hword, rfl⟩
    exact groupKey_mem_groupsOf hword

theorem answers_groupsOf :
    (∀ group ∈ groupsOf words, ∀ word ∈ group, word.Answers retain against) ↔
      ∀ word ∈ words, word.Answers retain against := by
  constructor
  · intro h word hword
    exact h _ (groupKey_mem_groupsOf hword) word (mem_classOf.mpr ⟨hword, rfl⟩)
  · intro h group hgroup word hword
    exact h word (mem_of_mem_groupsOf hgroup word hword)

/-- The last words to keep of the contested classes are kept. -/
theorem mem_kept (hplaced : Placed words) :
    (i ∈ (groupsOf words).flatMap fun group => (groupSides retain against group).1) ↔
      ∃ word, word.position = i ∧ IsContested retain against words word.groupKey
        ∧ IsLastKeeper retain words word := by
  rw [List.mem_flatMap]
  constructor
  · rintro ⟨group, hgroup, hi⟩
    obtain ⟨word, -, rfl⟩ := mem_groupsOf_iff.mp hgroup
    by_cases hcontested : IsContested retain against words word.groupKey
    · obtain ⟨keeper, hkey, hlast⟩ := exists_lastKeeper hplaced hcontested
      rw [← hkey] at hcontested hi
      rw [groupSides_of_isContested hplaced hcontested hlast] at hi
      exact ⟨keeper, (List.mem_singleton.mp hi).symm, hcontested, hlast⟩
    · rw [groupSides_of_not_isContested hplaced hcontested] at hi
      cases hi
  · rintro ⟨word, rfl, hcontested, hlast⟩
    refine ⟨_, mem_groupsOf_iff.mpr ⟨word, hlast.member, rfl⟩, ?_⟩
    rw [groupSides_of_isContested hplaced hcontested hlast]
    exact List.mem_singleton_self _

/-- The other words of the contested classes fall away. -/
theorem mem_fallen (hplaced : Placed words) :
    (i ∈ (groupsOf words).flatMap fun group => (groupSides retain against group).2) ↔
      ∃ word ∈ words, word.position = i ∧ IsContested retain against words word.groupKey
        ∧ ¬IsLastKeeper retain words word := by
  rw [List.mem_flatMap]
  constructor
  · rintro ⟨group, hgroup, hi⟩
    obtain ⟨first, -, rfl⟩ := mem_groupsOf_iff.mp hgroup
    by_cases hcontested : IsContested retain against words first.groupKey
    · obtain ⟨keeper, hkey, hlast⟩ := exists_lastKeeper hplaced hcontested
      rw [← hkey] at hcontested hi
      rw [groupSides_of_isContested hplaced hcontested hlast, List.mem_filter, bne_iff_ne] at hi
      obtain ⟨hi, hother⟩ := hi
      obtain ⟨word, hword, rfl⟩ := List.mem_map.mp hi
      obtain ⟨hmember, hsame⟩ := mem_classOf.mp hword
      refine ⟨word, hmember, rfl, hsame ▸ hcontested, fun hkept => hother ?_⟩
      refine Int.le_antisymm ?_ ?_
      · exact hlast.last word hmember hsame hkept.meets
      · exact hkept.last keeper hlast.member hsame.symm hlast.meets
    · rw [groupSides_of_not_isContested hplaced hcontested] at hi
      cases hi
  · rintro ⟨word, hmember, rfl, hcontested, hnot⟩
    refine ⟨_, mem_groupsOf_iff.mpr ⟨word, hmember, rfl⟩, ?_⟩
    obtain ⟨keeper, hkey, hlast⟩ := exists_lastKeeper hplaced hcontested
    rw [← hkey] at hcontested ⊢
    rw [groupSides_of_isContested hplaced hcontested hlast, List.mem_filter, bne_iff_ne]
    refine ⟨List.mem_map_of_mem (mem_classOf.mpr ⟨hmember, hkey.symm⟩), fun hplace => hnot ?_⟩
    rwa [hplaced.eq_of_position hmember hlast.member hplace]

/-- The selection out of the contested classes, and out of no other. -/
structure Pairs (retain against : Entries) (words : List Word) (selection : Selection) :
    Prop where
  kept : ∀ i, i ∈ selection.retain ↔
    ∃ word ∈ words, word.position = i ∧ IsContested retain against words word.groupKey
      ∧ IsLastKeeper retain words word
  dropped : ∀ i, i ∈ selection.drop ↔
    ∃ word ∈ words, word.position = i ∧ IsContested retain against words word.groupKey
      ∧ ¬IsLastKeeper retain words word

theorem pairs_ofPositions (hplaced : Placed words) :
    Pairs retain against words (.ofPositions
      ((groupsOf words).flatMap fun group => (groupSides retain against group).1)
      ((groupsOf words).flatMap fun group => (groupSides retain against group).2)) where
  kept := fun i => by
    rw [Selection.mem_retain_ofPositions, mem_kept hplaced]
    exact exists_congr fun word => ⟨fun h => ⟨h.2.2.member, h⟩, And.right⟩
  dropped := fun i => by
    rw [Selection.mem_drop_ofPositions, mem_fallen hplaced, mem_kept hplaced]
    refine and_iff_left_of_imp ?_
    rintro ⟨word, hword, rfl, -, hnot⟩ ⟨keeper, hplace, -, hlast⟩
    rw [hplaced.eq_of_position hlast.member hword hplace] at hlast
    exact hnot hlast

theorem judgeAttributePairing_eq_ok_iff (hplaced : Placed words)
    (hretain : params.get? "retain" = some (.map retain))
    (hagainst : params.get? "against" = some (.map against)) {enough : Bool}
    (henough : hasMinimum? words (.map params) = .ok enough) (context : Context)
    {finding : Finding} :
    judgeAttributePairing words context (.map params) = .ok finding ↔
      (enough = true → ∀ word ∈ words, word.Answers retain against)
        ∧ finding = pairingFinding params words := by
  have hgroups : ∀ group ∈ groupsOf words, ∀ member ∈ group, member ∈ words :=
    fun _ => mem_of_mem_groupsOf
  have hcriteria : criteria params "retain" = retain ∧ criteria params "against" = against := by
    simp [criteria, hretain, hagainst]
  unfold judgeAttributePairing pairingFinding Strategy.enough
  rw [henough, hcriteria.1, hcriteria.2, ok_bind, granted_ok]
  cases enough with
  | false => simp [pure, Except.pure, eq_comm]
  | true =>
      simp only [Datum.require?, hretain, hagainst, ok_bind, if_true, forall_const,
        bind_eq_ok, judgeGroups?_eq_ok_iff hplaced hgroups, answers_groupsOf]
      constructor
      · rintro ⟨sides, ⟨hanswers, rfl⟩, h⟩
        refine ⟨hanswers, ?_⟩
        dsimp only at h ⊢
        split at h
        · rename_i hnone
          cases h
          rw [if_pos hnone]
        · rename_i hsome
          cases h
          rw [if_neg hsome]
      · rintro ⟨hanswers, rfl⟩
        refine ⟨_, ⟨hanswers, rfl⟩, ?_⟩
        split <;> rfl

/-- A pairing selects as soon as one class is contested, among enough words. -/
theorem pairingFinding_eq_selected (hplaced : Placed words)
    (hretain : params.get? "retain" = some (.map retain))
    (hagainst : params.get? "against" = some (.map against)) {enough : Bool}
    (henough : hasMinimum? words (.map params) = .ok enough) :
    ((∃ selection confidence, pairingFinding params words = .selected selection confidence) ↔
        enough = true ∧ ∃ key, IsContested retain against words key)
      ∧ ∀ selection confidence, pairingFinding params words = .selected selection confidence →
          confidence = .one ∧ Pairs retain against words selection := by
  have hcriteria : criteria params "retain" = retain ∧ criteria params "against" = against := by
    simp [criteria, hretain, hagainst]
  have hkept : ((groupsOf words).flatMap fun group => (groupSides retain against group).1).isEmpty
      = false ↔ ∃ key, IsContested retain against words key := by
    rw [List.isEmpty_eq_false_iff_exists_mem]
    constructor
    · rintro ⟨i, hi⟩
      obtain ⟨word, -, hcontested, -⟩ := (mem_kept hplaced).mp hi
      exact ⟨_, hcontested⟩
    · rintro ⟨key, hcontested⟩
      obtain ⟨keeper, rfl, hlast⟩ := exists_lastKeeper hplaced hcontested
      exact ⟨_, (mem_kept hplaced).mpr ⟨keeper, rfl, hcontested, hlast⟩⟩
  rw [← hkept]
  unfold pairingFinding Strategy.enough
  rw [henough, hcriteria.1, hcriteria.2, granted_ok]
  dsimp only
  cases enough with
  | false => simp [Finding.tooFewWords]
  | true =>
      rw [if_pos rfl]
      split
      · rename_i hnone
        simp [hnone, Finding.none]
      · rename_i hsome
        refine ⟨by simp [hsome, Finding.ofPositions], fun selection confidence h => ?_⟩
        cases h
        exact ⟨rfl, pairs_ofPositions hplaced⟩

/-- Pairing with any two filters returns unless, among enough words, a comparison with them
breaks off.  It then selects exactly if some class is contested: of each such class the last
word to keep stays and all others fall away, and no word of another class does either. -/
theorem pairing_selects_contested {raw : Datum} {group : WordGroup}
    (hread : WordGroup.read raw = .ok group)
    (hretain : params.get? "retain" = some (.map retain))
    (hagainst : params.get? "against" = some (.map against)) {minimum : Int}
    (hminimum : (params.getD "min_words" (.int usualMinimum)).toInt? = .ok minimum)
    (context : Context) :
    ((∃ finding, attributePairing.judge group.words context (.map params) = .ok finding) ↔
        (minimum ≤ group.words.length → ∀ word ∈ group.words, word.Answers retain against))
      ∧ (raw.isOverlong = false → IsCriteria retain → IsCriteria against →
          ∀ word ∈ group.words, word.Answers retain against)
      ∧ ∀ finding, attributePairing.judge group.words context (.map params) = .ok finding →
          ((∃ selection confidence, finding = .selected selection confidence) ↔
            minimum ≤ group.words.length
              ∧ ∃ key, IsContested retain against group.words key)
          ∧ ∀ selection confidence, finding = .selected selection confidence →
              confidence = .one ∧ Pairs retain against group.words selection := by
  have hplaced := WordGroup.placed_of_read hread
  have henough : hasMinimum? group.words (.map params) =
      .ok (decide (minimum ≤ group.words.length)) := by
    simp only [hasMinimum?, Datum.getD?, Datum.entriesFor?, ok_bind, pure, Except.pure, hminimum]
  have hjudged : ∀ finding, judgeAttributePairing group.words context (.map params) = .ok finding ↔
      (minimum ≤ group.words.length → ∀ word ∈ group.words, word.Answers retain against)
        ∧ finding = pairingFinding params group.words := fun finding => by
    rw [judgeAttributePairing_eq_ok_iff hplaced hretain hagainst henough, decide_eq_true_eq]
  refine ⟨?_, fun hclear hproper hproper' word hword => ?_, fun finding hfinding => ?_⟩
  · refine (exists_congr hjudged).trans ?_
    exact exists_and_left.trans (and_iff_left ⟨_, rfl⟩)
  · obtain ⟨items, hitems⟩ := WordGroup.exists_items hread
    have hword := WordGroup.isClear_of_read hitems
      (WordGroup.isOverlong_of_items hclear hitems) hread word hword
    exact Word.answers_of_isClear hword hproper hproper'
  · obtain ⟨-, rfl⟩ := (hjudged finding).mp hfinding
    have hselected := pairingFinding_eq_selected hplaced hretain hagainst henough
    rwa [decide_eq_true_eq] at hselected

/-! Siblings, the brother kept against his sister; and the same beside a number that has no
text. -/

def genderParams : Entries :=
  [(.text "retain", .map [(.text "gender", .text "m")]),
    (.text "against", .map [(.text "gender", .text "f")])]

def siblings : Datum :=
  .list [.map [(.text "base", .text "putra"), (.text "gender", .text "f")],
    .map [(.text "base", .text "putra"), (.text "gender", .text "m")],
    .text "gajaḥ"]

theorem pairing_selects_brother : ∃ group, WordGroup.read siblings = .ok group
    ∧ ∀ context, attributePairing.judge group.words context (.map genderParams) =
        .ok (.selected ⟨[1], [0]⟩ .one)
      ∧ Pairs [(.text "gender", .text "m")] [(.text "gender", .text "f")] group.words
          ⟨[1], [0]⟩ := by
  obtain ⟨group, hread, hjudged⟩ : ∃ group, WordGroup.read siblings = .ok group
      ∧ ∀ context, attributePairing.judge group.words context (.map genderParams) =
        .ok (.selected ⟨[1], [0]⟩ .one) := ⟨_, rfl, fun context => rfl⟩
  refine ⟨group, hread, fun context => ⟨hjudged context, ?_⟩⟩
  have hgiven : genderParams.get? "retain" = some (.map [(.text "gender", .text "m")]) := rfl
  have h := pairing_selects_contested hread hgiven rfl rfl context
  exact ((h.2.2 _ (hjudged context)).2 _ _ rfl).2

def rankParams : Entries :=
  [(.text "retain", .map [(.text "rank", .text "first")]),
    (.text "against", .map [(.text "rank", .text "second")])]

/-- Two brothers, beside a word of another base and of any rank. -/
def ranked (rank : Datum) : Datum :=
  .list [.map [(.text "base", .text "putra"), (.text "rank", .text "second")],
    .map [(.text "base", .text "putra"), (.text "rank", .text "first")],
    .map [(.text "base", .text "duhitṛ"), (.text "rank", rank)]]

theorem exists_ranked (rank : Datum) : ∃ group, WordGroup.read (ranked rank) = .ok group
    ∧ hasMinimum? group.words (.map rankParams) = .ok true
    ∧ IsContested [(.text "rank", .text "first")] [(.text "rank", .text "second")]
        group.words "putra"
    ∧ ∃ word ∈ group.words, word.value "rank" = rank := by
  refine ⟨_, rfl, rfl, ⟨⟨_, .tail _ (.head _), rfl, rfl⟩, _, .head _, rfl, rfl, rfl⟩,
    _, .tail _ (.tail _ (.head _)), rfl⟩

/-- Among enough words and beside a contested class, a rank that has no text ends the call. -/
theorem pairing_breaks_off : ∃ group,
    WordGroup.read (ranked (.int (Nat.pow 10 Number.digitLimit))) = .ok group
      ∧ hasMinimum? group.words (.map rankParams) = .ok true
      ∧ IsContested [(.text "rank", .text "first")] [(.text "rank", .text "second")]
          group.words "putra"
      ∧ ∀ context finding,
          attributePairing.judge group.words context (.map rankParams) ≠ .ok finding := by
  have hlong : (Datum.int (Nat.pow 10 Number.digitLimit)).isOverlong = true :=
    Datum.isOverlong_natCast (Nat.le_refl _)
  generalize Datum.int (Nat.pow 10 Number.digitLimit) = rank at hlong
  obtain ⟨group, hread, henough, hcontested, word, hword, hrank⟩ := exists_ranked rank
  refine ⟨group, hread, henough, hcontested, fun context finding hfinding => ?_⟩
  have hanswers := ((judgeAttributePairing_eq_ok_iff (WordGroup.placed_of_read hread) rfl rfl
    henough context).mp hfinding).1 rfl
  obtain ⟨⟨held, hheld⟩, -⟩ := hanswers word hword
  have hplain : rank.plain? = .error .overlongInteger := Datum.plain?_eq_error.mpr ⟨rfl, hlong⟩
  have hnull : rank.isNull = false := by
    cases rank <;> first | rfl | simp [Datum.isOverlong] at hlong
  simp [Word.meetsAll?, Datum.entriesFor?, allOf?, Word.lookup?_text, hrank, meets?,
    matchesLiteral?, hnull, hplain] at hheld

end Strategy

end SutraArbiter
