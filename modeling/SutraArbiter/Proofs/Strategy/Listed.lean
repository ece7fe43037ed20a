import SutraArbiter.Proofs.Strategy.Division
import SutraArbiter.Proofs.Strategy.Selected

namespace SutraArbiter.Strategy

/-! Listed pairs, taken together: which words they keep, which they drop, and which they pass
over. -/

variable {pairs : List Datum} {pair : Datum} {words : List Word} {word : Word} {i : Int}

/-- Both sides of the pair have a word. -/
def Fires (words : List Word) (pair : Datum) : Prop :=
  (∃ word ∈ words, isOnSide pair "retain" word = true)
    ∧ ∃ word ∈ words, isOnSide pair "drop" word = true

/-- The last word on the side to retain. -/
structure IsRetainedBy (words : List Word) (pair : Datum) (word : Word) : Prop where
  member : word ∈ words
  listed : isOnSide pair "retain" word = true
  last : ∀ other ∈ words, isOnSide pair "retain" other = true → other.position ≤ word.position

/-- Some pair that fires retains the word. -/
def IsRetained (pairs : List Datum) (words : List Word) (word : Word) : Prop :=
  ∃ pair ∈ pairs, Fires words pair ∧ IsRetainedBy words pair word

/-- Some pair that fires has the word on that side. -/
def IsInvolved (pairs : List Datum) (words : List Word) (side : String) (word : Word) : Prop :=
  word ∈ words ∧ ∃ pair ∈ pairs, Fires words pair ∧ isOnSide pair side word = true

theorem getLast?_retained (hplaced : Placed words) :
    (words.filter (isOnSide pair "retain")).getLast? = some word ↔
      IsRetainedBy words pair word := by
  rw [hplaced.getLast?_filter_eq_some]
  exact ⟨fun ⟨hmember, hlisted, hlast⟩ => ⟨hmember, hlisted, hlast⟩,
    fun ⟨hmember, hlisted, hlast⟩ => ⟨hmember, hlisted, hlast⟩⟩

theorem exists_isRetainedBy (hplaced : Placed words) (hfires : Fires words pair) :
    ∃ word, IsRetainedBy words pair word := by
  obtain ⟨⟨word, hword, hlisted⟩, -⟩ := hfires
  have hkeeper := List.mem_filter.mpr ⟨hword, hlisted⟩
  exact ⟨_, (getLast?_retained hplaced).mp
    (List.getLast?_eq_some_getLast (List.ne_nil_of_mem hkeeper))⟩

theorem pairSides_of_fires (hplaced : Placed words) (hfires : Fires words pair)
    (hretained : IsRetainedBy words pair word) :
    pairSides words pair =
      ([word.position], positions (words.filter (isOnSide pair "drop"))) := by
  obtain ⟨-, other, hother, hdrop⟩ := hfires
  unfold pairSides
  rw [(getLast?_retained hplaced).mpr hretained]
  dsimp only
  rw [if_neg]
  rw [Bool.not_eq_true, List.isEmpty_eq_false_iff_exists_mem]
  exact ⟨other, List.mem_filter.mpr ⟨hother, hdrop⟩⟩

theorem pairSides_of_not_fires (hplaced : Placed words) (hfires : ¬Fires words pair) :
    pairSides words pair = ([], []) := by
  unfold pairSides
  split
  · rename_i keeper hkeeper
    have hretained := (getLast?_retained hplaced).mp hkeeper
    rw [if_pos]
    rw [List.isEmpty_iff, List.eq_nil_iff_forall_not_mem]
    intro other hother
    obtain ⟨hother, hdrop⟩ := List.mem_filter.mp hother
    exact hfires ⟨⟨keeper, hretained.member, hretained.listed⟩, other, hother, hdrop⟩
  · rfl

theorem mem_retained (hplaced : Placed words) :
    (i ∈ pairs.flatMap fun pair => (pairSides words pair).1) ↔
      ∃ word, word.position = i ∧ IsRetained pairs words word := by
  rw [List.mem_flatMap]
  constructor
  · rintro ⟨pair, hpair, hi⟩
    by_cases hfires : Fires words pair
    · obtain ⟨word, hword⟩ := exists_isRetainedBy hplaced hfires
      rw [pairSides_of_fires hplaced hfires hword] at hi
      exact ⟨word, (List.mem_singleton.mp hi).symm, pair, hpair, hfires, hword⟩
    · rw [pairSides_of_not_fires hplaced hfires] at hi
      cases hi
  · rintro ⟨word, rfl, pair, hpair, hfires, hword⟩
    refine ⟨pair, hpair, ?_⟩
    rw [pairSides_of_fires hplaced hfires hword]
    exact List.mem_singleton_self _

theorem mem_dropped (hplaced : Placed words) :
    (i ∈ pairs.flatMap fun pair => (pairSides words pair).2) ↔
      ∃ word, word.position = i ∧ IsInvolved pairs words "drop" word := by
  rw [List.mem_flatMap]
  constructor
  · rintro ⟨pair, hpair, hi⟩
    by_cases hfires : Fires words pair
    · obtain ⟨keeper, hkeeper⟩ := exists_isRetainedBy hplaced hfires
      rw [pairSides_of_fires hplaced hfires hkeeper] at hi
      obtain ⟨word, hword, rfl⟩ := List.mem_map.mp hi
      obtain ⟨hmember, hdrop⟩ := List.mem_filter.mp hword
      exact ⟨word, rfl, hmember, pair, hpair, hfires, hdrop⟩
    · rw [pairSides_of_not_fires hplaced hfires] at hi
      cases hi
  · rintro ⟨word, rfl, hmember, pair, hpair, hfires, hdrop⟩
    obtain ⟨keeper, hkeeper⟩ := exists_isRetainedBy hplaced hfires
    refine ⟨pair, hpair, ?_⟩
    rw [pairSides_of_fires hplaced hfires hkeeper]
    exact List.mem_map_of_mem (List.mem_filter.mpr ⟨hmember, hdrop⟩)

theorem IsRetained.member (h : IsRetained pairs words word) : word ∈ words := by
  obtain ⟨pair, -, -, hretained⟩ := h
  exact hretained.member

/-- The selection that the pairs make together: a word that one of them retains stays, even if
another drops it. -/
structure Settles (pairs : List Datum) (words : List Word) (selection : Selection) : Prop where
  kept : ∀ word ∈ words, word.position ∈ selection.retain ↔ IsRetained pairs words word
  dropped : ∀ word ∈ words, word.position ∈ selection.drop ↔
    IsInvolved pairs words "drop" word ∧ ¬IsRetained pairs words word
  divides : selection.Divides words.length

theorem settles_ofPositions (hplaced : Placed words) (hfires : ∃ pair ∈ pairs, Fires words pair) :
    Settles pairs words (.ofPositions (pairs.flatMap fun pair => (pairSides words pair).1)
      (pairs.flatMap fun pair => (pairSides words pair).2)) := by
  have hretained : ∀ word ∈ words,
      (word.position ∈ pairs.flatMap fun pair => (pairSides words pair).1) ↔
        IsRetained pairs words word := by
    intro word hword
    rw [mem_retained hplaced]
    refine ⟨?_, fun h => ⟨word, rfl, h⟩⟩
    rintro ⟨other, hplace, hother⟩
    exact hplaced.eq_of_position hother.member hword hplace ▸ hother
  have hdropped : ∀ word ∈ words,
      (word.position ∈ pairs.flatMap fun pair => (pairSides words pair).2) ↔
        IsInvolved pairs words "drop" word := by
    intro word hword
    rw [mem_dropped hplaced]
    refine ⟨?_, fun h => ⟨word, rfl, h⟩⟩
    rintro ⟨other, hplace, hother⟩
    exact hplaced.eq_of_position hother.1 hword hplace ▸ hother
  constructor
  · intro word hword
    rw [Selection.mem_retain_ofPositions, hretained word hword]
  · intro word hword
    rw [Selection.mem_drop_ofPositions, hdropped word hword, hretained word hword]
  · refine Selection.divides_ofPositions ?_ ?_ ?_
    · obtain ⟨pair, hpair, hfires⟩ := hfires
      obtain ⟨word, hword⟩ := exists_isRetainedBy hplaced hfires
      exact List.ne_nil_of_mem ((mem_retained hplaced).mpr ⟨word, rfl, pair, hpair, hfires, hword⟩)
    · intro i hi
      obtain ⟨word, rfl, hword⟩ := (mem_retained hplaced).mp hi
      exact hplaced.mem_positions.mp (List.mem_map_of_mem hword.member)
    · intro i hi
      obtain ⟨word, rfl, hword⟩ := (mem_dropped hplaced).mp hi
      exact hplaced.mem_positions.mp (List.mem_map_of_mem hword.1)

namespace Settles

variable {selection : Selection}

theorem mem_or_iff (h : Settles pairs words selection) (hword : word ∈ words) :
    word.position ∈ selection.retain ∨ word.position ∈ selection.drop ↔
      IsRetained pairs words word ∨ IsInvolved pairs words "drop" word := by
  rw [h.kept word hword, h.dropped word hword]
  constructor
  · exact Or.imp_right And.left
  · rintro (hretained | hdropped)
    · exact .inl hretained
    · exact (Classical.em (IsRetained pairs words word)).imp_right (And.intro hdropped)

theorem drop_ne_nil_iff (hplaced : Placed words) (h : Settles pairs words selection) :
    selection.drop ≠ [] ↔
      ∃ word, IsInvolved pairs words "drop" word ∧ ¬IsRetained pairs words word := by
  constructor
  · intro hsome
    obtain ⟨i, hi⟩ := List.exists_mem_of_ne_nil _ hsome
    obtain ⟨word, hword, rfl⟩ := List.mem_map.mp
      (hplaced.mem_positions.mpr (h.divides.dropped_within i hi))
    exact ⟨word, (h.dropped word hword).mp hi⟩
  · rintro ⟨word, hdropped⟩
    exact List.ne_nil_of_mem ((h.dropped word hdropped.1.1).mpr hdropped)

end Settles

variable {params : Entries} {context : Context}

theorem judgePairs?_of_form (hpairs : Form.IsPairs (.list pairs)) (words : List Word) :
    judgePairs? words pairs =
      .ok (pairs.flatMap fun pair => (pairSides words pair).1,
        pairs.flatMap fun pair => (pairSides words pair).2) := by
  obtain ⟨items, hitems, hproper⟩ := hpairs.exists_items?
  cases hitems
  exact judgePairs?_eq_ok hproper words

theorem goesByFlag_iff (hplaced : Placed words)
    (hlisted : params.get? "pairs" = some (.list pairs)) (hpairs : Form.IsPairs (.list pairs)) :
    GoesByFlag words (.map params) ↔ ¬∃ pair ∈ pairs, Fires words pair := by
  have hpassed : (pairs.flatMap fun pair => (pairSides words pair).1) = [] ↔
      ¬∃ pair ∈ pairs, Fires words pair := by
    rw [List.eq_nil_iff_forall_not_mem]
    constructor
    · rintro hnone ⟨pair, hpair, hfires⟩
      obtain ⟨word, hword⟩ := exists_isRetainedBy hplaced hfires
      exact hnone _ ((mem_retained hplaced).mpr ⟨word, rfl, pair, hpair, hfires, hword⟩)
    · intro hnone i hi
      obtain ⟨-, -, pair, hpair, hfires, -⟩ := (mem_retained hplaced).mp hi
      exact hnone ⟨pair, hpair, hfires⟩
  rw [← hpassed]
  have hgiven : (Datum.map params).getD? "pairs" (.tuple []) = .ok (.list pairs) := by
    simp [Datum.getD?, Datum.entriesFor?, Entries.getD_of_get?_eq_some hlisted, pure, Except.pure]
  constructor
  · rintro ⟨listed, items, drop, hfound, hitems, hjudged⟩
    rw [hgiven, Except.ok.injEq] at hfound
    subst hfound
    cases hitems
    rw [judgePairs?_of_form hpairs, Except.ok.injEq, Prod.mk.injEq] at hjudged
    exact hjudged.1
  · intro hnone
    have hjudged := judgePairs?_of_form hpairs words
    rw [hnone] at hjudged
    exact ⟨_, pairs, _, hgiven, rfl, hjudged⟩

theorem judgeLexicalRetention_of_fires (hplaced : Placed words)
    (hlisted : params.get? "pairs" = some (.list pairs)) (hpairs : Form.IsPairs (.list pairs))
    (henough : hasMinimum? words (.map params) = .ok true)
    (hfires : ∃ pair ∈ pairs, Fires words pair) (context : Context) :
    judgeLexicalRetention words context (.map params) =
      .ok (.ofPositions (pairs.flatMap fun pair => (pairSides words pair).1)
        (pairs.flatMap fun pair => (pairSides words pair).2)) := by
  obtain ⟨pair, hpair, hfires⟩ := hfires
  obtain ⟨word, hword⟩ := exists_isRetainedBy hplaced hfires
  have hsome := List.isEmpty_eq_false_iff_exists_mem.mpr
    ⟨_, (mem_retained hplaced).mpr ⟨word, rfl, pair, hpair, hfires, hword⟩⟩
  unfold judgeLexicalRetention
  simp only [henough, ok_bind, if_true, Datum.getD?, Datum.entriesFor?, pure, Except.pure,
    Entries.getD_of_get?_eq_some hlisted, Datum.items?, judgePairs?_of_form hpairs, hsome]
  rfl

/-- A call goes by its pairs exactly if one of them fires among enough words.  Of the words
that a firing pair has to drop each one stays or falls away, and it stays only where some
firing pair retains it; of those that it has to retain only the last is sure of either. -/
theorem listed_pairs_settle {raw : Datum} {group : WordGroup}
    (hread : WordGroup.read raw = .ok group)
    (hlisted : params.get? "pairs" = some (.list pairs)) (hpairs : Form.IsPairs (.list pairs))
    (context : Context) :
    ((∃ selection confidence, lexicalRetention.judge group.words context (.map params) =
          .ok (.selected selection confidence))
        ∧ ¬GoesByFlag group.words (.map params) ↔
      hasMinimum? group.words (.map params) = .ok true
        ∧ ∃ pair ∈ pairs, Fires group.words pair)
      ∧ ∀ selection confidence,
        lexicalRetention.judge group.words context (.map params) =
          .ok (.selected selection confidence) →
        ¬GoesByFlag group.words (.map params) →
        Settles pairs group.words selection
          ∧ (selection.drop ≠ [] ↔ ∃ word, IsInvolved pairs group.words "drop" word
              ∧ ¬IsRetained pairs group.words word)
          ∧ (∀ word, IsInvolved pairs group.words "drop" word →
              (word.position ∈ selection.retain ∨ word.position ∈ selection.drop)
                ∧ (word.position ∈ selection.retain → IsRetained pairs group.words word))
          ∧ ∀ word, IsInvolved pairs group.words "retain" word →
              (word.position ∈ selection.retain ∨ word.position ∈ selection.drop ↔
                IsRetained pairs group.words word
                  ∨ IsInvolved pairs group.words "drop" word) := by
  have hplaced := WordGroup.placed_of_read hread
  rw [goesByFlag_iff hplaced hlisted hpairs, not_not]
  have hfound : ∀ {selection confidence}, lexicalRetention.judge group.words context (.map params)
      = .ok (.selected selection confidence) →
        hasMinimum? group.words (.map params) = .ok true := by
    intro selection confidence h
    obtain ⟨enough, henough, h⟩ := bind_eq_ok.mp h
    cases enough with
    | true => exact henough
    | false => cases h
  refine ⟨⟨?_, ?_⟩, fun selection confidence hjudged hfires => ?_⟩
  · rintro ⟨⟨selection, confidence, hjudged⟩, hfires⟩
    exact ⟨hfound hjudged, hfires⟩
  · rintro ⟨henough, hfires⟩
    exact ⟨⟨_, _, judgeLexicalRetention_of_fires hplaced hlisted hpairs henough hfires context⟩,
      hfires⟩
  · have hwhole := judgeLexicalRetention_of_fires hplaced hlisted hpairs (hfound hjudged) hfires
      context
    cases hwhole.symm.trans hjudged
    have hsettles := settles_ofPositions hplaced hfires
    refine ⟨hsettles, hsettles.drop_ne_nil_iff hplaced, fun word hword => ⟨?_, ?_⟩,
      fun word hword => hsettles.mem_or_iff hword.1⟩
    · exact (hsettles.mem_or_iff hword.1).mpr (.inr hword)
    · exact (hsettles.kept word hword.1).mp

def kinshipPair (retained dropped : String) : Datum :=
  .map [(.text "retain", .map [(.text "iast", Datum.ofStrings [retained])]),
    (.text "drop", .map [(.text "iast", Datum.ofStrings [dropped])])]

def kinshipParams (retained dropped : String) : Entries :=
  [(.text "pairs", .list [kinshipPair retained dropped])]

theorem isPairs_kinshipPair {retained dropped : String}
    (hretained : Form.IsWording (.text retained)) (hdropped : Form.IsWording (.text dropped)) :
    Form.IsPairs (.list [kinshipPair retained dropped]) := by
  have hlexicon : ∀ {word : String}, Form.IsWording (.text word) →
      Form.IsLexicon (.map [(.text "iast", Datum.ofStrings [word])]) := by
    intro word hword
    refine ⟨List.cons_ne_nil _ _, List.forall_mem_singleton.mpr ⟨.inl rfl, ?_⟩⟩
    exact List.forall_mem_singleton.mpr hword
  refine ⟨List.cons_ne_nil _ _, List.forall_mem_singleton.mpr ⟨_, _, .refl _, ?_, ?_⟩⟩
  · exact hlexicon hretained
  · exact hlexicon hdropped

/-- A son stays over a daughter. -/
theorem listed_pairs_settle_siblings : ∃ group,
    WordGroup.read (Datum.ofStrings ["putra", "duhita"]) = .ok group
      ∧ ∀ context, lexicalRetention.judge group.words context
            (.map (kinshipParams "putra" "duhita")) = .ok (.selected ⟨[0], [1]⟩ .one)
        ∧ Settles [kinshipPair "putra" "duhita"] group.words ⟨[0], [1]⟩ := by
  obtain ⟨group, hread, hjudged, henough, hfires⟩ : ∃ group,
      WordGroup.read (Datum.ofStrings ["putra", "duhita"]) = .ok group
        ∧ (∀ context, lexicalRetention.judge group.words context
            (.map (kinshipParams "putra" "duhita")) = .ok (.selected ⟨[0], [1]⟩ .one))
        ∧ hasMinimum? group.words (.map (kinshipParams "putra" "duhita")) = .ok true
        ∧ Fires group.words (kinshipPair "putra" "duhita") :=
    ⟨_, rfl, fun context => rfl, rfl, ⟨_, .head _, rfl⟩, _, .tail _ (.head _), rfl⟩
  refine ⟨group, hread, fun context => ⟨hjudged context, ?_⟩⟩
  have hgiven : Entries.get? (kinshipParams "putra" "duhita") "pairs" =
      some (.list [kinshipPair "putra" "duhita"]) := rfl
  have h := listed_pairs_settle hread hgiven
    (isPairs_kinshipPair ⟨'p', by decide, rfl⟩ ⟨'d', by decide, rfl⟩) context
  have hthrough := h.1.mpr ⟨henough, _, List.mem_singleton_self _, hfires⟩
  exact (h.2 _ _ (hjudged context) hthrough.2).1

/-- The earlier of two sons neither stays nor falls away, and of a word that is on both sides
of a pair nothing falls away. -/
theorem listed_pairs_pass_over :
    (∃ group, WordGroup.read (Datum.ofStrings ["putra", "putra", "duhita"]) = .ok group
      ∧ (∀ context, lexicalRetention.judge group.words context
            (.map (kinshipParams "putra" "duhita")) = .ok (.selected ⟨[1], [2]⟩ .one))
      ∧ ¬GoesByFlag group.words (.map (kinshipParams "putra" "duhita"))
      ∧ ∃ word, IsInvolved [kinshipPair "putra" "duhita"] group.words "retain" word
        ∧ word.position = 0)
    ∧ ∃ group, WordGroup.read (.list [.map [(.text "surface", .text "putra"),
          (.text "lemma", .text "duhita")], .text "rama"]) = .ok group
      ∧ (∀ context, lexicalRetention.judge group.words context
            (.map (kinshipParams "putra" "duhita")) = .ok (.selected ⟨[0], []⟩ .one))
      ∧ ¬GoesByFlag group.words (.map (kinshipParams "putra" "duhita")) := by
  have hform : Form.IsPairs (.list [kinshipPair "putra" "duhita"]) :=
    isPairs_kinshipPair ⟨'p', by decide, rfl⟩ ⟨'d', by decide, rfl⟩
  have hthrough : ∀ {words}, Placed words → Fires words (kinshipPair "putra" "duhita") →
      ¬GoesByFlag words (.map (kinshipParams "putra" "duhita")) := by
    intro words hplaced hfires
    rw [goesByFlag_iff hplaced rfl hform, not_not]
    exact ⟨_, List.mem_singleton_self _, hfires⟩
  constructor
  · refine ⟨_, rfl, fun context => rfl, hthrough rfl ?fires, _,
      ⟨.head _, _, List.mem_singleton_self _, ?fires, rfl⟩, rfl⟩
    case fires => exact ⟨⟨_, .head _, rfl⟩, _, .tail _ (.tail _ (.head _)), rfl⟩
  · refine ⟨_, rfl, fun context => rfl, hthrough rfl ?_⟩
    exact ⟨⟨_, .head _, rfl⟩, _, .head _, rfl⟩

end SutraArbiter.Strategy
