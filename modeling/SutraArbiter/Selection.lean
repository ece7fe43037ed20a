import SutraArbiter.Word.Basic

namespace SutraArbiter

/-! Which words stay and which fall away.  Positions stand in ascending order,
each once, and a word that stays does not fall away. -/

namespace Selection

def place (i : Int) : List Int → List Int
  | [] => [i]
  | j :: rest =>
      if i < j then i :: j :: rest
      else if i = j then j :: rest
      else j :: place i rest

def ascending (positions : List Int) : List Int :=
  positions.foldr place []

theorem mem_place {i j : Int} {positions : List Int} :
    i ∈ place j positions ↔ i = j ∨ i ∈ positions := by
  induction positions with
  | nil => simp [place]
  | cons k rest ih =>
      simp only [place]
      split
      · simp
      · split
        · rename_i h
          simp [h]
        · simp only [List.mem_cons, ih]
          exact or_left_comm

theorem pairwise_place {j : Int} {positions : List Int}
    (h : positions.Pairwise (· < ·)) : (place j positions).Pairwise (· < ·) := by
  induction positions with
  | nil => simp [place]
  | cons k rest ih =>
      obtain ⟨hk, hrest⟩ := List.pairwise_cons.mp h
      simp only [place]
      split
      · rename_i hlt
        refine List.pairwise_cons.mpr ⟨fun m hm => ?_, h⟩
        rcases List.mem_cons.mp hm with rfl | hm
        · exact hlt
        · exact Int.lt_trans hlt (hk m hm)
      · split
        · exact h
        · refine List.pairwise_cons.mpr ⟨fun m hm => ?_, ih hrest⟩
          rcases mem_place.mp hm with rfl | hm
          · omega
          · exact hk m hm

@[simp] theorem mem_ascending {i : Int} {positions : List Int} :
    i ∈ ascending positions ↔ i ∈ positions := by
  induction positions with
  | nil => simp [ascending]
  | cons j rest ih =>
      have : ascending (j :: rest) = place j (ascending rest) := rfl
      simp [this, mem_place, ih]

theorem pairwise_ascending (positions : List Int) :
    (ascending positions).Pairwise (· < ·) := by
  induction positions with
  | nil => exact List.Pairwise.nil
  | cons j rest ih => exact pairwise_place ih

end Selection

structure Selection where
  retain : List Int
  drop : List Int
  deriving DecidableEq

namespace Selection

def ofPositions (retain drop : List Int) : Selection :=
  ⟨ascending retain, ascending (drop.filter fun i => !retain.contains i)⟩

theorem mem_retain_ofPositions {i : Int} {retain drop : List Int} :
    i ∈ (ofPositions retain drop).retain ↔ i ∈ retain := by
  simp [ofPositions]

theorem mem_drop_ofPositions {i : Int} {retain drop : List Int} :
    i ∈ (ofPositions retain drop).drop ↔ i ∈ drop ∧ i ∉ retain := by
  simp [ofPositions]

def toEntries (selection : Selection) : Entries :=
  [(.text "retain", .tuple (selection.retain.map .int)),
    (.text "drop", .tuple (selection.drop.map .int))]

end Selection

def Word.position (word : Word) : Int :=
  word.index

def positions (words : List Word) : List Int :=
  words.map Word.position

/-- Counterparts together, in the order in which their groups first appear. -/
def groupsOf (words : List Word) : List (List Word) :=
  let keyed := words.map fun word => (word.groupKey, word)
  (keyed.map Prod.fst).eraseDups.map fun key =>
    (keyed.filter fun entry => entry.1 = key).map Prod.snd

end SutraArbiter
