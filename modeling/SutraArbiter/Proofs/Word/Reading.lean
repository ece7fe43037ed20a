import SutraArbiter.Proofs.Criteria
import SutraArbiter.Proofs.Flags
import SutraArbiter.Word.Group

namespace SutraArbiter

namespace Word

def unplaced (word : Word) : Word :=
  { word with index := 0 }

def placedAt (index : Nat) (word : Word) : Word :=
  { word with index }

@[simp] theorem unplaced_placedAt (index : Nat) (word : Word) :
    (word.placedAt index).unplaced = word.unplaced := rfl

end Word

/-- A word that was read, and the script of its surface. -/
abbrev Reading := Word × Option Script

namespace Reading

def placedFrom (start : Nat) : List Reading → List Reading
  | [] => []
  | (word, script) :: rest => (word.placedAt start, script) :: placedFrom (start + 1) rest

theorem scripts_placedFrom (start : Nat) (readings : List Reading) :
    (placedFrom start readings).map Prod.snd = readings.map Prod.snd := by
  induction readings generalizing start with
  | nil => rfl
  | cons reading rest ih => simp [placedFrom, ih]

theorem unplaced_placedFrom (start : Nat) (readings : List Reading) :
    (placedFrom start readings).map (fun reading => reading.1.unplaced) =
      readings.map fun reading => reading.1.unplaced := by
  induction readings generalizing start with
  | nil => rfl
  | cons reading rest ih => simp [placedFrom, ih]

theorem length_placedFrom (start : Nat) (readings : List Reading) :
    (placedFrom start readings).length = readings.length := by
  induction readings generalizing start with
  | nil => rfl
  | cons reading rest ih => simp [placedFrom, ih]

theorem index_placedFrom (start : Nat) (readings : List Reading) :
    (placedFrom start readings).map (fun reading => reading.1.index) =
      List.range' start readings.length := by
  induction readings generalizing start with
  | nil => rfl
  | cons reading rest ih => simp [placedFrom, ih, List.range'_succ, Word.placedAt]

end Reading

theorem readWord_eq_ok {index : Nat} {item : Datum} {reading : Reading}
    (h : readWord index item = .ok reading) (other : Nat) :
    readWord other item = .ok (reading.1.placedAt other, reading.2) := by
  unfold readWord at h ⊢
  obtain ⟨given, hgiven, h⟩ := bind_eq_ok.mp h
  have hsame : readParticulars other item = .ok given := by
    unfold readParticulars at hgiven ⊢
    split at hgiven
    · exact hgiven
    · exact hgiven
    · cases hgiven
  rw [hsame, ok_bind]
  obtain ⟨script, hscript, h⟩ := bind_eq_ok.mp h
  rw [hscript, ok_bind]
  have hbuild : Word.build other given = (Word.build index given).map (Word.placedAt other) := by
    unfold Word.build
    cases given.text? .surface <;> try rfl
    cases given.text? .headword <;> try rfl
    cases given.text? .base <;> try rfl
    cases given.text? .caseName <;> try rfl
    cases given.text? .gender <;> try rfl
    cases given.text? .category <;> rfl
  rw [hbuild]
  cases hword : Word.build index given with
  | error fault =>
      rw [hword] at h
      cases h
  | ok word =>
      rw [hword] at h
      cases h
      rfl

theorem readWords_eq_ok {start : Nat} {items : List Datum} {readings : List Reading} :
    readWords start items = .ok readings ↔
      ∃ unplaced, items.mapM (readWord 0) = .ok unplaced
        ∧ readings = Reading.placedFrom start unplaced := by
  induction items generalizing start readings with
  | nil =>
      constructor
      · intro h
        cases h
        exact ⟨[], rfl, rfl⟩
      · rintro ⟨unplaced, h, rfl⟩
        cases h
        rfl
  | cons item rest ih =>
      rw [readWords]
      constructor
      · intro h
        obtain ⟨reading, hreading, h⟩ := bind_eq_ok.mp h
        obtain ⟨others, hothers, h⟩ := bind_eq_ok.mp h
        cases h
        obtain ⟨unplaced, hunplaced, rfl⟩ := ih.mp hothers
        have hself := readWord_eq_ok hreading start
        rw [hreading] at hself
        refine ⟨(reading.1.placedAt 0, reading.2) :: unplaced, ?_, ?_⟩
        · rw [List.mapM_cons, readWord_eq_ok hreading 0, hunplaced]
          rfl
        · rw [Reading.placedFrom]
          exact congrArg (· :: _) (Except.ok.inj hself)
      · rintro ⟨unplaced, h, rfl⟩
        rw [List.mapM_cons] at h
        obtain ⟨reading, hreading, h⟩ := bind_eq_ok.mp h
        obtain ⟨others, hothers, h⟩ := bind_eq_ok.mp h
        cases h
        rw [readWord_eq_ok hreading start, ok_bind, ih.mpr ⟨others, hothers, rfl⟩]
        rfl

theorem eraseDups_eq_singleton {α : Type} [BEq α] [LawfulBEq α] {items : List α} {x : α} :
    items.eraseDups = [x] ↔ x ∈ items ∧ ∀ y ∈ items, y = x := by
  constructor
  · intro h
    have hmem : ∀ y, y ∈ items ↔ y = x := by
      intro y
      rw [← List.mem_eraseDups, h, List.mem_singleton]
    exact ⟨(hmem x).mpr rfl, fun y hy => (hmem y).mp hy⟩
  · rintro ⟨hx, hall⟩
    cases items with
    | nil => cases hx
    | cons first rest =>
        have hfirst := hall first List.mem_cons_self
        have hrest : rest.filter (fun y => !y == first) = [] := by
          apply List.filter_eq_nil_iff.mpr
          intro y hy
          rw [hall y (List.mem_cons_of_mem _ hy), hfirst]
          simp
        rw [List.eraseDups_cons, hrest, hfirst]
        rfl

theorem commonScript?_eq_some {scripts : List (Option Script)} {script : Script} :
    commonScript? scripts = some script ↔
      some script ∈ scripts ∧ ∀ other, some other ∈ scripts → other = script := by
  have hmem : ∀ other, other ∈ scripts.filterMap id ↔ some other ∈ scripts := by
    simp [List.mem_filterMap]
  rw [← hmem, forall_congr' fun other => imp_congr_left (hmem other).symm,
    ← eraseDups_eq_singleton]
  unfold commonScript?
  split
  · rename_i found hfound
    rw [hfound, Option.some.injEq, List.cons.injEq, and_iff_left rfl]
  · rename_i hmany
    constructor
    · intro h
      cases h
    · intro h
      exact absurd h (hmany script)

theorem commonScript?_perm {scripts others : List (Option Script)} (h : scripts.Perm others) :
    commonScript? scripts = commonScript? others := by
  apply Option.ext
  intro script
  rw [commonScript?_eq_some, commonScript?_eq_some, h.mem_iff]
  simp only [h.mem_iff]

namespace WordGroup

variable {raw : Datum} {items : List Datum} {group : WordGroup}

theorem read_eq_ok (hitems : WordGroup.items raw = .ok items) :
    WordGroup.read raw = .ok group ↔
      items ≠ [] ∧ ∃ readings, items.mapM (readWord 0) = .ok readings
        ∧ group = ⟨(Reading.placedFrom 0 readings).map Prod.fst,
            commonScript? (readings.map Prod.snd)⟩ := by
  unfold WordGroup.read
  rw [hitems, ok_bind]
  cases items with
  | nil => simp
  | cons item rest =>
      simp only [List.isEmpty_cons, Bool.false_eq_true, if_false, bind_eq_ok, ne_eq,
        reduceCtorEq, not_false_eq_true, true_and, readWords_eq_ok]
      constructor
      · rintro ⟨words, ⟨readings, hreadings, rfl⟩, h⟩
        cases h
        exact ⟨readings, hreadings, by rw [Reading.scripts_placedFrom]⟩
      · rintro ⟨readings, hreadings, rfl⟩
        refine ⟨_, ⟨readings, hreadings, rfl⟩, ?_⟩
        rw [Reading.scripts_placedFrom]
        rfl

end WordGroup

theorem Particulars.flags_read {given result : Particulars} {entries : Entries}
    (hentries : ∀ entry ∈ entries, entry.2.isOverlong = false)
    (hgiven : ∀ key, (given.flags.value key).isOverlong = false)
    (h : given.read entries = .ok result) :
    ∀ key, (result.flags.value key).isOverlong = false := by
  induction entries generalizing given with
  | nil =>
      cases h
      exact hgiven
  | cons entry rest ih =>
      obtain ⟨key, datum⟩ := entry
      obtain ⟨hdatum, hrest⟩ := List.forall_mem_cons.mp hentries
      obtain ⟨name, -, h⟩ := bind_eq_ok.mp h
      refine ih hrest (fun other => ?_) h
      unfold Particulars.take
      split
      · dsimp only
        rw [Flags.value_put]
        split
        · exact hdatum
        · exact hgiven other
      · split <;> exact hgiven other

theorem readParticulars_flags {index : Nat} {item : Datum} {given : Particulars}
    (hitem : item.isOverlong = false) (h : readParticulars index item = .ok given) :
    ∀ key, (given.flags.value key).isOverlong = false := by
  unfold readParticulars at h
  split at h
  · cases h
    exact fun key => rfl
  · rename_i entries
    split at h
    · rename_i result hread
      cases h
      have hentries := Datum.isOverlong_map_eq_false.mp hitem
      exact Particulars.flags_read (fun entry hentry => (hentries entry hentry).2)
        (fun key => rfl) hread
    · cases h
  · cases h

theorem Word.isClear_of_flags {word : Word}
    (h : ∀ key, (word.flags.value key).isOverlong = false) : word.IsClear := by
  intro key
  unfold Word.value
  split
  · split
    · rfl
    · exact Datum.isOverlong_text _
  · exact h key

theorem Word.build_flags {index : Nat} {given : Particulars} {word : Word}
    (h : Word.build index given = .ok word) : word.flags = given.flags := by
  simp only [Word.build, bind_eq_ok] at h
  obtain ⟨_, -, _, -, _, -, _, -, _, -, _, -, h⟩ := h
  cases h
  rfl

theorem readWord_isClear {index : Nat} {item : Datum} {reading : Reading}
    (hitem : item.isOverlong = false) (h : readWord index item = .ok reading) :
    reading.1.IsClear := by
  obtain ⟨given, hgiven, h⟩ := bind_eq_ok.mp h
  obtain ⟨script, -, h⟩ := bind_eq_ok.mp h
  refine Word.isClear_of_flags ?_
  split at h
  · rename_i word hword
    cases h
    rw [Word.build_flags hword]
    exact readParticulars_flags hitem hgiven
  · cases h

end SutraArbiter
