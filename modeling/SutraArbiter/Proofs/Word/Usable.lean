import SutraArbiter.Proofs.Text.Tokens
import SutraArbiter.Proofs.Word.Alike
import SutraArbiter.Proofs.Word.Attributes

namespace SutraArbiter

/-! Which input can be used, what the words of a group that is read from it are, and
for what it is rejected otherwise. -/

/-- The items of input: the words of a text, or those of a sequence. -/
def Datum.givenItems? : Datum → Option (List Datum)
  | .text raw => some ((Text.cut raw.toList).map fun token => .text (String.ofList token))
  | .list items => some items
  | .tuple items => some items
  | _ => none

/-- What an item gives as its surface: a text itself, a record under a name of it. -/
def Datum.surface? : Datum → Option Datum
  | .text surface => some (.text surface)
  | .map entries => Entries.attribute? entries .surface
  | _ => none

/-- Some text that is written in one of the scripts. -/
def Datum.IsSurface (given : Datum) : Prop :=
  ∃ text, given = .text text ∧ Text.isBlankString text = false ∧ Script.ofString text ≠ .unknown

/-- Why a datum is no surface. -/
inductive Datum.IsNoSurface : Datum → InputError → Prop
  | kind {given : Datum} (no_text : given.isText = false) : IsNoSurface given .wrongType
  | blank {text : String} (blank : Text.isBlankString text = true) :
      IsNoSurface (.text text) .empty
  | script {text : String} (shown : Text.isBlankString text = false)
      (unknown : Script.ofString text = .unknown) : IsNoSurface (.text text) .unknownScript

/-- A text or a record, with a surface or without any. -/
structure Datum.IsUsable (item : Datum) : Prop where
  shape : item.isText = true ∨ item.isMap = true
  surface : ∀ given, item.surface? = some given → given.IsSurface

/-- Why an item cannot be used. -/
inductive Datum.Offends (item : Datum) : InputError → Prop
  | shape (no_text : item.isText = false) (no_map : item.isMap = false) : Offends item .wrongType
  | surface {given : Datum} {error : InputError} (at_surface : item.surface? = some given)
      (no_surface : given.IsNoSurface error) : Offends item error

/-- There is some item, and each can be used. -/
def Datum.IsInput (raw : Datum) : Prop :=
  ∃ items, raw.givenItems? = some items ∧ items ≠ [] ∧ ∀ item ∈ items, item.IsUsable

/-- Why input is rejected: for what it is itself, or for its first item that cannot be
used. -/
inductive Datum.RejectedFor (raw : Datum) : InputError → Prop
  | kind (no_items : raw.givenItems? = none) : RejectedFor raw .wrongType
  | empty (no_item : raw.givenItems? = some []) : RejectedFor raw .empty
  | item {before after : List Datum} {item : Datum} {error : InputError}
      (given : raw.givenItems? = some (before ++ item :: after))
      (usable : ∀ other ∈ before, other.IsUsable) (offends : item.Offends error) :
      RejectedFor raw error

/-- The words of the group are read from the items, one from each. -/
structure WordGroup.Holds (group : WordGroup) (items : List Datum) : Prop where
  length : group.words.length = items.length
  index : ∀ (i : Nat) (word : Word), group.words[i]? = some word → word.index = i
  surface : ∀ (i : Nat) (word : Word) (item : Datum), group.words[i]? = some word →
    items[i]? = some item →
      (∀ text, item.surface? = some (.text text) → word.surface = Text.trimString text)
        ∧ (item.surface? = none → word.surface = "")
  flags : ∀ word ∈ group.words, ∀ field : Field, ∀ name ∈ field.names,
    word.flags.get? name = none
  script : ∀ script, group.script = some script ↔
    (∃ item ∈ items, item.surface? ≠ none)
      ∧ ∀ item ∈ items, ∀ text, item.surface? = some (.text text) →
          Script.ofString text = script

theorem checkSurface_eq_ok {given : Datum} {script : Script} :
    checkSurface given = .ok script ↔
      ∃ text, given = .text text ∧ Text.isBlankString text = false
        ∧ Script.ofString text = script ∧ script ≠ .unknown := by
  cases given with
  | text text =>
      simp only [checkSurface, Datum.text.injEq, exists_eq_left']
      cases hblank : Text.isBlankString text with
      | true => simp
      | false =>
          cases hscript : Script.ofString text <;> cases script <;> simp
  | _ => simp [checkSurface]

theorem checkSurface_eq_error {given : Datum} {rejection : Rejection}
    (h : checkSurface given = .error rejection) : given.IsNoSurface rejection.error := by
  cases given with
  | text text =>
      unfold checkSurface at h
      dsimp only at h
      split at h
      · rename_i hblank
        cases h
        exact .blank hblank
      · rename_i hshown
        split at h
        · rename_i hunknown
          cases h
          exact .script (by simpa using hshown) hunknown
        · cases h
  | _ =>
      cases h
      exact .kind rfl

namespace Datum

variable {given item raw : Datum} {error other : InputError}

theorem IsNoSurface.not_isSurface (h : given.IsNoSurface error) : ¬given.IsSurface := by
  rintro ⟨text, rfl, hshown, hknown⟩
  cases h with
  | kind no_text => cases no_text
  | blank blank => simp [blank] at hshown
  | script _ unknown => exact hknown unknown

theorem IsNoSurface.unique (h : given.IsNoSurface error) (hother : given.IsNoSurface other) :
    error = other := by
  cases h <;> cases hother <;> simp_all [isText]

theorem surface?_eq_none (htext : item.isText = false) (hmap : item.isMap = false) :
    item.surface? = none := by
  cases item <;> simp_all [surface?, isText, isMap]

theorem Offends.not_isUsable (h : item.Offends error) : ¬item.IsUsable := by
  rintro ⟨hshape, hsurface⟩
  cases h with
  | shape no_text no_map => simp [no_text, no_map] at hshape
  | surface at_surface no_surface => exact no_surface.not_isSurface (hsurface _ at_surface)

theorem Offends.unique (h : item.Offends error) (hother : item.Offends other) : error = other := by
  cases h with
  | shape no_text no_map =>
      cases hother with
      | shape _ _ => rfl
      | surface at_surface _ => simp [surface?_eq_none no_text no_map] at at_surface
  | surface at_surface no_surface =>
      cases hother with
      | shape no_text no_map => simp [surface?_eq_none no_text no_map] at at_surface
      | surface at_other no_other =>
          rw [at_surface, Option.some.injEq] at at_other
          subst at_other
          exact no_surface.unique no_other

end Datum

theorem readParticulars_given {index : Nat} {item : Datum} {given : Particulars}
    (h : readParticulars index item = .ok given) :
    (item.isText = true ∨ item.isMap = true)
      ∧ given.fields.lookup .surface = item.surface?
      ∧ ∀ field : Field, ∀ name ∈ field.names, given.flags.get? name = none := by
  rcases readParticulars_eq_ok.mp h with ⟨surface, rfl, rfl⟩ | ⟨entries, rfl, hread⟩
  · exact ⟨.inl rfl, rfl, fun _ _ _ => rfl⟩
  · refine ⟨.inr rfl, ?_, fun field name hname => ?_⟩
    · rw [Particulars.lookup_read hread]
      rfl
    · rw [Particulars.get?_flags_read hname hread]
      rfl

theorem readParticulars_eq_rejected {index : Nat} {item : Datum} {rejection : Rejection}
    (h : readParticulars index item = .error (.rejected rejection)) :
    item.Offends rejection.error := by
  cases item with
  | text surface => cases h
  | map entries =>
      unfold readParticulars at h
      dsimp only at h
      split at h <;> cases h
  | _ =>
      cases h
      exact .shape rfl rfl

theorem Particulars.script?_of_none {given : Particulars}
    (h : given.fields.lookup .surface = none) : given.script? = .ok none := by
  simp [script?, h]

theorem Particulars.script?_of_some {given : Particulars} {datum : Datum}
    (h : given.fields.lookup .surface = some datum) :
    given.script? = ((checkSurface datum).map some).mapError .rejected := by
  simp only [script?, h]
  cases checkSurface datum <;> rfl

/-- The word and the script that are read from an item. -/
structure Reading.Shows (reading : Reading) (item : Datum) : Prop where
  given : ∀ text, item.surface? = some (.text text) →
    reading.1.surface = Text.trimString text ∧ reading.2 = some (Script.ofString text)
  absent : item.surface? = none → reading.1.surface = "" ∧ reading.2 = none
  flags : ∀ field : Field, ∀ name ∈ field.names, reading.1.flags.get? name = none

section

variable {index start : Nat} {item : Datum} {items : List Datum} {reading : Reading}
  {error : InputError}

theorem readWord_shows (h : readWord index item = .ok reading) :
    item.IsUsable ∧ reading.Shows item := by
  obtain ⟨given, hgiven, h⟩ := bind_eq_ok.mp h
  obtain ⟨script, hscript, h⟩ := bind_eq_ok.mp h
  obtain ⟨hshape, hlookup, hflags⟩ := readParticulars_given hgiven
  split at h
  · rename_i word hword
    cases h
    obtain ⟨text, htext, hsurface⟩ := Word.field_build hword .surface
    have hkept : ∀ field : Field, ∀ name ∈ field.names, word.flags.get? name = none := by
      rw [Word.build_flags hword]
      exact hflags
    cases hitem : item.surface? with
    | none =>
        rw [hitem] at hlookup
        rw [Particulars.text?_of_none hlookup, Except.ok.injEq] at htext
        rw [Particulars.script?_of_none hlookup, Except.ok.injEq] at hscript
        subst htext hscript
        exact ⟨⟨hshape, by simp [hitem]⟩, by simp [hitem], fun _ => ⟨hsurface, rfl⟩, hkept⟩
    | some datum =>
        rw [hitem] at hlookup
        rw [Particulars.script?_of_some hlookup, mapError_eq_ok] at hscript
        cases hcheck : checkSurface datum with
        | error rejection =>
            rw [hcheck] at hscript
            cases hscript
        | ok known =>
            rw [hcheck] at hscript
            cases hscript
            obtain ⟨given, rfl, hshown, rfl, hknown⟩ := checkSurface_eq_ok.mp hcheck
            rw [Particulars.text?_of_text hlookup, Except.ok.injEq] at htext
            subst htext
            refine ⟨⟨hshape, ?_⟩, ?_, by simp [hitem], hkept⟩
            · rintro _ hdatum
              rw [hitem, Option.some.injEq] at hdatum
              exact ⟨given, hdatum.symm, hshown, hknown⟩
            · rintro _ hdatum
              rw [hitem, Option.some.injEq, Datum.text.injEq] at hdatum
              exact hdatum ▸ ⟨hsurface, rfl⟩
  · cases h

theorem readWord_offends {rejection : Rejection}
    (h : readWord index item = .error (.rejected rejection)) : item.Offends rejection.error := by
  rcases bind_eq_error.mp h with h | ⟨given, hgiven, h⟩
  · exact readParticulars_eq_rejected h
  · obtain ⟨-, hlookup, -⟩ := readParticulars_given hgiven
    rcases bind_eq_error.mp h with h | ⟨script, -, h⟩
    · cases hitem : item.surface? with
      | none =>
          rw [Particulars.script?_of_none (hlookup.trans hitem)] at h
          cases h
      | some datum =>
          rw [Particulars.script?_of_some (hlookup.trans hitem)] at h
          cases hcheck : checkSurface datum with
          | ok script =>
              rw [hcheck] at h
              cases h
          | error refused =>
              rw [hcheck] at h
              cases h
              exact .surface hitem (checkSurface_eq_error hcheck)
    · split at h <;> cases h

/-- What can be written out does not break off the reading. -/
theorem readWord_ne_fault (index : Nat) (hclear : item.isOverlong = false) (fault : Fault) :
    readWord index item ≠ .error (.fault fault) := by
  intro h
  obtain ⟨-, entries, rfl, hbreaks⟩ := readWord_eq_fault.mp h
  have hentries := Datum.isOverlong_map_eq_false.mp hclear
  rcases hbreaks with ⟨entry, hentry, hkey⟩ | ⟨given, -, field, datum, hgiven, -, hdatum, hlong⟩
  · rw [(hentries entry hentry).1] at hkey
    cases hkey
  · rw [Particulars.lookup_read hgiven] at hdatum
    obtain ⟨key, hmem⟩ := Entries.mem_of_attribute? hdatum
    rw [(hentries _ hmem).2] at hlong
    cases hlong

theorem exists_readWord_iff (index : Nat) (hclear : item.isOverlong = false) :
    (∃ reading, readWord index item = .ok reading) ↔ item.IsUsable := by
  constructor
  · rintro ⟨reading, h⟩
    exact (readWord_shows h).1
  · intro husable
    cases h : readWord index item with
    | ok reading => exact ⟨reading, rfl⟩
    | error failure =>
        cases failure with
        | rejected rejection => exact absurd husable (readWord_offends h).not_isUsable
        | fault fault => exact absurd h (readWord_ne_fault index hclear fault)

theorem readWord_rejects_iff (index : Nat) (hclear : item.isOverlong = false) :
    (∃ rejection, readWord index item = .error (.rejected rejection)
      ∧ rejection.error = error) ↔ item.Offends error := by
  constructor
  · rintro ⟨rejection, h, rfl⟩
    exact readWord_offends h
  · intro hoffends
    cases h : readWord index item with
    | ok reading => exact absurd (readWord_shows h).1 hoffends.not_isUsable
    | error failure =>
        cases failure with
        | rejected rejection => exact ⟨rejection, rfl, (readWord_offends h).unique hoffends⟩
        | fault fault => exact absurd h (readWord_ne_fault index hclear fault)

theorem readWords_rejects_iff (hclear : ∀ item ∈ items, item.isOverlong = false) :
    (∃ rejection, readWords start items = .error (.rejected rejection)
      ∧ rejection.error = error) ↔
      ∃ before item after, items = before ++ item :: after
        ∧ (∀ other ∈ before, other.IsUsable) ∧ item.Offends error := by
  induction items generalizing start with
  | nil => simp [readWords]
  | cons item rest ih =>
      obtain ⟨hitem, hrest⟩ := List.forall_mem_cons.mp hclear
      rw [exists_split_cons_iff, ← @ih (start + 1) hrest,
        ← readWord_rejects_iff start hitem,
        ← exists_readWord_iff start hitem]
      rw [readWords]
      cases h : readWord start item with
      | error failure => simp
      | ok reading =>
          cases readWords (start + 1) rest <;> simp [pure, Except.pure]

end

theorem Reading.getElem?_placedFrom (start i : Nat) (readings : List Reading) :
    (placedFrom start readings)[i]? =
      readings[i]?.map fun reading => (reading.1.placedAt (start + i), reading.2) := by
  induction readings generalizing start i with
  | nil => rfl
  | cons reading rest ih =>
      cases i with
      | zero => rfl
      | succ i => simp [placedFrom, ih, Nat.add_comm 1 i, Nat.add_assoc]

section

variable {index : Nat} {items : List Datum} {readings : List Reading} {script : Script}

theorem mem_scripts_of_readings (h : items.mapM (readWord index) = .ok readings) :
    some script ∈ readings.map Prod.snd ↔
      ∃ item ∈ items, ∃ text, item.surface? = some (.text text)
        ∧ Script.ofString text = script := by
  rw [List.mem_map]
  constructor
  · rintro ⟨reading, hreading, hscript⟩
    obtain ⟨item, hitem, hreads⟩ := mem_mapM h hreading
    obtain ⟨husable, hshows⟩ := readWord_shows hreads
    cases hsurface : item.surface? with
    | none =>
        rw [(hshows.absent hsurface).2] at hscript
        cases hscript
    | some given =>
        obtain ⟨text, rfl, -, -⟩ := husable.surface given hsurface
        rw [(hshows.given text hsurface).2, Option.some.injEq] at hscript
        exact ⟨item, hitem, text, hsurface, hscript⟩
  · rintro ⟨item, hitem, text, hsurface, rfl⟩
    obtain ⟨reading, hreading, hreads⟩ := exists_of_forall₂ (mapM_eq_ok_iff.mp h) item hitem
    exact ⟨reading, hreading, ((readWord_shows hreads).2.given text hsurface).2⟩

theorem commonScript?_of_readings (h : items.mapM (readWord index) = .ok readings) :
    commonScript? (readings.map Prod.snd) = some script ↔
      (∃ item ∈ items, item.surface? ≠ none)
        ∧ ∀ item ∈ items, ∀ text, item.surface? = some (.text text) →
            Script.ofString text = script := by
  have husable : ∀ item ∈ items, item.IsUsable := fun item hitem => by
    obtain ⟨reading, hreads⟩ := exists_mapM_iff.mp ⟨readings, h⟩ item hitem
    exact (readWord_shows hreads).1
  simp only [commonScript?_eq_some, mem_scripts_of_readings h]
  constructor
  · rintro ⟨⟨item, hitem, text, hsurface, -⟩, hall⟩
    refine ⟨⟨item, hitem, by simp [hsurface]⟩, fun other hother text htext => ?_⟩
    exact hall _ ⟨other, hother, text, htext, rfl⟩
  · rintro ⟨⟨item, hitem, hsome⟩, hall⟩
    obtain ⟨given, hgiven⟩ := Option.ne_none_iff_exists'.mp hsome
    obtain ⟨text, rfl, -, -⟩ := (husable item hitem).surface given hgiven
    refine ⟨⟨item, hitem, text, hgiven, hall item hitem text hgiven⟩, ?_⟩
    rintro other ⟨another, hanother, text, htext, rfl⟩
    exact hall another hanother text htext

end

namespace WordGroup

variable {raw : Datum} {items : List Datum} {group : WordGroup}

theorem items_eq_ok : WordGroup.items raw = .ok items ↔ raw.givenItems? = some items := by
  cases raw with
  | text raw => simp [WordGroup.items, Datum.givenItems?, Text.tokens_eq_cut]
  | _ => simp [WordGroup.items, Datum.givenItems?]

theorem items_eq_error (h : raw.givenItems? = none) :
    ∃ rejection, WordGroup.items raw = .error (.rejected rejection)
      ∧ rejection.error = .wrongType := by
  cases raw with
  | text _ | list _ | tuple _ => cases h
  | _ => exact ⟨_, rfl, rfl⟩

theorem holds_of_read (hitems : WordGroup.items raw = .ok items)
    (h : WordGroup.read raw = .ok group) : group.Holds items := by
  obtain ⟨-, readings, hreadings, rfl⟩ := (read_eq_ok hitems).mp h
  have hword : ∀ (i : Nat) (word : Word),
      ((Reading.placedFrom 0 readings).map Prod.fst)[i]? = some word →
        ∃ reading, readings[i]? = some reading ∧ word = reading.1.placedAt i := by
    intro i word hword
    rw [List.getElem?_map, Reading.getElem?_placedFrom, Option.map_map, Option.map_eq_some_iff]
      at hword
    obtain ⟨reading, hreading, rfl⟩ := hword
    exact ⟨reading, hreading, by simp⟩
  constructor
  case length => simp [Reading.length_placedFrom, length_of_mapM hreadings]
  case index =>
    intro i word h
    obtain ⟨reading, -, rfl⟩ := hword i word h
    rfl
  case surface =>
    intro i word item h hitem
    obtain ⟨reading, hreading, rfl⟩ := hword i word h
    obtain ⟨hi, rfl⟩ := List.getElem?_eq_some_iff.mp hitem
    obtain ⟨hj, rfl⟩ := List.getElem?_eq_some_iff.mp hreading
    obtain ⟨-, hshows⟩ := readWord_shows ((mapM_eq_ok_iff.mp hreadings).get hi hj)
    exact ⟨fun text htext => (hshows.given text htext).1, fun hnone => (hshows.absent hnone).1⟩
  case flags =>
    intro word h
    obtain ⟨i, hi⟩ := List.mem_iff_getElem?.mp h
    obtain ⟨reading, hreading, rfl⟩ := hword i word hi
    obtain ⟨item, -, hreads⟩ := mem_mapM hreadings (List.mem_of_getElem? hreading)
    exact (readWord_shows hreads).2.flags
  case script => exact fun script => commonScript?_of_readings hreadings

theorem exists_read_iff_isInput (hclear : raw.isOverlong = false) :
    (∃ group, WordGroup.read raw = .ok group) ↔ raw.IsInput := by
  constructor
  · rintro ⟨group, h⟩
    obtain ⟨items, hitems⟩ := exists_items h
    obtain ⟨hsome, readings, hreadings, -⟩ := (read_eq_ok hitems).mp h
    refine ⟨items, items_eq_ok.mp hitems, hsome, fun item hitem => ?_⟩
    obtain ⟨reading, hreading⟩ := exists_mapM_iff.mp ⟨readings, hreadings⟩ item hitem
    exact (readWord_shows hreading).1
  · rintro ⟨items, hgiven, hsome, husable⟩
    have hitems := items_eq_ok.mpr hgiven
    have hitemsClear := isOverlong_of_items hclear hitems
    obtain ⟨readings, hreadings⟩ := exists_mapM_iff.mpr fun item hitem =>
      (exists_readWord_iff 0 (hitemsClear item hitem)).mpr (husable item hitem)
    exact ⟨_, (read_eq_ok hitems).mpr ⟨hsome, readings, hreadings, rfl⟩⟩

theorem read_ne_fault (hclear : raw.isOverlong = false) (fault : Fault) :
    WordGroup.read raw ≠ .error (.fault fault) := by
  intro h
  obtain ⟨items, hitems, h⟩ := read_eq_fault_iff_readWords.mp h
  obtain ⟨rfl, before, entries, after, rfl, -, hbreaks⟩ := readWords_eq_fault.mp h
  have hrecord : (Datum.map entries).isOverlong = false :=
    isOverlong_of_items hclear hitems _ (by simp)
  exact readWord_ne_fault 0 hrecord _ (readWord_eq_fault.mpr ⟨rfl, entries, rfl, hbreaks⟩)

theorem read_rejects_iff (hclear : raw.isOverlong = false) {error : InputError} :
    (∃ rejection, WordGroup.read raw = .error (.rejected rejection)
      ∧ rejection.error = error) ↔ raw.RejectedFor error := by
  cases hgiven : raw.givenItems? with
  | none =>
      obtain ⟨rejection, hitems, herror⟩ := items_eq_error hgiven
      have hread : WordGroup.read raw = .error (.rejected rejection) := by
        rw [WordGroup.read, hitems, error_bind]
      constructor
      · rintro ⟨other, h, rfl⟩
        rw [hread, Except.error.injEq, Unusable.rejected.injEq] at h
        rw [← h, herror]
        exact .kind hgiven
      · rintro (_ | h | ⟨h, -, -⟩)
        · exact ⟨rejection, hread, herror⟩
        · simp [hgiven] at h
        · simp [hgiven] at h
  | some items =>
      have hitems := items_eq_ok.mpr hgiven
      have hitemsClear := isOverlong_of_items hclear hitems
      cases items with
      | nil =>
          have hread : WordGroup.read raw =
              .error (.rejected ⟨.empty, none, "input contains no words"⟩) := by
            rw [WordGroup.read, hitems, ok_bind]
            rfl
          constructor
          · rintro ⟨other, h, rfl⟩
            rw [hread, Except.error.injEq, Unusable.rejected.injEq] at h
            rw [← h]
            exact .empty hgiven
          · rintro (h | _ | ⟨h, -, -⟩)
            · simp [hgiven] at h
            · exact ⟨_, hread, rfl⟩
            · simp [hgiven] at h
      | cons item rest =>
          have hread : ∀ rejection, WordGroup.read raw = .error (.rejected rejection) ↔
              readWords 0 (item :: rest) = .error (.rejected rejection) := by
            intro rejection
            rw [WordGroup.read, hitems, ok_bind, if_neg (by simp)]
            cases readWords 0 (item :: rest) <;> simp [pure, Except.pure]
          simp only [hread, readWords_rejects_iff hitemsClear]
          constructor
          · rintro ⟨before, offender, after, hsplit, husable, hoffends⟩
            exact .item (hgiven.trans (congrArg some hsplit)) husable hoffends
          · rintro (h | h | ⟨h, husable, hoffends⟩)
            · simp [hgiven] at h
            · simp [hgiven] at h
            · rw [hgiven, Option.some.injEq] at h
              exact ⟨_, _, _, h, husable, hoffends⟩

/-- Input that can be written out is read exactly if it is a text with some word in it or
a sequence with some item, and each item is a text or a record whose surface, if it has
one, is written in one of the scripts.  The words are then those of the items.  All other
input is rejected, for what it is itself or for its first item that cannot be used. -/
theorem read_outcome (hclear : raw.isOverlong = false) :
    ((∃ group, WordGroup.read raw = .ok group) ↔ raw.IsInput)
      ∧ (∀ group, WordGroup.read raw = .ok group →
          ∃ items, raw.givenItems? = some items ∧ group.Holds items)
      ∧ (∀ failure, WordGroup.read raw = .error failure →
          ∃ rejection, failure = .rejected rejection)
      ∧ ∀ error, (∃ rejection, WordGroup.read raw = .error (.rejected rejection)
          ∧ rejection.error = error) ↔ raw.RejectedFor error := by
  refine ⟨exists_read_iff_isInput hclear, fun group h => ?_, fun failure h => ?_,
    fun error => read_rejects_iff hclear⟩
  · obtain ⟨items, hitems⟩ := exists_items h
    exact ⟨items, items_eq_ok.mp hitems, holds_of_read hitems h⟩
  · cases failure with
    | rejected rejection => exact ⟨rejection, rfl⟩
    | fault fault => exact absurd h (read_ne_fault hclear fault)

def mixedInput : List Datum :=
  [.map [(.text "Form", .null), (.text "isPronoun", .bool true), (.text " surface ", .text " गजः ")],
    .text "gajaḥ"]

theorem read_outcome_mixed : (Datum.tuple mixedInput).isOverlong = false
    ∧ ∃ group, WordGroup.read (.tuple mixedInput) = .ok group ∧ group.Holds mixedInput := by
  have hclear : (Datum.tuple mixedInput).isOverlong = false := by decide
  obtain ⟨-, hholds, -⟩ := read_outcome hclear
  obtain ⟨group, hread⟩ : ∃ group, WordGroup.read (.tuple mixedInput) = .ok group := ⟨_, rfl⟩
  obtain ⟨items, hitems, h⟩ := hholds group hread
  cases hitems
  exact ⟨hclear, group, hread, h⟩

end WordGroup

end SutraArbiter
