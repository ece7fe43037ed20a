import SutraArbiter.Proofs.Word.Reading

namespace SutraArbiter

/-! Data that breaks off the reading of words: a text is asked for, and what stands
there has none. -/

/-- Under some key, or in some attribute of what would otherwise be a word, stands a
datum without a text. -/
def Entries.BreaksOff (entries : Entries) : Prop :=
  (∃ entry ∈ entries, entry.1.isOverlong = true)
    ∨ ∃ given script field datum, Particulars.read ⟨[], []⟩ entries = .ok given
      ∧ given.script? = .ok script ∧ given.fields.lookup field = some datum
      ∧ datum.isOverlong = true

/-- All items are words up to one whose reading breaks off. -/
def WordGroup.BreaksOff (raw : Datum) : Prop :=
  ∃ before entries after,
    WordGroup.items raw = .ok (before ++ .map entries :: after)
      ∧ (∀ item ∈ before, ∃ reading, readWord 0 item = .ok reading)
      ∧ Entries.BreaksOff entries

theorem Particulars.read_eq_error {given : Particulars} {entries : Entries} {fault : Fault} :
    given.read entries = .error fault ↔
      fault = .overlongInteger ∧ ∃ entry ∈ entries, entry.1.isOverlong = true := by
  induction entries generalizing given with
  | nil => simp [Particulars.read]
  | cons entry rest ih =>
      obtain ⟨key, datum⟩ := entry
      rw [Particulars.read, bind_eq_error, Datum.plain?_eq_error]
      cases hkey : key.isOverlong with
      | true => simp [Datum.plain?, hkey]
      | false => simp [Datum.plain?_eq_ok hkey, hkey, ih]

theorem Particulars.text?_eq_error {given : Particulars} {field : Field} {fault : Fault} :
    given.text? field = .error fault ↔
      fault = .overlongInteger
        ∧ ∃ datum, given.fields.lookup field = some datum ∧ datum.isOverlong = true := by
  unfold Particulars.text?
  cases given.fields.lookup field with
  | none => simp
  | some datum =>
      change (datum.plain? >>= fun text => .ok (Text.trimString text)) = .error fault ↔ _
      rw [bind_eq_error, Datum.plain?_eq_error]
      simp

theorem Word.build_eq_error {index : Nat} {given : Particulars} {fault : Fault} :
    Word.build index given = .error fault ↔
      fault = .overlongInteger ∧ ∃ field datum, given.fields.lookup field = some datum
        ∧ datum.isOverlong = true := by
  -- The texts are asked for one by one; which of them is the first to fail is all one.
  have hasked : ∀ {other : Fault}, Word.build index given = .error other →
      ∃ field, given.text? field = .error other := by
    intro other h
    simp only [Word.build, bind_eq_error] at h
    rcases h with h | ⟨_, -, h | ⟨_, -, h | ⟨_, -, h | ⟨_, -, h | ⟨_, -, h | ⟨_, -, h⟩⟩⟩⟩⟩⟩
    · exact ⟨_, h⟩
    · exact ⟨_, h⟩
    · exact ⟨_, h⟩
    · exact ⟨_, h⟩
    · exact ⟨_, h⟩
    · exact ⟨_, h⟩
    · cases h
  constructor
  · intro h
    obtain ⟨field, hfield⟩ := hasked h
    obtain ⟨hfault, hdatum⟩ := Particulars.text?_eq_error.mp hfield
    exact ⟨hfault, field, hdatum⟩
  · rintro ⟨rfl, field, hdatum⟩
    have hfield := Particulars.text?_eq_error.mpr ⟨rfl, hdatum⟩
    cases hbuild : Word.build index given with
    | error other =>
        obtain ⟨_, hother⟩ := hasked hbuild
        rw [(Particulars.text?_eq_error.mp hother).1]
    | ok word =>
        simp only [Word.build, bind_eq_ok] at hbuild
        obtain ⟨_, h1, _, h2, _, h3, _, h4, _, h5, _, h6, -⟩ := hbuild
        cases field <;> simp_all

theorem readParticulars_eq_ok {index : Nat} {item : Datum} {given : Particulars} :
    readParticulars index item = .ok given ↔
      (∃ surface, item = .text surface ∧ given = ⟨[(.surface, .text surface)], []⟩)
        ∨ ∃ entries, item = .map entries ∧ Particulars.read ⟨[], []⟩ entries = .ok given := by
  cases item with
  | text surface => simp [readParticulars, eq_comm]
  | map entries => cases hread : Particulars.read ⟨[], []⟩ entries <;> simp [readParticulars, hread]
  | _ => simp [readParticulars]

theorem readParticulars_eq_fault {index : Nat} {item : Datum} {fault : Fault} :
    readParticulars index item = .error (.fault fault) ↔
      fault = .overlongInteger
        ∧ ∃ entries, item = .map entries ∧ ∃ entry ∈ entries, entry.1.isOverlong = true := by
  cases item with
  | map entries =>
      have hread : readParticulars index (.map entries) = .error (.fault fault) ↔
          Particulars.read ⟨[], []⟩ entries = .error fault := by
        cases hgiven : Particulars.read ⟨[], []⟩ entries <;> simp [readParticulars, hgiven]
      rw [hread, Particulars.read_eq_error]
      simp
  | _ => simp [readParticulars]

theorem Particulars.script?_ne_fault (given : Particulars) (fault : Fault) :
    given.script? ≠ .error (.fault fault) := by
  intro h
  unfold Particulars.script? at h
  split at h
  · cases h
  · split at h <;> cases h

theorem readWord_eq_fault {index : Nat} {item : Datum} {fault : Fault} :
    readWord index item = .error (.fault fault) ↔
      fault = .overlongInteger ∧ ∃ entries, item = .map entries ∧ Entries.BreaksOff entries := by
  unfold readWord
  rw [bind_eq_error, readParticulars_eq_fault]
  constructor
  · rintro (⟨rfl, entries, rfl, hkey⟩ | ⟨given, hgiven, h⟩)
    · exact ⟨rfl, entries, rfl, .inl hkey⟩
    · rcases bind_eq_error.mp h with h | ⟨script, hscript, h⟩
      · exact absurd h (given.script?_ne_fault fault)
      · split at h
        · cases h
        · rename_i hbuild
          cases h
          obtain ⟨rfl, field, datum, hdatum, hoverlong⟩ := Word.build_eq_error.mp hbuild
          rcases readParticulars_eq_ok.mp hgiven with
            ⟨surface, rfl, rfl⟩ | ⟨entries, rfl, hread⟩
          · rw [List.lookup_cons] at hdatum
            split at hdatum
            · cases hdatum
              rw [Datum.isOverlong_text] at hoverlong
              cases hoverlong
            · cases hdatum
          · exact ⟨rfl, entries, rfl,
              .inr ⟨given, script, field, datum, hread, hscript, hdatum, hoverlong⟩⟩
  · rintro ⟨rfl, entries, rfl, hkey | ⟨given, script, field, datum, hread, hscript, hdatum⟩⟩
    · exact .inl ⟨rfl, entries, rfl, hkey⟩
    · refine .inr ⟨given, readParticulars_eq_ok.mpr (.inr ⟨entries, rfl, hread⟩), ?_⟩
      have hbuild : Word.build index given = .error .overlongInteger :=
        Word.build_eq_error.mpr ⟨rfl, field, datum, hdatum⟩
      rw [hscript, ok_bind, hbuild]

theorem readWords_eq_fault {start : Nat} {items : List Datum} {fault : Fault} :
    readWords start items = .error (.fault fault) ↔
      fault = .overlongInteger ∧ ∃ before entries after, items = before ++ .map entries :: after
        ∧ (∀ item ∈ before, ∃ reading, readWord 0 item = .ok reading)
        ∧ Entries.BreaksOff entries := by
  induction items generalizing start with
  | nil => simp [readWords]
  | cons item rest ih =>
      rw [readWords, bind_eq_error, readWord_eq_fault]
      constructor
      · rintro (⟨rfl, entries, rfl, hbreaks⟩ | ⟨reading, hreading, h⟩)
        · exact ⟨rfl, [], entries, rest, rfl, by simp, hbreaks⟩
        · rcases bind_eq_error.mp h with h | ⟨readings, -, h⟩
          · obtain ⟨rfl, before, entries, after, rfl, hbefore, hbreaks⟩ := ih.mp h
            refine ⟨rfl, item :: before, entries, after, rfl, ?_, hbreaks⟩
            exact List.forall_mem_cons.mpr ⟨⟨_, readWord_eq_ok hreading 0⟩, hbefore⟩
          · cases h
      · rintro ⟨rfl, before, entries, after, hitems, hbefore, hbreaks⟩
        cases before with
        | nil =>
            obtain ⟨rfl, rfl⟩ := List.cons.inj hitems
            exact .inl ⟨rfl, entries, rfl, hbreaks⟩
        | cons first before =>
            obtain ⟨rfl, rfl⟩ := List.cons.inj hitems
            obtain ⟨⟨reading, hreading⟩, hbefore⟩ := List.forall_mem_cons.mp hbefore
            refine .inr ⟨_, readWord_eq_ok hreading start, ?_⟩
            rw [ih.mpr ⟨rfl, before, entries, after, rfl, hbefore, hbreaks⟩]
            rfl

theorem WordGroup.read_eq_fault_iff_readWords {raw : Datum} {fault : Fault} :
    WordGroup.read raw = .error (.fault fault) ↔
      ∃ items, WordGroup.items raw = .ok items ∧ readWords 0 items = .error (.fault fault) := by
  unfold WordGroup.read
  rw [bind_eq_error]
  constructor
  · rintro (h | ⟨items, hitems, h⟩)
    · unfold WordGroup.items at h
      split at h <;> cases h
    · split at h
      · cases h
      · rcases bind_eq_error.mp h with h | ⟨words, -, h⟩
        · exact ⟨items, hitems, h⟩
        · cases h
  · rintro ⟨items, hitems, h⟩
    refine .inr ⟨items, hitems, ?_⟩
    cases items with
    | nil => cases h
    | cons item rest =>
        rw [if_neg (by simp), h]
        rfl

theorem WordGroup.read_eq_fault {raw : Datum} {fault : Fault} :
    WordGroup.read raw = .error (.fault fault) ↔
      fault = .overlongInteger ∧ WordGroup.BreaksOff raw := by
  rw [read_eq_fault_iff_readWords]
  constructor
  · rintro ⟨items, hitems, h⟩
    obtain ⟨rfl, before, entries, after, rfl, hbreaks⟩ := readWords_eq_fault.mp h
    exact ⟨rfl, before, entries, after, hitems, hbreaks⟩
  · rintro ⟨rfl, before, entries, after, hitems, hbreaks⟩
    exact ⟨_, hitems, readWords_eq_fault.mpr ⟨rfl, before, entries, after, rfl, hbreaks⟩⟩

end SutraArbiter
