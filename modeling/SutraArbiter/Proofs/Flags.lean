import SutraArbiter.Context
import SutraArbiter.Proofs.Datum

namespace SutraArbiter

theorem Flags.value_put (flags : Flags) (key other : String) (datum : Datum) :
    (flags.put key datum).value other = if other = key then datum else flags.value other := by
  unfold Flags.value
  rw [Flags.get?_put]
  split <;> rfl

theorem Flags.read_eq_error {flags : Flags} {entries : Entries} {fault : Fault} :
    Flags.read flags entries = .error fault ↔
      fault = .overlongInteger ∧ ∃ entry ∈ entries, entry.1.isOverlong = true := by
  induction entries generalizing flags with
  | nil => simp [Flags.read]
  | cons entry rest ih =>
      obtain ⟨key, datum⟩ := entry
      rw [Flags.read, bind_eq_error, Datum.plain?_eq_error]
      cases hkey : key.isOverlong with
      | true => simp [Datum.plain?, hkey]
      | false => simp [Datum.plain?_eq_ok hkey, hkey, ih]

theorem Flags.exists_read {entries : Entries}
    (hkeys : ∀ entry ∈ entries, entry.1.isOverlong = false) (flags : Flags) :
    ∃ read, Flags.read flags entries = .ok read := by
  cases hread : Flags.read flags entries with
  | ok read => exact ⟨read, rfl⟩
  | error fault =>
      obtain ⟨-, entry, hentry, hoverlong⟩ := Flags.read_eq_error.mp hread
      rw [hkeys entry hentry] at hoverlong
      cases hoverlong

theorem Flags.read_append (flags : Flags) (first second : Entries) :
    Flags.read flags (first ++ second) =
      Flags.read flags first >>= fun read => Flags.read read second := by
  induction first generalizing flags with
  | nil => rfl
  | cons entry rest ih =>
      obtain ⟨key, datum⟩ := entry
      rw [List.cons_append, Flags.read, Flags.read]
      cases key.plain? with
      | error fault => rfl
      | ok name => exact ih _

theorem Context.read_map (entries : Entries) :
    Context.read (.map entries) = Flags.read [] entries >>= fun flags => .ok ⟨flags⟩ := by
  cases entries <;> rfl

theorem Context.read_eq_error {entries : Entries} {fault : Fault} :
    Context.read (.map entries) = .error fault ↔
      fault = .overlongInteger ∧ ∃ entry ∈ entries, entry.1.isOverlong = true := by
  rw [Context.read_map, bind_eq_error, Flags.read_eq_error]
  simp

theorem Context.exists_read {entries : Entries}
    (hkeys : ∀ entry ∈ entries, entry.1.isOverlong = false) :
    ∃ context, Context.read (.map entries) = .ok context := by
  obtain ⟨flags, hflags⟩ := Flags.exists_read hkeys []
  rw [Context.read_map, hflags]
  exact ⟨⟨flags⟩, rfl⟩

/-- Everything the context carries can be written out. -/
def Context.IsClear (context : Context) : Prop :=
  ∀ key, (context.value key).isOverlong = false

theorem Flags.read_clear {flags result : Flags} {entries : Entries}
    (hentries : ∀ entry ∈ entries, entry.2.isOverlong = false)
    (hflags : ∀ key, (flags.value key).isOverlong = false)
    (h : Flags.read flags entries = .ok result) :
    ∀ key, (result.value key).isOverlong = false := by
  induction entries generalizing flags with
  | nil =>
      cases h
      exact hflags
  | cons entry rest ih =>
      obtain ⟨key, datum⟩ := entry
      obtain ⟨hdatum, hrest⟩ := List.forall_mem_cons.mp hentries
      obtain ⟨name, -, h⟩ := bind_eq_ok.mp h
      refine ih hrest (fun other => ?_) h
      rw [Flags.value_put]
      split
      · exact hdatum
      · exact hflags other

theorem Context.isClear_empty : Context.empty.IsClear := fun _ => rfl

theorem Context.isClear_of_read {d : Datum} {context : Context} (hd : d.isOverlong = false)
    (h : Context.read d = .ok context) : context.IsClear := by
  unfold Context.read at h
  split at h
  · obtain ⟨entries, hentries, h⟩ := bind_eq_ok.mp h
    obtain ⟨flags, hflags, h⟩ := bind_eq_ok.mp h
    cases h
    unfold Datum.entriesFor? at hentries
    split at hentries
    · cases hentries
      have hclear := Datum.isOverlong_map_eq_false.mp hd
      exact Flags.read_clear (fun entry hentry => (hclear entry hentry).2) (fun _ => rfl)
        hflags
    · cases hentries
  · cases h
    exact Context.isClear_empty

end SutraArbiter
