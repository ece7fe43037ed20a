import SutraArbiter.Json.Canonical
import SutraArbiter.Proofs.Arrangement.Failing
import SutraArbiter.Proofs.Datum

namespace SutraArbiter

namespace Json

/-- A number that has a text. -/
def IsNumber : Datum → Prop
  | .bool _ | .float _ => True
  | .int value => Number.hasOverlongText value = false
  | _ => False

/-- Keys that can be put in order and name members: texts alone, numbers alone, or null by
itself. -/
def IsRecordKeys (keys : List Datum) : Prop :=
  (∀ key ∈ keys, key.isText = true) ∨ (∀ key ∈ keys, IsNumber key) ∨ keys = [.null]

mutual

/-- Every integer in it has a text, and every map in it the keys of a record. -/
def IsWritable : Datum → Prop
  | .int value => Number.hasOverlongText value = false
  | .list items => AreWritable items
  | .tuple items => AreWritable items
  | .map entries => IsRecordKeys (Entries.keys entries) ∧ EntriesWritable entries
  | _ => True

def AreWritable : List Datum → Prop
  | [] => True
  | item :: rest => IsWritable item ∧ AreWritable rest

def EntriesWritable : List (Datum × Datum) → Prop
  | [] => True
  | (_, value) :: rest => IsWritable value ∧ EntriesWritable rest

end

theorem areWritable_iff {items : List Datum} :
    AreWritable items ↔ ∀ item ∈ items, IsWritable item := by
  induction items with
  | nil => simp [AreWritable]
  | cons item rest ih => rw [AreWritable, List.forall_mem_cons, ih]

theorem entriesWritable_iff {entries : Entries} :
    EntriesWritable entries ↔ ∀ entry ∈ entries, IsWritable entry.2 := by
  induction entries with
  | nil => simp [EntriesWritable]
  | cons entry rest ih => rw [EntriesWritable, List.forall_mem_cons, ih]

variable {key other : Datum} {members : List Member}

theorem exists_integer?_iff {i : Int} :
    (∃ text, integer? i = .ok text) ↔ Number.hasOverlongText i = false := by
  unfold integer?
  cases Number.hasOverlongText i <;> simp

theorem exists_key?_iff :
    (∃ text, key? key = .ok text) ↔ key.isText = true ∨ IsNumber key ∨ key = .null := by
  cases key <;>
    simp [key?, Datum.isText, IsNumber, exists_integer?_iff]

theorem precedes?_of_level? {m n : Level} (hkey : key.level? = some m)
    (hother : other.level? = some n) : key.precedes? other = .ok (m.lt n) := by
  unfold Datum.precedes?
  split
  · cases hkey
  · cases hkey
  · cases hkey
  · rw [hkey, hother]

theorem IsNumber.exists_level? (h : IsNumber key) : ∃ level, key.level? = some level := by
  unfold IsNumber at h
  split at h
  · exact ⟨_, rfl⟩
  · exact ⟨_, rfl⟩
  · exact ⟨_, rfl⟩
  · cases h

/-- Two keys that are compared are both texts or neither, and none is null. -/
def Compares (key other : Datum) : Prop :=
  key.isNull = false ∧ other.isNull = false ∧ key.isText = other.isText

theorem compares_of_precedes? {held : Bool} (h : key.precedes? other = .ok held) :
    Compares key other := by
  have hnumber : ∀ {d : Datum} {level : Level}, d.level? = some level →
      d.isNull = false ∧ d.isText = false := by
    intro d level hlevel
    cases d <;> first | exact ⟨rfl, rfl⟩ | cases hlevel
  unfold Datum.precedes? at h
  split at h
  · exact ⟨rfl, rfl, rfl⟩
  · exact ⟨rfl, rfl, rfl⟩
  · exact ⟨rfl, rfl, rfl⟩
  · split at h
    · rename_i hkey hother
      obtain ⟨hkeyNull, hkeyText⟩ := hnumber hkey
      obtain ⟨hotherNull, hotherText⟩ := hnumber hother
      exact ⟨hkeyNull, hotherNull, hkeyText.trans hotherText.symm⟩
    · cases h

theorem exists_member?_iff {member : Member} :
    (∃ text, member? member = .ok text) ↔
      (∃ text, key? member.1 = .ok text) ∧ ∃ text, member.2 = .ok text := by
  unfold member?
  rw [exists_bind_eq_ok]
  constructor
  · rintro ⟨key, hkey, h⟩
    exact ⟨⟨key, hkey⟩, exists_bind_pure_iff.mp h⟩
  · rintro ⟨⟨key, hkey⟩, h⟩
    exact ⟨key, hkey, exists_bind_pure_iff.mpr h⟩

theorem exists_sortMembers? (hkeys : IsRecordKeys (members.map Prod.fst)) :
    ∃ sorted, sortMembers? members = .ok sorted := by
  have hordered : (∀ x ∈ members, ∀ y ∈ members, ∃ held, x.1.precedes? y.1 = .ok held) →
      ∃ sorted, sortMembers? members = .ok sorted := by
    intro h
    cases hsorted : sortMembers? members with
    | ok sorted => exact ⟨sorted, rfl⟩
    | error fault =>
        obtain ⟨x, hx, y, hy, hfails⟩ := Arrangement.arrange_eq_error hsorted
        obtain ⟨held, hheld⟩ := h x hx y hy
        rw [hheld] at hfails
        cases hfails
  rcases hkeys with htexts | hnumbers | hnull
  · refine hordered fun x hx y hy => ?_
    obtain ⟨s, hs⟩ := Datum.isText_iff.mp (htexts x.1 (List.mem_map_of_mem hx))
    obtain ⟨t, ht⟩ := Datum.isText_iff.mp (htexts y.1 (List.mem_map_of_mem hy))
    exact ⟨_, by rw [hs, ht, Datum.precedes?]⟩
  · refine hordered fun x hx y hy => ?_
    obtain ⟨m, hm⟩ := (hnumbers x.1 (List.mem_map_of_mem hx)).exists_level?
    obtain ⟨n, hn⟩ := (hnumbers y.1 (List.mem_map_of_mem hy)).exists_level?
    exact ⟨_, precedes?_of_level? hm hn⟩
  · obtain ⟨member, rest, rfl, -, hrest⟩ := List.map_eq_cons_iff.mp hnull
    rw [List.map_eq_nil_iff.mp hrest]
    exact ⟨[member], rfl⟩

/-- Keys that are put in order and name their members are the keys of a record. -/
theorem isRecordKeys_of_sortMembers? {sorted : List Member}
    (hsorted : sortMembers? members = .ok sorted)
    (hkeys : ∀ member ∈ members, ∃ text, key? member.1 = .ok text) :
    IsRecordKeys (members.map Prod.fst) := by
  have hcompared := Arrangement.arrange_related
    (R := fun x y : Member => Compares x.1 y.1) (fun x y held => compares_of_precedes?)
    (fun h => ⟨h.2.1, h.1, h.2.2.symm⟩) (fun h h' => ⟨h.1, h'.2.1, h.2.2.trans h'.2.2⟩) hsorted
  have hnamed : ∀ member ∈ members,
      member.1.isText = true ∨ IsNumber member.1 ∨ member.1 = .null :=
    fun member hmember => exists_key?_iff.mp (hkeys member hmember)
  rcases hcompared with hfew | ⟨anchor, hanchor⟩
  · match members, hfew with
    | [], _ => exact .inl (List.forall_mem_nil _)
    | [member], _ =>
        exact (hnamed member List.mem_cons_self).imp List.forall_mem_singleton.mpr
          (Or.imp List.forall_mem_singleton.mpr fun hnull => by rw [List.map_singleton, hnull])
  · cases hanchorText : anchor.1.isText with
    | true =>
        refine .inl (List.forall_mem_map.mpr fun member hmember => ?_)
        exact (hanchor member hmember).2.2.symm.trans hanchorText
    | false =>
        refine .inr (.inl (List.forall_mem_map.mpr fun member hmember => ?_))
        obtain ⟨-, hnull, htext⟩ := hanchor member hmember
        rw [hanchorText] at htext
        rcases hnamed member hmember with hnamed | hnamed | hnamed
        · rw [hnamed] at htext
          cases htext
        · exact hnamed
        · rw [hnamed] at hnull
          cases hnull

theorem exists_key?_of_isRecordKeys (hkeys : IsRecordKeys (members.map Prod.fst)) :
    ∀ member ∈ members, ∃ text, key? member.1 = .ok text := by
  intro member hmember
  have hkey := List.mem_map_of_mem (f := Prod.fst) hmember
  rw [exists_key?_iff]
  rcases hkeys with htexts | hnumbers | hnull
  · exact .inl (htexts member.1 hkey)
  · exact .inr (.inl (hnumbers member.1 hkey))
  · rw [hnull] at hkey
    exact .inr (.inr (List.mem_singleton.mp hkey))

theorem exists_object?_iff :
    (∃ text, object? members = .ok text) ↔
      IsRecordKeys (members.map Prod.fst) ∧ ∀ member ∈ members, ∃ text, member.2 = .ok text := by
  unfold object?
  rw [exists_bind_eq_ok]
  constructor
  · rintro ⟨sorted, hsorted, h⟩
    have hpieces := exists_mapM_iff.mp (exists_bind_pure_iff.mp h)
    have hwritten : ∀ member ∈ members, ∃ text, member? member = .ok text := fun member hmember =>
      hpieces member ((Arrangement.arrange_eq_ok hsorted).mem_iff.mpr hmember)
    refine ⟨isRecordKeys_of_sortMembers? hsorted fun member hmember => ?_,
      fun member hmember => ?_⟩
    · exact (exists_member?_iff.mp (hwritten member hmember)).1
    · exact (exists_member?_iff.mp (hwritten member hmember)).2
  · rintro ⟨hkeys, hvalues⟩
    obtain ⟨sorted, hsorted⟩ := exists_sortMembers? hkeys
    refine ⟨sorted, hsorted, ?_⟩
    refine exists_bind_pure_iff.mpr (exists_mapM_iff.mpr fun member hmember => ?_)
    have hmember := (Arrangement.arrange_eq_ok hsorted).mem_iff.mp hmember
    exact exists_member?_iff.mpr
      ⟨exists_key?_of_isRecordKeys hkeys member hmember, hvalues member hmember⟩

theorem map_fst_canonicalMembers (entries : Entries) :
    (canonicalMembers entries).map Prod.fst = entries.keys := by
  induction entries with
  | nil => rfl
  | cons entry rest ih => exact congrArg (entry.1 :: ·) ih

mutual

/-- A datum has a canonical form exactly when it is writable. -/
theorem exists_canonical?_iff :
    (d : Datum) → ((∃ text, canonical? d = .ok text) ↔ IsWritable d)
  | .null | .bool _ | .float _ | .text _ | .bytes _ | .buffer _ =>
      ⟨fun _ => trivial, fun _ => ⟨_, rfl⟩⟩
  | .int _ => exists_integer?_iff
  | .list items => exists_bind_pure_iff.trans (exists_canonicalItems?_iff items)
  | .tuple items => exists_bind_pure_iff.trans (exists_canonicalItems?_iff items)
  | .map entries => by
      rw [canonical?, exists_object?_iff, map_fst_canonicalMembers, IsWritable]
      exact and_congr_right fun _ => written_canonicalMembers_iff entries

theorem exists_canonicalItems?_iff :
    (items : List Datum) → ((∃ texts, canonicalItems? items = .ok texts) ↔ AreWritable items)
  | [] => ⟨fun _ => trivial, fun _ => ⟨[], rfl⟩⟩
  | item :: rest => by
      rw [canonicalItems?, AreWritable]
      refine exists_bind_iff (exists_canonical?_iff item) fun text _ => ?_
      exact exists_bind_pure_iff.trans (exists_canonicalItems?_iff rest)

theorem written_canonicalMembers_iff : (entries : List (Datum × Datum)) →
    ((∀ member ∈ canonicalMembers entries, ∃ text, member.2 = .ok text) ↔
      EntriesWritable entries)
  | [] => by simp [canonicalMembers, EntriesWritable]
  | (key, value) :: rest => by
      rw [canonicalMembers, EntriesWritable, List.forall_mem_cons]
      exact and_congr (exists_canonical?_iff value) (written_canonicalMembers_iff rest)

end

end Json

end SutraArbiter
