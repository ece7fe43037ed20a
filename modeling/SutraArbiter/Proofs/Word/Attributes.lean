import SutraArbiter.Proofs.Word.BreakingOff

namespace SutraArbiter

/-! What a record gives: each attribute under the first of its names that has a
datum, and everything else as flags. -/

/-- The names under which a record may give an attribute. -/
def Field.names : Field → List String
  | .surface => ["surface", "form"]
  | .headword => ["lemma"]
  | .base => ["base"]
  | .caseName => ["case", "vibhakti"]
  | .gender => ["gender", "linga"]
  | .category => ["category"]

/-- The key names the attribute, in whatever spelling. -/
def Datum.names (field : Field) (key : Datum) : Bool :=
  field.names.contains (Text.snakeCase key.plain)

/-- The first datum that stands under a name of the attribute and is not nothing. -/
def Entries.attribute? (entries : Entries) (field : Field) : Option Datum :=
  (List.find? (fun entry => entry.1.names field && !entry.2.isNull) entries).map Prod.snd

theorem Field.ofAlias?_eq_some {name : String} {field : Field} :
    Field.ofAlias? name = some field ↔ name ∈ field.names := by
  constructor
  · intro h
    unfold ofAlias? ofName? at h
    repeat' split at h
    all_goals cases h
    all_goals simp [names]
  · intro h
    cases field <;> simp only [names, List.mem_cons, List.not_mem_nil, or_false] at h
    all_goals rcases h with rfl | rfl <;> rfl

theorem Field.ofAlias?_eq_none {name : String} :
    Field.ofAlias? name = none ↔ ∀ field : Field, name ∉ field.names := by
  simp only [Option.eq_none_iff_forall_ne_some, ne_eq, Field.ofAlias?_eq_some]

namespace Entries

variable {entries : Entries} {field : Field} {datum : Datum}

theorem mem_of_attribute? (h : entries.attribute? field = some datum) :
    ∃ key, (key, datum) ∈ entries := by
  obtain ⟨⟨key, found⟩, hfind, rfl⟩ := Option.map_eq_some_iff.mp h
  exact ⟨key, List.mem_of_find?_eq_some hfind⟩

theorem attribute?_cons (key : Datum) :
    Entries.attribute? ((key, datum) :: entries) field =
      (if key.names field && !datum.isNull then some datum else none).or
        (entries.attribute? field) := by
  unfold attribute?
  rw [List.find?_cons]
  cases key.names field && !datum.isNull <;> rfl

end Entries

namespace Particulars

variable {given result : Particulars} {entries : Entries} {field : Field} {name : String}

theorem lookup_take (name : String) (datum : Datum) :
    (given.take name datum).fields.lookup field =
      (given.fields.lookup field).or
        (if field.names.contains name && !datum.isNull then some datum else none) := by
  unfold take
  split
  · rename_i hnone
    have hname := Field.ofAlias?_eq_none.mp hnone field
    simp [hname]
  · rename_i other hother
    have hnames : field.names.contains name = decide (field = other) := by
      rw [Bool.eq_iff_iff, List.contains_iff_mem, ← Field.ofAlias?_eq_some, hother,
        decide_eq_true_eq, Option.some.injEq, eq_comm]
    rw [hnames]
    by_cases hfield : field = other
    · subst hfield
      cases hgiven : given.fields.lookup field with
      | none => cases hdatum : datum.isNull <;> simp [List.lookup_append, hgiven]
      | some datum => simp [hgiven]
    · have hapart : (field == other) = false := by simpa using hfield
      split
      · simp [hfield]
      · simp [List.lookup_append, List.lookup_cons, hfield, hapart]

theorem lookup_read (h : given.read entries = .ok result) :
    result.fields.lookup field = (given.fields.lookup field).or (entries.attribute? field) := by
  induction entries generalizing given with
  | nil =>
      cases h
      exact (Option.or_none).symm
  | cons entry rest ih =>
      obtain ⟨key, datum⟩ := entry
      obtain ⟨text, htext, h⟩ := bind_eq_ok.mp h
      have hplain : text = key.plain := by
        unfold Datum.plain? at htext
        split at htext <;> cases htext
        rfl
      rw [ih h, lookup_take, Entries.attribute?_cons, Option.or_assoc, Datum.names, hplain]

theorem get?_flags_take (hname : name ∈ field.names) (other : String) (datum : Datum) :
    (given.take other datum).flags.get? name = given.flags.get? name := by
  unfold take
  split
  · rename_i hnone
    have hapart : name ≠ other := by
      rintro rfl
      exact Field.ofAlias?_eq_none.mp hnone field hname
    simp [Flags.get?_put, hapart]
  · split <;> rfl

/-- No attribute is among the flags, under none of its names. -/
theorem get?_flags_read (hname : name ∈ field.names) (h : given.read entries = .ok result) :
    result.flags.get? name = given.flags.get? name := by
  induction entries generalizing given with
  | nil =>
      cases h
      rfl
  | cons entry rest ih =>
      obtain ⟨key, datum⟩ := entry
      obtain ⟨text, -, h⟩ := bind_eq_ok.mp h
      rw [ih h, get?_flags_take hname]

theorem text?_of_none (h : given.fields.lookup field = none) : given.text? field = .ok "" := by
  simp [text?, h]

theorem text?_of_text {text : String} (h : given.fields.lookup field = some (.text text)) :
    given.text? field = .ok (Text.trimString text) := by
  simp [text?, h, pure, Except.pure]

end Particulars

/-- The form in which a word keeps the trimmed text of an attribute. -/
def Field.kept : Field → String → String
  | .caseName, text => Text.lowerString text
  | .gender, text => genderName (Text.lowerString text)
  | .category, text => Text.lowerString text
  | _, text => text

theorem Word.field_build {index : Nat} {given : Particulars} {word : Word}
    (h : Word.build index given = .ok word) (field : Field) :
    ∃ text, given.text? field = .ok text ∧ word.field field = field.kept text := by
  simp only [Word.build, bind_eq_ok] at h
  obtain ⟨_, hsurface, _, hheadword, _, hbase, _, hcase, _, hgender, _, hcategory, h⟩ := h
  cases h
  cases field with
  | surface => exact ⟨_, hsurface, rfl⟩
  | headword => exact ⟨_, hheadword, rfl⟩
  | base => exact ⟨_, hbase, rfl⟩
  | caseName => exact ⟨_, hcase, rfl⟩
  | gender => exact ⟨_, hgender, rfl⟩
  | category => exact ⟨_, hcategory, rfl⟩

end SutraArbiter
