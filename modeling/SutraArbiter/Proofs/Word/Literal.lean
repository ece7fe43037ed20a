import SutraArbiter.Proofs.Criteria
import SutraArbiter.Proofs.Script.SmallLetters
import SutraArbiter.Proofs.Word.Attributes

namespace SutraArbiter

/-! One text under one key: what a record gives under it, and whether a rule that
asks for the same text under the same key finds it. -/

/-- One text under one key, as a record, as what a call carries or as a criterion. -/
def Datum.ofEntry (key value : String) : Datum :=
  .map [(.text key, .text value)]

/-- The key is the one under which a rule has to ask: in snake case, and an
attribute's first name. -/
def IsOwnKey (key : String) : Prop :=
  Text.snakeCase key = key ∧ Field.ofAlias? key = Field.ofName? key

instance (key : String) : Decidable (IsOwnKey key) := by
  unfold IsOwnKey; infer_instance

/-- A gender that is not given by one of the long names for its letter. -/
def IsShortGender (gender : String) : Prop :=
  genderName (Text.lowerString (Text.trimString gender)) =
    Text.lowerString (Text.trimString gender)

instance (gender : String) : Decidable (IsShortGender gender) := by
  unfold IsShortGender; infer_instance

/-- The word has under the key what the record gave there. -/
def IsKeptUnder (key value : String) : Prop :=
  IsOwnKey key ∧ (Field.ofName? key = some .gender → IsShortGender value)

instance (key value : String) : Decidable (IsKeptUnder key value) := by
  unfold IsKeptUnder; infer_instance

/-- Small letters may be taken before the text is composed or after it. -/
def Text.IsSteady (value : String) : Prop :=
  compose (lower (trim value.toList)) = lower (compose (trim value.toList))

instance (value : String) : Decidable (Text.IsSteady value) := by
  unfold Text.IsSteady; infer_instance

/-- A dieresis joins a small t and no capital one. -/
example : ¬ Text.IsSteady "T\u0308" := by decide

/-- An attribute that is kept in small letters. -/
def Field.isFolded : Field → Bool
  | .caseName | .gender | .category => true
  | .surface | .headword | .base => false

variable {key value : String} {field : Field} {index : Nat} {word : Word}

namespace Text

theorem normalForm_lowerString (h : IsSteady value) :
    normalForm (lowerString (trimString value)) = normalForm value := by
  calc normalForm (lowerString (trimString value))
      = String.ofList (lower (trim (compose (lower (trim value.toList))))) := by
        simp [normalForm, normalChars, lowerString, trimString]
    _ = String.ofList (lower (lower (trim (compose (trim value.toList))))) := by
        rw [h, trim_lower]
    _ = normalForm value := by
        rw [lower_lower, trim_compose_trim]
        rfl

theorem lowerString_eq_empty (h : lowerString value = "") : value = "" := by
  rw [lowerString, String.ofList_eq_empty_iff] at h
  cases hvalue : value.toList with
  | nil => simpa using hvalue
  | cons c rest =>
      rw [hvalue, lower, lowerFrom] at h
      exact absurd (List.append_eq_nil_iff.mp h).1 lowerBetween_ne_nil

/-- A text of either alphabet is steady. -/
theorem isSteady_of_script (h : Script.ofString value ≠ .unknown) : IsSteady value :=
  Script.compose_lower_trim h

example : IsSteady "Śakti" := isSteady_of_script (by decide)

/-- A text without accented letters and marks is steady. -/
theorem isSteady_of_lt (h : ∀ c ∈ value.toList, c.toNat < 0xC0) : IsSteady value := by
  obtain ⟨front, back, -, -, hvalue⟩ := exists_trimBy isBlank value.toList
  have htrim : ∀ c ∈ trim value.toList, c.toNat < 0xC0 := by
    intro c hc
    refine h c ?_
    rw [hvalue]
    exact List.mem_append_left _ (List.mem_append_right _ hc)
  have hlower : ∀ c ∈ lower (trim value.toList), c.toNat < 0xC0 :=
    toNat_lt_of_mem_lowerFrom htrim
  rw [IsSteady, compose_of_lt htrim, compose_of_lt hlower]

end Text

theorem genderName_eq_empty {gender : String} (h : genderName gender = "") : gender = "" := by
  unfold genderName at h
  split at h
  case h_10 => exact h
  all_goals exact absurd h (by decide)

/-- No long name of a gender has the normal form of its letter. -/
theorem normalForm_genderName_iff {gender : String} :
    Text.normalForm (genderName gender) = Text.normalForm gender ↔
      genderName gender = gender := by
  unfold genderName
  split
  case h_10 => simp
  all_goals decide +kernel

theorem Field.kept_ne_empty (hvalue : value ≠ "") : field.kept value ≠ "" := by
  intro h
  cases field with
  | surface | headword | base => exact hvalue h
  | caseName | category => exact hvalue (Text.lowerString_eq_empty h)
  | gender => exact hvalue (Text.lowerString_eq_empty (genderName_eq_empty h))

/-- An attribute is kept with the normal form that it was given with, except for a
gender under a long name. -/
theorem Field.normalForm_kept_iff (hsteady : field.isFolded = true → Text.IsSteady value) :
    Text.normalForm (field.kept (Text.trimString value)) = Text.normalForm value ↔
      (field = .gender → IsShortGender value) := by
  cases field with
  | surface | headword | base => simp [kept, Text.normalForm_trimString]
  | caseName | category => simp [kept, Text.normalForm_lowerString (hsteady rfl)]
  | gender =>
      rw [kept, ← Text.normalForm_lowerString (hsteady rfl), normalForm_genderName_iff]
      simp [IsShortGender]

/-! The names of the attributes are keys in snake case, and each is among the names
under which a record may give the attribute. -/

theorem Field.snakeCase_of_ofName? (h : Field.ofName? key = some field) :
    Text.snakeCase key = key := by
  unfold ofName? at h
  split at h
  case h_7 => cases h
  all_goals decide

theorem Field.ofAlias?_of_ofName? (h : Field.ofName? key = some field) :
    Field.ofAlias? key = some field := by
  unfold ofName? at h
  split at h <;> first | exact h | cases h

theorem isOwnKey_of_ofName? (h : Field.ofName? key = some field) : IsOwnKey key :=
  ⟨Field.snakeCase_of_ofName? h, by rw [Field.ofAlias?_of_ofName? h, h]⟩

/-- What a record gives that has one text under one key. -/
def Particulars.ofEntry (key value : String) : Particulars :=
  (⟨[], []⟩ : Particulars).take (Text.snakeCase key) (.text value)

theorem readParticulars_ofEntry (index : Nat) (key value : String) :
    readParticulars index (.ofEntry key value) = .ok (.ofEntry key value) := rfl

theorem WordGroup.words_of_read_ofEntry {group : WordGroup}
    (h : WordGroup.read (.list [.ofEntry key value]) = .ok group) :
    ∃ word, group.words = [word] ∧ Word.build 0 (.ofEntry key value) = .ok word := by
  obtain ⟨items, hitems, h⟩ := bind_eq_ok.mp h
  cases hitems
  obtain ⟨words, hwords, h⟩ := bind_eq_ok.mp h
  cases h
  obtain ⟨reading, hreading, hwords⟩ := bind_eq_ok.mp hwords
  cases hwords
  obtain ⟨given, hgiven, hreading⟩ := bind_eq_ok.mp hreading
  rw [readParticulars_ofEntry, Except.ok.injEq] at hgiven
  subst hgiven
  obtain ⟨script, -, hreading⟩ := bind_eq_ok.mp hreading
  split at hreading
  · rename_i word hword
    cases hreading
    exact ⟨word, rfl, hword⟩
  · cases hreading

/-- An attribute is found under its own name, and a flag under a key in snake case. -/
theorem Word.value_of_build (hvalue : Text.isBlankString value = false)
    (h : Word.build index (.ofEntry key value) = .ok word) :
    word.value key =
      match Field.ofName? key with
      | some field => .text (field.kept (Text.trimString value))
      | none => if IsOwnKey key then .text value else .null := by
  have hshown : Text.trimString value ≠ "" := by
    rw [ne_eq, ← Text.isBlankString_eq_true, hvalue]
    exact Bool.false_ne_true
  cases hname : Field.ofName? key with
  | some field =>
      have hnamed := Field.ofAlias?_eq_some.mp (Field.ofAlias?_of_ofName? hname)
      have hlookup : (Particulars.ofEntry key value).fields.lookup field = some (.text value) := by
        rw [Particulars.ofEntry, Particulars.lookup_take, Field.snakeCase_of_ofName? hname]
        simp [hnamed, Datum.isNull]
      obtain ⟨text, htext, hfield⟩ := Word.field_build h field
      rw [Particulars.text?_of_text hlookup, Except.ok.injEq] at htext
      subst htext
      simp [Word.value, hname, hfield, Field.kept_ne_empty hshown]
  | none =>
      have hflags : word.value key = (Particulars.ofEntry key value).flags.value key := by
        rw [← Word.build_flags h, Word.value, hname]
      rw [hflags, Particulars.ofEntry, Particulars.take]
      cases halias : Field.ofAlias? (Text.snakeCase key) with
      | some field =>
          have hforeign : ¬ IsOwnKey key := by
            rintro ⟨hsnake, hfirst⟩
            rw [hsnake, hfirst, hname] at halias
            cases halias
          simp [hforeign, Datum.isNull, Flags.value]
      | none =>
          have hown : IsOwnKey key ↔ key = Text.snakeCase key := by
            constructor
            · exact fun h => h.1.symm
            · exact fun h => ⟨h.symm, by rw [hname, ← halias, ← h]⟩
          simp only [Flags.value, Flags.put, Flags.get?_cons, hown, Flags.get?_nil]
          split <;> rfl

theorem Word.meetsAll?_ofEntry (word : Word) (key value : String) :
    word.meetsAll? (.ofEntry key value) = matchesLiteral? (word.value key) (.text value) :=
  allOf?_singleton _ _

theorem Word.meetsAll?_of_build (hvalue : Text.isBlankString value = false)
    (hsteady : ∀ field, Field.ofName? key = some field → field.isFolded = true →
      Text.IsSteady value)
    (h : Word.build index (.ofEntry key value) = .ok word) :
    word.meetsAll? (.ofEntry key value) = .ok (decide (IsKeptUnder key value)) := by
  rw [Word.meetsAll?_ofEntry, Word.value_of_build hvalue h]
  cases hname : Field.ofName? key with
  | some field =>
      have hkept := Field.normalForm_kept_iff (hsteady field hname)
      simp [matchesLiteral?_text, hkept, IsKeptUnder, isOwnKey_of_ofName? hname, hname]
  | none =>
      by_cases hown : IsOwnKey key
      · simp [matchesLiteral?_text, IsKeptUnder, hown, hname]
      · simp [matchesLiteral?_null, IsKeptUnder, hown]

theorem Context.read_ofEntry (key value : String) :
    Context.read (.ofEntry key value) = .ok ⟨[(Text.snakeCase key, .text value)]⟩ := rfl

theorem Context.satisfies?_ofEntry (context : Context) (key value : String) :
    context.satisfies? (.ofEntry key value) (.map []) =
      matchesLiteral? (context.value key) (.text value) := by
  have hgate : context.satisfies? (.ofEntry key value) (.map []) =
      (allOf? context.matches? [(.text key, .text value)] >>= fun granted =>
        if granted then .ok true else .ok false) := rfl
  have hentry : context.matches? (.text key, .text value) =
      matchesLiteral? (context.value key) (.text value) := rfl
  rw [hgate, allOf?_singleton, hentry]
  rcases matchesLiteral? (context.value key) (.text value) with fault | held
  · rfl
  · cases held <;> rfl

theorem Context.satisfies?_of_read {context : Context}
    (h : Context.read (.ofEntry key value) = .ok context) :
    context.satisfies? (.ofEntry key value) (.map []) =
      .ok (decide (Text.snakeCase key = key)) := by
  rw [Context.read_ofEntry, Except.ok.injEq] at h
  subst h
  rw [Context.satisfies?_ofEntry, Context.value, Flags.value, Flags.get?_cons]
  by_cases hkey : Text.snakeCase key = key
  · simp [hkey, matchesLiteral?_text]
  · rw [if_neg (Ne.symm hkey)]
    simp [hkey, matchesLiteral?_null]

/-- One text under one key, given as a record and asked for by a rule: the word has it
under the key, unless the key is not one that a rule asks by or the text is a long name
of a gender.  A call has it under the key if the key is in snake case. -/
theorem Word.meetsAll?_as_given {group : WordGroup} (hvalue : Text.isBlankString value = false)
    (hread : WordGroup.read (.list [.ofEntry key value]) = .ok group) :
    (∃ word, group.words = [word]
      ∧ ((∀ field, Field.ofName? key = some field → field.isFolded = true →
          Text.IsSteady value) →
        word.meetsAll? (.ofEntry key value) = .ok (decide (IsKeptUnder key value))))
      ∧ ∃ context, Context.read (.ofEntry key value) = .ok context
        ∧ context.satisfies? (.ofEntry key value) (.map []) =
          .ok (decide (Text.snakeCase key = key)) := by
  obtain ⟨word, hwords, hbuild⟩ := WordGroup.words_of_read_ofEntry hread
  exact ⟨⟨word, hwords, fun hsteady => Word.meetsAll?_of_build hvalue hsteady hbuild⟩,
    _, Context.read_ofEntry key value, Context.satisfies?_of_read (Context.read_ofEntry key value)⟩

theorem Word.meetsAll?_as_given_feminine :
    Text.isBlankString " F " = false ∧ Text.IsSteady " F "
      ∧ ∃ group, WordGroup.read (.list [.ofEntry "gender" " F "]) = .ok group
        ∧ (∃ word, group.words = [word] ∧ word.meetsAll? (.ofEntry "gender" " F ") = .ok true)
        ∧ ∃ context, Context.read (.ofEntry "gender" " F ") = .ok context
          ∧ context.satisfies? (.ofEntry "gender" " F ") (.map []) = .ok true := by
  have hvalue : Text.isBlankString " F " = false := by decide
  have hsteady : Text.IsSteady " F " := Text.isSteady_of_lt (by simp)
  have hkept : IsKeptUnder "gender" " F " := by decide +kernel
  have hkey : Text.snakeCase "gender" = "gender" := by decide
  obtain ⟨group, hread⟩ : ∃ group, WordGroup.read (.list [.ofEntry "gender" " F "]) = .ok group :=
    ⟨_, rfl⟩
  obtain ⟨⟨word, hwords, hmeets⟩, hcall⟩ := Word.meetsAll?_as_given hvalue hread
  rw [decide_eq_true hkept] at hmeets
  rw [decide_eq_true hkey] at hcall
  exact ⟨hvalue, hsteady, group, hread, ⟨word, hwords, hmeets fun _ _ _ => hsteady⟩, hcall⟩

/-- A long name of a gender is not found again, nor is a flag whose key is not in snake
case. -/
theorem Word.meetsAll?_long_gender :
    Text.isBlankString "masc" = false
      ∧ (∃ group word, WordGroup.read (.list [.ofEntry "gender" "masc"]) = .ok group
        ∧ group.words = [word] ∧ word.meetsAll? (.ofEntry "gender" "masc") = .ok false)
      ∧ ∃ context, Context.read (.ofEntry "isPlural" "masc") = .ok context
        ∧ context.satisfies? (.ofEntry "isPlural" "masc") (.map []) = .ok false :=
  ⟨by decide, ⟨_, _, rfl, rfl, rfl⟩, _, rfl, rfl⟩

end SutraArbiter
