import SutraArbiter.Proofs.Rule.Acceptance
import SutraArbiter.Proofs.Text.Lines

namespace SutraArbiter

open Text

/-! What is said of a rule that departs from the grammar is said on one line: data of the
rule are quoted, and all else that a message repeats is a name of the grammar. -/

/-- The names that a message repeats as they are. -/
def Violation.names : Violation → List String
  | missingKey key | missingMetadata key | metadataText key | contextFlags key
  | missingParameter _ key | parameterText key | filters key | settingText key => [key]
  | lexiconEntries _ script => [script]
  | _ => []

namespace Violation

variable {violation : Violation}

theorem isUnbroken_repr (n : Nat) : IsUnbroken n.repr.toList := by
  rw [Nat.repr, String.toList_ofList]
  exact isUnbroken_toDigits (by decide) (by decide) n

theorem isUnbroken_kind (kind : Kind) : IsUnbroken kind.label.toList := by
  cases kind <;> exact isUnbroken_ofList (by decide)

theorem isUnbroken_strategy (strategy : Strategy) : IsUnbroken strategy.name.toList := by
  cases strategy <;> exact isUnbroken_ofList (by decide)

theorem isUnbroken_label (place : LexiconPlace) : IsUnbroken place.label.toList := by
  cases place with
  | retain pair | drop pair =>
      simp only [LexiconPlace.label, toString, String.toList_append, isUnbroken_append]
      exact ⟨⟨isUnbroken_ofList (by decide), isUnbroken_repr pair⟩, isUnbroken_ofList (by decide)⟩
  | series => decide

theorem isUnbroken_quotedNames (names : List String) : IsUnbroken (quotedNames names).toList :=
  Datum.isUnbroken_quoted _

theorem isUnbroken_quotedKeys (keys : List Datum) : IsUnbroken (quotedKeys keys).toList :=
  Datum.isUnbroken_quoted _

theorem isUnbroken_unknownKeysMessage (keys : List Datum) (part : Part) :
    IsUnbroken (unknownKeysMessage keys part).toList := by
  have hkeys := isUnbroken_quotedKeys keys
  unfold unknownKeysMessage
  cases part
  all_goals simp only [toString, String.toList_append, isUnbroken_append]
  case matching strategy =>
    exact ⟨⟨⟨isUnbroken_ofList (by decide), isUnbroken_strategy strategy⟩,
      isUnbroken_ofList (by decide)⟩, hkeys⟩
  all_goals exact ⟨isUnbroken_ofList (by decide), hkeys⟩

/-- A message keeps to one line if the names in it do. -/
theorem isUnbroken_message (h : ∀ name ∈ violation.names, IsUnbroken name.toList) :
    IsUnbroken violation.message.toList := by
  unfold message
  cases violation
  all_goals simp only [toString, String.toList_append, isUnbroken_append]
  case unknownKeys part keys => exact isUnbroken_unknownKeysMessage keys part
  case notMapping kind => exact ⟨isUnbroken_ofList (by decide), isUnbroken_kind kind⟩
  case ruleId given | version given | tag given | confidence given | flagConfidence given
      | minWords given =>
    exact ⟨isUnbroken_ofList (by decide), Datum.isUnbroken_quoted given⟩
  case tier given | matchStrategy given | actionStrategy given =>
    exact ⟨⟨⟨isUnbroken_ofList (by decide), isUnbroken_quotedNames _⟩,
      isUnbroken_ofList (by decide)⟩, Datum.isUnbroken_quoted given⟩
  case missingKey key | missingMetadata key | metadataText key | contextFlags key
      | parameterText key | filters key | settingText key =>
    exact ⟨⟨isUnbroken_ofList (by decide), h key List.mem_cons_self⟩, isUnbroken_ofList (by decide)⟩
  case missingParameter strategy key =>
    exact ⟨⟨⟨⟨isUnbroken_ofList (by decide), isUnbroken_strategy strategy⟩,
      isUnbroken_ofList (by decide)⟩, h key List.mem_cons_self⟩, isUnbroken_ofList (by decide)⟩
  case pairKeys pair =>
    exact ⟨⟨isUnbroken_ofList (by decide), isUnbroken_repr pair⟩, isUnbroken_ofList (by decide)⟩
  case lexicon place => exact ⟨isUnbroken_label place, isUnbroken_ofList (by decide)⟩
  case lexiconScripts place keys =>
    exact ⟨⟨isUnbroken_label place, isUnbroken_ofList (by decide)⟩, isUnbroken_quotedKeys keys⟩
  case lexiconEntries place script =>
    exact ⟨⟨⟨isUnbroken_label place, isUnbroken_ofList (by decide)⟩, h script List.mem_cons_self⟩,
      isUnbroken_ofList (by decide)⟩
  all_goals exact isUnbroken_ofList (by decide)

end Violation

/-- What is objected to is told on one line. -/
def ObjectsOnOneLine {α : Type} (check : Except Objection α) : Prop :=
  ∀ violation, check = .error (.violation violation) → IsUnbroken violation.message.toList

section

variable {α β : Type} {violation : Violation}

theorem ObjectsOnOneLine.bind {first : Except Objection α} {next : α → Except Objection β}
    (hfirst : ObjectsOnOneLine first)
    (hnext : ∀ value, first = .ok value → ObjectsOnOneLine (next value)) :
    ObjectsOnOneLine (first >>= next) := by
  intro violation h
  rcases bind_eq_error.mp h with h | ⟨value, hvalue, h⟩
  · exact hfirst violation h
  · exact hnext value hvalue violation h

theorem objectsOnOneLine_ok (value : α) : ObjectsOnOneLine (.ok value) :=
  nofun

theorem objectsOnOneLine_fault (fault : Fault) :
    ObjectsOnOneLine (.error (.fault fault) : Except Objection α) :=
  nofun

theorem objectsOnOneLine_object (h : ∀ name ∈ violation.names, IsUnbroken name.toList) :
    ObjectsOnOneLine (object violation : Except Objection α) := by
  intro told htold
  unfold object at htold
  split at htold <;> cases htold
  exact violation.isUnbroken_message h

theorem objectsOnOneLine_plain (h : violation.names = []) :
    ObjectsOnOneLine (object violation : Except Objection α) :=
  objectsOnOneLine_object (by simp [h])

end

namespace Rule

variable {entries : Entries} {d : Datum} {key : String}

theorem onlyKeys_onOneLine {allowed : List String} {violation : List Datum → Violation}
    (hnames : ∀ keys, (violation keys).names = []) :
    ObjectsOnOneLine (onlyKeys allowed violation entries) := by
  unfold onlyKeys
  split
  · exact objectsOnOneLine_ok _
  · split
    · exact objectsOnOneLine_plain (hnames _)
    · exact objectsOnOneLine_fault _

theorem withKeys_onOneLine {required : List String} {violation : String → Violation}
    (hnames : ∀ key ∈ required, ∀ name ∈ (violation key).names, IsUnbroken name.toList) :
    ObjectsOnOneLine (withKeys required violation entries) := by
  unfold withKeys
  split
  · rename_i key hkey
    exact objectsOnOneLine_object (hnames key (List.mem_of_find?_eq_some hkey))
  · exact objectsOnOneLine_ok _

theorem optionalWording_onOneLine {violation : String → Violation}
    (hnames : ∀ name ∈ (violation key).names, IsUnbroken name.toList) :
    ObjectsOnOneLine (optionalWording violation entries key) := by
  unfold optionalWording
  repeat' split
  all_goals first
    | exact objectsOnOneLine_ok _
    | exact objectsOnOneLine_object hnames

theorem checkId_onOneLine : ObjectsOnOneLine (checkId d) := by
  unfold checkId
  repeat' split
  all_goals first
    | exact objectsOnOneLine_plain rfl
    | exact objectsOnOneLine_ok _

theorem checkVersion_onOneLine : ObjectsOnOneLine (checkVersion d) := by
  unfold checkVersion
  repeat' split
  all_goals first
    | exact objectsOnOneLine_plain rfl
    | exact objectsOnOneLine_ok _

theorem checkTier_onOneLine : ObjectsOnOneLine (checkTier d) := by
  unfold checkTier
  repeat' split
  all_goals first
    | exact objectsOnOneLine_plain rfl
    | exact objectsOnOneLine_ok _

theorem checkTags_onOneLine : ObjectsOnOneLine (checkTags d) := by
  unfold checkTags
  repeat' split
  all_goals first
    | exact objectsOnOneLine_plain rfl
    | exact objectsOnOneLine_ok _

theorem checkMetadata_onOneLine : ObjectsOnOneLine (checkMetadata d) := by
  unfold checkMetadata
  split
  · refine (onlyKeys_onOneLine fun _ => rfl).bind fun _ _ =>
      (withKeys_onOneLine (by decide)).bind fun _ _ =>
      (optionalWording_onOneLine (by decide)).bind fun _ _ =>
      (optionalWording_onOneLine (by decide)).bind fun _ _ =>
      (optionalWording_onOneLine (by decide)).bind fun _ _ =>
      (optionalWording_onOneLine (by decide)).bind fun _ _ => ?_
    dsimp only
    split
    · exact objectsOnOneLine_ok _
    · exact objectsOnOneLine_plain rfl
  · exact objectsOnOneLine_plain rfl

theorem checkGate_onOneLine (hkey : IsUnbroken key.toList) :
    ObjectsOnOneLine (checkGate entries key) := by
  unfold checkGate
  split
  · exact objectsOnOneLine_ok _
  · exact objectsOnOneLine_ok _
  · exact objectsOnOneLine_object (by simpa [Violation.names] using hkey)

theorem checkContext_onOneLine : ObjectsOnOneLine (checkContext d) := by
  unfold checkContext
  split
  · exact (onlyKeys_onOneLine fun _ => rfl).bind fun _ _ =>
      (checkGate_onOneLine (isUnbroken_ofList (by decide))).bind fun _ _ =>
      checkGate_onOneLine (isUnbroken_ofList (by decide))
  · exact objectsOnOneLine_plain rfl

theorem checkOptionalContext_onOneLine : ObjectsOnOneLine (checkOptionalContext entries) := by
  unfold checkOptionalContext
  split
  · exact objectsOnOneLine_ok _
  · exact checkContext_onOneLine

theorem readStrategy_onOneLine : ObjectsOnOneLine (readStrategy d) := by
  unfold readStrategy
  repeat' split
  all_goals first
    | exact objectsOnOneLine_plain rfl
    | exact objectsOnOneLine_ok _
    | exact objectsOnOneLine_fault _

theorem checkFlagConfidence_onOneLine : ObjectsOnOneLine (checkFlagConfidence entries) := by
  unfold checkFlagConfidence
  repeat' split
  all_goals first
    | exact objectsOnOneLine_plain rfl
    | exact objectsOnOneLine_ok _

theorem checkMinWords_onOneLine : ObjectsOnOneLine (checkMinWords entries) := by
  unfold checkMinWords
  repeat' split
  all_goals first
    | exact objectsOnOneLine_plain rfl
    | exact objectsOnOneLine_ok _

theorem checkFilters_onOneLine (hkey : IsUnbroken key.toList) :
    ObjectsOnOneLine (checkFilters entries key) := by
  unfold checkFilters
  repeat' split
  all_goals first
    | exact objectsOnOneLine_ok _
    | exact objectsOnOneLine_object (by simpa [Violation.names] using hkey)

/-- The one place where a key of the rule is repeated as it is: there it is a known one. -/
theorem checkLexicon_onOneLine {place : LexiconPlace} :
    ObjectsOnOneLine (checkLexicon place d) := by
  unfold checkLexicon
  split
  · exact objectsOnOneLine_plain rfl
  · rename_i table _
    refine (onlyKeys_onOneLine fun _ => rfl).bind fun checked hchecked => ?_
    have hknown := onlyKeys_iff.mp ⟨checked, hchecked⟩
    split
    · rename_i script hscript
      obtain ⟨entry, hentry, rfl⟩ := Option.map_eq_some_iff.mp hscript
      have hmem : entry.1 ∈ Entries.keys table :=
        List.mem_map_of_mem (List.mem_of_find?_eq_some hentry)
      obtain ⟨name, hname, hkey⟩ := hknown entry.1 hmem
      have hscripts : ∀ name ∈ ["iast", "devanagari"], IsUnbroken name.toList := by decide
      refine objectsOnOneLine_object ?_
      rw [hkey, Datum.plain_text]
      simpa [Violation.names] using hscripts name hname
    · exact objectsOnOneLine_ok _
  · exact objectsOnOneLine_plain rfl

theorem checkPair_onOneLine {number : Nat} : ObjectsOnOneLine (checkPair number d) := by
  unfold checkPair
  split
  · split
    · exact checkLexicon_onOneLine.bind fun _ _ => checkLexicon_onOneLine
    · exact objectsOnOneLine_plain rfl
  · exact objectsOnOneLine_plain rfl

theorem checkPairsFrom_onOneLine {number : Nat} {pairs : List Datum} :
    ObjectsOnOneLine (checkPairsFrom number pairs) := by
  induction pairs generalizing number with
  | nil => exact objectsOnOneLine_ok _
  | cons pair rest ih => exact checkPair_onOneLine.bind fun _ _ => ih

theorem checkPairs_onOneLine : ObjectsOnOneLine (checkPairs entries) := by
  unfold checkPairs
  split
  · exact objectsOnOneLine_ok _
  · exact objectsOnOneLine_plain rfl
  · exact checkPairsFrom_onOneLine
  · exact objectsOnOneLine_plain rfl

theorem checkSeries_onOneLine {strategy : Strategy} :
    ObjectsOnOneLine (checkSeries strategy entries) := by
  have hmissing : ObjectsOnOneLine
      (if strategy = .seriesRetention && !entries.has "series" && !entries.has "flag" then
        object .seriesOrFlag
      else pure () : Except Objection Unit) := by
    split
    · exact objectsOnOneLine_plain rfl
    · exact objectsOnOneLine_ok _
  unfold checkSeries
  cases entries.get? "series" with
  | none => exact hmissing
  | some table => exact checkLexicon_onOneLine.bind fun _ _ => hmissing

theorem checkParameters_onOneLine {strategy : Strategy} :
    ObjectsOnOneLine (checkParameters strategy entries) :=
  (onlyKeys_onOneLine fun _ => rfl).bind fun _ _ =>
    (withKeys_onOneLine (by cases strategy <;> decide)).bind fun _ _ =>
    checkFlagConfidence_onOneLine.bind fun _ _ =>
    checkMinWords_onOneLine.bind fun _ _ =>
    (optionalWording_onOneLine (by decide)).bind fun _ _ =>
    (optionalWording_onOneLine (by decide)).bind fun _ _ =>
    (checkFilters_onOneLine (isUnbroken_ofList (by decide))).bind fun _ _ =>
    (checkFilters_onOneLine (isUnbroken_ofList (by decide))).bind fun _ _ =>
    checkPairs_onOneLine.bind fun _ _ => checkSeries_onOneLine

theorem checkMatch_onOneLine : ObjectsOnOneLine (checkMatch d) := by
  unfold checkMatch
  split
  · split
    · exact objectsOnOneLine_plain rfl
    · exact readStrategy_onOneLine.bind fun _ _ => checkParameters_onOneLine
  · exact objectsOnOneLine_plain rfl

theorem checkActionName_onOneLine : ObjectsOnOneLine (checkActionName d) := by
  unfold checkActionName
  repeat' split
  all_goals first
    | exact objectsOnOneLine_plain rfl
    | exact objectsOnOneLine_ok _
    | exact objectsOnOneLine_fault _

theorem checkOptional_onOneLine : ObjectsOnOneLine (checkOptional entries) := by
  unfold checkOptional
  repeat' split
  all_goals first
    | exact objectsOnOneLine_plain rfl
    | exact objectsOnOneLine_ok _

theorem checkAction_onOneLine : ObjectsOnOneLine (checkAction d) := by
  unfold checkAction
  split
  · split
    · exact objectsOnOneLine_plain rfl
    · exact checkActionName_onOneLine.bind fun _ _ =>
        (onlyKeys_onOneLine fun _ => rfl).bind fun _ _ =>
        checkOptional_onOneLine.bind fun _ _ =>
        (optionalWording_onOneLine (by decide)).bind fun _ _ =>
        (optionalWording_onOneLine (by decide)).bind fun _ _ =>
        optionalWording_onOneLine (by decide)
  · exact objectsOnOneLine_plain rfl

/-- Whatever is wrong with a rule is told on one line. -/
theorem check_onOneLine (d : Datum) : ObjectsOnOneLine (check d) := by
  unfold check
  split
  · exact (onlyKeys_onOneLine fun _ => rfl).bind fun _ _ =>
      (withKeys_onOneLine (by decide)).bind fun _ _ =>
      checkId_onOneLine.bind fun _ _ => checkVersion_onOneLine.bind fun _ _ =>
      checkTier_onOneLine.bind fun _ _ => checkTags_onOneLine.bind fun _ _ =>
      checkMetadata_onOneLine.bind fun _ _ => checkOptionalContext_onOneLine.bind fun _ _ =>
      checkMatch_onOneLine.bind fun _ _ => checkAction_onOneLine
  · exact objectsOnOneLine_plain rfl

end Rule

end SutraArbiter
