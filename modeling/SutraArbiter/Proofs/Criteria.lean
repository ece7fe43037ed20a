import SutraArbiter.Criteria
import SutraArbiter.Lexicon
import SutraArbiter.Proofs.Flags
import SutraArbiter.Proofs.Rule.Parameters

namespace SutraArbiter

/-- Everything a word carries can be written out. -/
def Word.IsClear (word : Word) : Prop :=
  ∀ key, (word.value key).isOverlong = false

/-- Keys that can be looked up, and literals that can be written out. -/
def IsCriteria (criteria : Entries) : Prop :=
  ∀ entry ∈ criteria, entry.1.unfitKind? = none ∧ entry.2.isOverlong = false

theorem matchesLiteral?_text (actual wanted : String) :
    matchesLiteral? (.text actual) (.text wanted) =
      .ok (decide (Text.normalForm actual = Text.normalForm wanted)) := rfl

theorem matchesLiteral?_null (wanted : String) :
    matchesLiteral? .null (.text wanted) = .ok false := rfl

theorem exists_sameText {actual literal : Datum} (hactual : actual.isOverlong = false)
    (hliteral : literal.isOverlong = false) :
    ∃ held, (if actual.isNull then .ok false
      else do
        let given ← actual.plain?
        let wanted ← literal.plain?
        pure (Text.normalForm given = Text.normalForm wanted) : Except Fault Bool) =
          .ok held := by
  rw [Datum.plain?_eq_ok hactual, Datum.plain?_eq_ok hliteral]
  split
  · exact ⟨false, rfl⟩
  · exact ⟨_, rfl⟩

mutual

theorem exists_matchesLiteral? {actual : Datum} (hactual : actual.isOverlong = false) :
    (literal : Datum) → literal.isOverlong = false →
      ∃ held, matchesLiteral? actual literal = .ok held
  | .list options => by
      intro hliteral
      rw [matchesLiteral?]
      exact exists_matchesOption? hactual options (Datum.isOverlong_list_eq_false.mp hliteral)
  | .bool wanted => by
      intro _
      rw [matchesLiteral?]
      exact ⟨_, rfl⟩
  | .null | .int _ | .float _ | .text _ | .bytes _ | .buffer _ | .tuple _ | .map _ => by
      intro hliteral
      rw [matchesLiteral?]
      · exact exists_sameText hactual hliteral
      all_goals simp

theorem exists_matchesOption? {actual : Datum} (hactual : actual.isOverlong = false) :
    (options : List Datum) → (∀ option ∈ options, option.isOverlong = false) →
      ∃ held, matchesOption? actual options = .ok held
  | [] => fun _ => ⟨false, rfl⟩
  | option :: rest => by
      intro hoptions
      obtain ⟨hoption, hrest⟩ := List.forall_mem_cons.mp hoptions
      obtain ⟨held, hheld⟩ := exists_matchesLiteral? hactual option hoption
      rw [matchesOption?, hheld, ok_bind]
      cases held with
      | true => exact ⟨true, rfl⟩
      | false => exact exists_matchesOption? hactual rest hrest

end

theorem exists_meets? {actual wanted : Datum} (hactual : actual.isOverlong = false)
    (hwanted : wanted.isOverlong = false) : ∃ held, meets? actual wanted = .ok held := by
  unfold meets?
  split
  · rename_i entries
    have hnot : (Entries.getD entries "not" .null).isOverlong = false := by
      cases hget : Entries.get? entries "not" with
      | none =>
          rw [Entries.getD_of_get?_eq_none hget]
          rfl
      | some excluded =>
          rw [Entries.getD_of_get?_eq_some hget]
          exact (Datum.isOverlong_map_eq_false.mp hwanted _ (Entries.mem_of_get? hget)).2
    obtain ⟨held, hheld⟩ := exists_matchesLiteral? hactual _ hnot
    rw [hheld]
    split
    · exact ⟨false, rfl⟩
    · exact ⟨_, rfl⟩
  · exact exists_matchesLiteral? hactual _ hwanted

namespace Word

variable {word : Word} {criteria : Entries}

theorem lookup?_text (word : Word) (name : String) :
    word.lookup? (.text name) = .ok (word.value name) := rfl

theorem hasAt?_text (word : Word) (name : String) :
    word.hasAt? (.text name) = .ok (word.has name) := rfl

theorem exists_lookup? (hword : word.IsClear) {key : Datum} (hkey : key.unfitKind? = none) :
    ∃ actual, word.lookup? key = .ok actual ∧ actual.isOverlong = false := by
  unfold lookup?
  rw [Datum.fitKey_eq_ok.mpr hkey, ok_bind]
  split
  · rename_i name
    exact ⟨_, rfl, hword name⟩
  · exact ⟨.null, rfl, rfl⟩

def meets (criteria : Entries) (word : Word) : Bool :=
  granted (word.meetsAll? (.map criteria))

theorem meetsAll?_eq_ok (hword : word.IsClear) (hcriteria : IsCriteria criteria) :
    word.meetsAll? (.map criteria) = .ok (word.meets criteria) := by
  refine eq_granted ?_
  unfold meetsAll?
  rw [Datum.entriesFor?, ok_bind]
  refine ⟨_, allOf?_eq_ok fun entry hentry => eq_granted ?_⟩
  obtain ⟨hkey, hliteral⟩ := hcriteria entry hentry
  obtain ⟨actual, hactual, hclear⟩ := exists_lookup? hword hkey
  rw [hactual, ok_bind]
  exact exists_meets? hclear hliteral

end Word

namespace Context

variable {context : Context} {require forbid : Entries}

theorem lookup?_text (context : Context) (name : String) :
    context.lookup? (.text name) = .ok (context.value name) := rfl

/-- Whether the context meets what a gate asks of it. -/
def passes (require forbid : Entries) (context : Context) : Bool :=
  granted (context.satisfies? (.map require) (.map forbid))

theorem exists_matches? (hcontext : context.IsClear) {entry : Datum × Datum}
    (hkey : entry.1.unfitKind? = none) (hliteral : entry.2.isOverlong = false) :
    ∃ held, context.matches? entry = .ok held := by
  have hactual : ∃ actual, context.lookup? entry.1 = .ok actual
      ∧ actual.isOverlong = false := by
    unfold lookup?
    rw [Datum.fitKey_eq_ok.mpr hkey, ok_bind]
    split
    · rename_i name _
      exact ⟨_, rfl, hcontext name⟩
    · exact ⟨.null, rfl, rfl⟩
  obtain ⟨actual, hlookup, hclear⟩ := hactual
  unfold matches?
  rw [hlookup, ok_bind]
  exact exists_matchesLiteral? hclear _ hliteral

theorem satisfies?_eq_ok (hcontext : context.IsClear) (hrequire : IsCriteria require)
    (hforbid : IsCriteria forbid) :
    context.satisfies? (.map require) (.map forbid) =
      .ok (context.passes require forbid) := by
  have hmatches : ∀ {gate : Entries}, IsCriteria gate → ∀ entry ∈ gate,
      context.matches? entry = .ok (granted (context.matches? entry)) := by
    intro gate hgate entry hentry
    obtain ⟨hkey, hliteral⟩ := hgate entry hentry
    exact eq_granted (exists_matches? hcontext hkey hliteral)
  refine eq_granted ?_
  unfold satisfies?
  rw [Datum.entriesFor?, ok_bind, allOf?_eq_ok (hmatches hrequire), ok_bind]
  split
  · rw [Datum.entriesFor?, ok_bind, anyOf?_eq_ok (hmatches hforbid)]
    exact ⟨_, rfl⟩
  · exact ⟨false, rfl⟩

end Context

namespace Lexicon

variable {table : Entries}

def shelfWords (table : Entries) (shelf : String) : List String :=
  match table.get? shelf with
  | some (.list items) =>
      items.filterMap fun item =>
        match item with
        | .text word => some (Text.normalForm word)
        | _ => none
  | _ => []

def listsForm (table : Entries) (form : String) : Bool :=
  match (Script.ofString form).shelf? with
  | none => false
  | some shelf => (shelfWords table shelf).contains form

def lists (table : Entries) (word : Word) : Bool :=
  word.forms.any (listsForm table)

theorem normalEntries?_eq_ok {listed : Datum} {texts : List String}
    (h : listed.items? = .ok (texts.map .text)) :
    normalEntries? listed = .ok (texts.map Text.normalForm) := by
  have hfit : Datum.fitKey (.tuple (texts.map .text)) = .ok () := by
    rw [Datum.fitKey_eq_ok, Datum.unfitKind?, Datum.unfitKindAmong?_text]
  unfold normalEntries?
  rw [h, ok_bind, hfit, ok_bind, List.mapM_map]
  exact mapM_eq_ok fun _ _ => rfl

theorem normalEntries?_ofStrings (listed : List String) :
    normalEntries? (Datum.ofStrings listed) = .ok (listed.map Text.normalForm) :=
  normalEntries?_eq_ok rfl

theorem lists?_eq_ok (hproper : IsProper table) (form : String) :
    lists? (.map table) form = .ok (listsForm table form) := by
  unfold lists? listsForm
  cases (Script.ofString form).shelf? with
  | none => rfl
  | some shelf =>
      unfold shelfWords
      simp only [Datum.getD?, Datum.entriesFor?, ok_bind, Entries.getD]
      cases hget : table.get? shelf with
      | none => rfl
      | some given =>
          obtain ⟨listed, hlisted⟩ := hproper _ (Entries.mem_of_get? hget)
          dsimp only at hlisted
          have hwords : (listed.map Datum.text).filterMap (fun item =>
              match item with
              | .text word => some (Text.normalForm word)
              | _ => none) = listed.map Text.normalForm := by
            rw [List.filterMap_map, ← List.filterMap_eq_map]
            rfl
          rw [hlisted]
          simp only [pure, Except.pure, Option.getD_some, ok_bind, normalEntries?_ofStrings]
          rw [Datum.ofStrings]
          dsimp only
          rw [hwords]

theorem contains?_eq_ok (hproper : IsProper table) (word : Word) :
    contains? (.map table) word = .ok (lists table word) :=
  anyOf?_eq_ok fun form _ => lists?_eq_ok hproper form

end Lexicon

end SutraArbiter
