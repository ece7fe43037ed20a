import SutraArbiter.Proofs.Pack.Answer
import SutraArbiter.Proofs.Word.BreakingOff

namespace SutraArbiter

/-- The flags name one of their entries by a datum without a text. -/
def Context.BreaksOff (flags : Datum) : Prop :=
  ∃ entries, flags = .map entries ∧ ∃ entry ∈ entries, entry.1.isOverlong = true

/-- The call is turned away: its words are no words, or its flags are neither a map nor
left out. -/
def Engine.TurnsAway (words flags : Datum) : Prop :=
  (∃ rejection, WordGroup.read words = .error (.rejected rejection))
    ∨ (∃ group, WordGroup.read words = .ok group) ∧ flags.isMap = false ∧ flags.isNull = false

namespace Pack

variable {registry : Registry} {words flags : Datum}

/-- Words and flags that are read are answered. -/
theorem exists_of_read (h : registry.IsBundled) {group : WordGroup} {context : Context}
    (hwords : WordGroup.read words = .ok group)
    (hflags : Engine.readContext group.script flags = .ok context) :
    ∃ envelope, ((usualEngine registry).resolve words flags .null).result = .ok envelope := by
  have hcall : (usualEngine registry).Hears words flags .null group context [Tags.family] :=
    ⟨hwords, hflags, rfl⟩
  rw [hcall.resolve_result]
  exact arbitrate_usual h (WordGroup.placed_of_read hwords) context

theorem resolve_usual_eq_error (h : registry.IsBundled) (failure : Failure) :
    ((usualEngine registry).resolve words flags .null).result = .error failure ↔
      failure = .fault .overlongInteger
        ∧ (WordGroup.BreaksOff words
          ∨ (∃ group, WordGroup.read words = .ok group) ∧ Context.BreaksOff flags) := by
  -- Data break off the reading exactly where the reading says so.
  have hbreaks : WordGroup.BreaksOff words ↔
      WordGroup.read words = .error (.fault .overlongInteger) := by
    rw [WordGroup.read_eq_fault, and_iff_right rfl]
  have hkeyed (script : Option Script) : Context.BreaksOff flags ↔
      Engine.readContext script flags = .error (.fault .overlongInteger) := by
    rw [Engine.readContext_eq_fault, and_iff_right rfl]
    rfl
  cases hwords : WordGroup.read words with
  | error unusable =>
      rw [Engine.resolve_result_of_unreadable hwords, hbreaks, hwords]
      cases unusable with
      | fault fault =>
          obtain ⟨rfl, -⟩ := WordGroup.read_eq_fault.mp hwords
          simp [Engine.answerUnusable, eq_comm]
      | rejected rejection => simp [Engine.answerUnusable]
  | ok group =>
      rw [hbreaks, hkeyed group.script, hwords]
      cases hflags : Engine.readContext group.script flags with
      | error unusable =>
          rw [Engine.resolve_result_of_unusable hwords hflags]
          cases unusable with
          | fault fault =>
              obtain ⟨rfl, -⟩ := Engine.readContext_eq_fault.mp hflags
              simp [Engine.answerUnusable, eq_comm]
          | rejected rejection => simp [Engine.answerUnusable]
      | ok context =>
          obtain ⟨envelope, henvelope⟩ := exists_of_read h hwords hflags
          simp [henvelope]

end Pack

theorem Engine.resolve_turned_away {engine : Engine} {words flags scope : Datum}
    (h : TurnsAway words flags) :
    ∃ rejection, (engine.resolve words flags scope).result = .ok (.ofRejection rejection) := by
  rcases h with ⟨rejection, hwords⟩ | ⟨⟨group, hwords⟩, hmap, hnull⟩
  · exact ⟨rejection, resolve_result_of_unreadable hwords⟩
  · have hflags : ∃ rejection, readContext group.script flags = .error (.rejected rejection) := by
      cases flags with
      | null => cases hnull
      | map entries => cases hmap
      | _ => exact ⟨_, rfl⟩
    obtain ⟨rejection, hflags⟩ := hflags
    exact ⟨rejection, resolve_result_of_unusable hwords hflags⟩

namespace Pack

/-- The usual engine answers every call except where a text is asked for and an integer
too long for one stands there: a key or an attribute of a word, or, once the words are
read, a key of the flags.  Unusable words and flags are answered as invalid input. -/
theorem resolve_usual_total (files : Files) :
    ∃ engine, (Config.usual.engine files none).result = .ok engine
      ∧ ∀ words flags : Datum,
        (∀ failure, (engine.resolve words flags .null).result = .error failure ↔
          failure = .fault .overlongInteger
            ∧ (WordGroup.BreaksOff words
              ∨ (∃ group, WordGroup.read words = .ok group) ∧ Context.BreaksOff flags))
        ∧ (Engine.TurnsAway words flags →
          ∃ envelope error, (engine.resolve words flags .null).result = .ok envelope
            ∧ envelope.applied = false ∧ envelope.reason = .text "invalid-input"
            ∧ envelope.error = some error) := by
  obtain ⟨registry, hbundled, hengine⟩ := Config.engine_usual files
  refine ⟨usualEngine registry, hengine, fun words flags =>
    ⟨resolve_usual_eq_error hbundled, fun haway => ?_⟩⟩
  obtain ⟨rejection, hresult⟩ := Engine.resolve_turned_away haway
  exact ⟨_, rejection.error, hresult, rfl, rfl, rfl⟩

/-- A form beside an entry whose key is the least integer that has no text. -/
def overlongKey : Datum :=
  .list [.map [(.int (Nat.pow 10 Number.digitLimit), .bool true), (.text "form", .text "tat")]]

/-- A call of the usual engine that ends in a fault. -/
theorem resolve_overlongKey : ∃ engine,
    (Config.usual.engine ⟨"", []⟩ none).result = .ok engine
      ∧ (engine.resolve overlongKey .null .null).result = .error (.fault .overlongInteger) := by
  obtain ⟨registry, hbundled, hengine⟩ := Config.engine_usual ⟨"", []⟩
  refine ⟨usualEngine registry, hengine, ?_⟩
  have hlong : (Datum.int (Nat.pow 10 Number.digitLimit)).isOverlong = true :=
    Datum.isOverlong_natCast (Nat.le_refl _)
  have hbreaks : WordGroup.BreaksOff overlongKey :=
    ⟨[], _, [], rfl, by simp, .inl ⟨_, List.mem_cons_self, hlong⟩⟩
  exact (resolve_usual_eq_error hbundled _).mpr ⟨rfl, .inl hbreaks⟩

end Pack

end SutraArbiter
