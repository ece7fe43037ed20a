import SutraArbiter.Engine
import SutraArbiter.Proofs.Steps
import SutraArbiter.Proofs.Text.SnakeCase

namespace SutraArbiter

/-! How a caller spells a key.  Keys are read in snake case, and are so already once they
are spelled in it: an answer does not change when the keys of a call are rewritten. -/

namespace Datum

/-- A key as it is read.  Only a text is spelled in more than one way. -/
def inSnakeCase : Datum → Datum
  | .text name => .text (Text.snakeCase name)
  | key => key

end Datum

/-- The same entries under keys in snake case, each in its place. -/
def Entries.inSnakeCase (entries : Entries) : Entries :=
  entries.map fun entry => (entry.1.inSnakeCase, entry.2)

namespace Datum

/-- A map whose own keys are put in snake case; the values under them stay as they are. -/
def respelled : Datum → Datum
  | .map entries => .map (Entries.inSnakeCase entries)
  | d => d

/-- A sequence of words in which the keys of each record are put in snake case. -/
def recordsRespelled : Datum → Datum
  | .list items => .list (items.map respelled)
  | .tuple items => .tuple (items.map respelled)
  | d => d

/-- What is done with a key once it is in snake case is the same for either spelling. -/
theorem bind_plain?_inSnakeCase {α : Type} (key : Datum) (next : String → Except Fault α) :
    (key.inSnakeCase.plain? >>= fun name => next (Text.snakeCase name)) =
      key.plain? >>= fun name => next (Text.snakeCase name) := by
  cases key with
  | text name => simp [inSnakeCase]
  | _ => rfl

theorem kind_respelled (d : Datum) : d.respelled.kind = d.kind := by
  cases d <;> rfl

theorem holds_respelled (d : Datum) : d.respelled.holds = d.holds := by
  cases d with
  | map entries => simp [respelled, holds, Entries.inSnakeCase]
  | _ => rfl

end Datum

theorem Flags.read_inSnakeCase (flags : Flags) (entries : Entries) :
    Flags.read flags entries.inSnakeCase = Flags.read flags entries := by
  induction entries generalizing flags with
  | nil => rfl
  | cons entry rest ih =>
      calc Flags.read flags (Entries.inSnakeCase (entry :: rest))
          = entry.1.inSnakeCase.plain? >>= fun name =>
              Flags.read (flags.put (Text.snakeCase name) entry.2) (Entries.inSnakeCase rest) := rfl
        _ = entry.1.plain? >>= fun name =>
              Flags.read (flags.put (Text.snakeCase name) entry.2) rest := by
            simp only [ih]
            exact entry.1.bind_plain?_inSnakeCase fun name =>
              Flags.read (flags.put name entry.2) rest
        _ = Flags.read flags (entry :: rest) := rfl

theorem Context.read_respelled (context : Datum) :
    Context.read context.respelled = Context.read context := by
  unfold Context.read
  rw [Datum.holds_respelled]
  cases context with
  | map entries =>
      simp only [Datum.respelled, Datum.entriesFor?, ok_bind, Flags.read_inSnakeCase]
  | _ => rfl

theorem Particulars.read_inSnakeCase (given : Particulars) (entries : Entries) :
    given.read entries.inSnakeCase = given.read entries := by
  induction entries generalizing given with
  | nil => rfl
  | cons entry rest ih =>
      calc given.read (Entries.inSnakeCase (entry :: rest))
          = entry.1.inSnakeCase.plain? >>= fun name =>
              (given.take (Text.snakeCase name) entry.2).read (Entries.inSnakeCase rest) := rfl
        _ = entry.1.plain? >>= fun name =>
              (given.take (Text.snakeCase name) entry.2).read rest := by
            simp only [ih]
            exact entry.1.bind_plain?_inSnakeCase fun name => (given.take name entry.2).read rest
        _ = given.read (entry :: rest) := rfl

theorem readWord_respelled (index : Nat) (item : Datum) :
    readWord index item.respelled = readWord index item := by
  cases item with
  | map entries =>
      simp only [readWord, readParticulars, Datum.respelled, Particulars.read_inSnakeCase]
  | _ => rfl

theorem readWords_respelled (index : Nat) (items : List Datum) :
    readWords index (items.map Datum.respelled) = readWords index items := by
  induction items generalizing index with
  | nil => rfl
  | cons item rest ih => simp only [List.map_cons, readWords, readWord_respelled, ih]

theorem WordGroup.read_recordsRespelled (words : Datum) :
    WordGroup.read words.recordsRespelled = WordGroup.read words := by
  cases words with
  | list items | tuple items =>
      simp only [Datum.recordsRespelled, WordGroup.read, WordGroup.items, ok_bind,
        List.isEmpty_map, readWords_respelled]
  | _ => rfl

namespace Engine

theorem readContext_respelled (script : Option Script) (context : Datum) :
    readContext script context.respelled = readContext script context := by
  cases context with
  | map entries =>
      have hread := Context.read_respelled (.map entries)
      simp only [readContext, Datum.respelled] at hread ⊢
      rw [hread]
  | _ => rfl

theorem noteRejection_respelled (rejection : Rejection) (context : Datum) :
    noteRejection rejection context.respelled = noteRejection rejection context := by
  unfold noteRejection
  rw [Datum.kind_respelled]

/-- Snake case is the spelling of a key that is in snake case.  Whatever keys a caller
spells in it, in the flags or in the records, the call is the same call: the flags, the
words and the answer are those of the spelling that was given. -/
theorem resolve_respelled (engine : Engine) (words context scope : Datum) :
    (∀ key, Text.snakeCase (Text.snakeCase key) = Text.snakeCase key)
      ∧ Context.read context.respelled = Context.read context
      ∧ WordGroup.read words.recordsRespelled = WordGroup.read words
      ∧ engine.resolve words.recordsRespelled context.respelled scope =
        engine.resolve words context scope := by
  refine ⟨Text.snakeCase_snakeCase, Context.read_respelled context,
    WordGroup.read_recordsRespelled words, ?_⟩
  unfold resolve
  simp only [WordGroup.read_recordsRespelled, readContext_respelled, noteRejection_respelled]

end Engine

end SutraArbiter
