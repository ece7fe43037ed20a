import SutraArbiter.Payload
import SutraArbiter.Proofs.Rule.Compilation

namespace SutraArbiter

/-- What a payload repeats of the settings is text. -/
def Payload.RepeatsTexts (settings : Entries) : Prop :=
  ∀ name ∈ overrideNames, ∀ value, settings.get? name = some value → value.isText = true

/-- A rule that gives a reason and whose payload repeats texts only. -/
structure Rule.IsWorded (rule : Rule) : Prop where
  reason : rule.reason ≠ ""
  planned : ∃ plan settings, rule.predicate = .plan plan
    ∧ rule.action = .retainSelection settings ∧ Payload.RepeatsTexts settings

namespace Form

theorem IsWording.ne_empty {wording : String} (h : IsWording (.text wording)) : wording ≠ "" := by
  rintro rfl
  obtain ⟨c, hc, -⟩ := h
  cases hc

theorem IsWording.isText {d : Datum} (h : IsWording d) : d.isText = true := by
  obtain ⟨wording, rfl⟩ := h.exists_text
  rfl

end Form

namespace Rule

open Form

variable {parts : Parts} {entries : Entries}

theorem IsMadeOf.reason_ne_empty (h : IsMadeOf entries parts) :
    (parts.metadata.getD "reason" (.text usualReason)).plain ≠ "" := by
  have hreason : Slot.Admits ⟨"reason", false, IsWording⟩ parts.metadata :=
    h.told.admits (by simp [metadataSlots])
  rcases hreason.getD (.text usualReason) with husual | hgiven
  · rw [husual]
    decide
  · obtain ⟨wording, hwording⟩ := hgiven.exists_text
    rw [hwording] at hgiven ⊢
    exact hgiven.ne_empty

theorem IsMadeOf.repeatsTexts (h : IsMadeOf entries parts) :
    Payload.RepeatsTexts (parts.settings.without "strategy") := by
  have hslots : ∀ name ∈ Payload.overrideNames,
      name ≠ "strategy" ∧ ⟨name, false, IsWording⟩ ∈ actionSlots := by
    simp [Payload.overrideNames, actionSlots]
  intro name hname value hvalue
  obtain ⟨hother, hslot⟩ := hslots name hname
  rw [Entries.get?_without hother] at hvalue
  exact IsWording.isText (h.set.admits hslot value hvalue)

theorem isWorded_of_read {source : String} {d : Datum} {rule : Rule}
    (h : read source d = .ok rule) : rule.IsWorded := by
  obtain ⟨entries, parts, -, -, hparts, rfl⟩ := read_eq_ok.mp h
  exact ⟨hparts.reason_ne_empty, _, _, rfl, rfl, hparts.repeatsTexts⟩

end Rule

end SutraArbiter
